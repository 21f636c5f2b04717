/-
  ContractHost.Proofs.RecordText — records read back from their compact text.

  A pair of a writer and a reader is `Faithful` if what is written is plain and reads as
  the value it was written for. Scalars are faithful, lists, optional values and maps of
  what is faithful are, and a record is as soon as its fields are: with names that differ,
  its slots are its fields in their order (`slots_record`). With the reader of texts this
  makes every record recoverable from its text, so that no two have the same
  (`Faithful.recovers`, `Json.recovers_records`); and a host configuration reads from its
  document exactly if it is valid.
-/

import ContractHost.Proofs.JsonText
import ContractHost.Record.Config
import ContractHost.Record.Output

namespace ContractHost

/-- Reading one by one what is readable one by one. -/
theorem mapM_eq_some_map {α β : Type} {f : α → Option β} {g : α → β} {l : List α} (h : ∀ a ∈ l, f a = some (g a)) :
    l.mapM f = some (l.map g) := by
  induction l with
  | nil => rfl
  | cons a l ih =>
    rw [List.mapM_cons, h a (by simp), ih fun b hb => h b (by simp [hb])]
    rfl

/-! ## Hexadecimal numbers -/

namespace U256

theorem mem_toDigits {n : Nat} {c : Char} (hc : c ∈ Nat.toDigits 16 n) : ∃ d < 16, c = Nat.digitChar d := by
  induction n using Nat.strongRecOn with
  | ind n ih =>
    rw [Nat.toDigits_eq_if (by decide)] at hc
    split at hc
    · exact ⟨n, by omega, by simpa using hc⟩
    · rcases List.mem_append.1 hc with hc | hc
      · exact ih (n / 16) (by omega) hc
      · exact ⟨n % 16, by omega, by simpa using hc⟩

/-- The digits of a number have its value. -/
theorem mapM_value?_toDigits (n : Nat) : ∃ digits, (Nat.toDigits 16 n).mapM Hex.value? = some digits ∧
    digits.length = (Nat.toDigits 16 n).length ∧ digits.foldl (fun n d => 16 * n + d) 0 = n := by
  induction n using Nat.strongRecOn with
  | ind n ih =>
    rw [Nat.toDigits_eq_if (by decide)]
    split
    · rename_i hlt
      exact ⟨[n], by simp [Json.value?_digitChar hlt], rfl, by simp⟩
    · rename_i hge
      obtain ⟨digits, hread, hlength, hvalue⟩ := ih (n / 16) (by omega)
      have hlast : Hex.value? (Nat.digitChar (n % 16)) = some (n % 16) := Json.value?_digitChar (by omega)
      refine ⟨digits ++ [n % 16], by simp [hread, hlast], by simp [hlength], ?_⟩
      rw [List.foldl_append, hvalue]
      exact Nat.div_add_mod n 16

theorem ofHex?_hex (n : U256) : ofHex? (hex n) = some n := by
  obtain ⟨digits, hread, hlength, hvalue⟩ := mapM_value?_toDigits n.val
  have hsize : ¬ 64 < (Nat.toDigits 16 n.val).length := by
    have hle := n.val_le
    rw [Nat.not_lt, Nat.length_toDigits_le_iff (by decide) (by decide)]
    omega
  have hspaces : (Nat.toDigits 16 n.val).filter (fun c => !c.isWhitespace) = Nat.toDigits 16 n.val := by
    refine List.filter_eq_self.2 fun c hc => ?_
    have all : ∀ d : Fin 16, (!(Nat.digitChar d.val).isWhitespace) = true := by decide
    obtain ⟨d, hd, rfl⟩ := mem_toDigits hc
    exact all ⟨d, hd⟩
  have hpadded : ∀ padded : List Nat, padded.length % 2 = 0 →
      padded.foldl (fun n d => 16 * n + d) 0 = n.val →
      Capped.ofNat? ((padded.take (2 * (padded.length / 2))).foldl (fun n d => 16 * n + d) 0) = some n := by
    intro padded heven hpadded
    rw [List.take_of_length_le (by omega), hpadded, Capped.ofNat?_val]
  unfold ofHex? hex
  simp only [String.toList_ofList, hspaces, hread, Option.bind_some]
  rw [if_neg (by simp [hsize, Nat.toDigits_ne_nil])]
  rw [← hlength]
  split
  · refine hpadded (0 :: digits) ?_ ?_
    · rw [List.length_cons]
      omega
    · simpa using hvalue
  · exact hpadded digits (by omega) hvalue

end U256

/-! ## Records -/

namespace Json

@[simp] theorem plain_text (s : String) : (text s).Plain := rfl

@[simp] theorem plain_natural (n : Nat) : (natural n).Plain := ⟨rfl, rfl⟩

@[simp] theorem plain_bool (b : Bool) : (bool b).Plain := trivial

@[simp] theorem plain_array {items : List Json} : (array items).Plain ↔ ∀ v ∈ items, v.Plain := by
  show PlainItems items ↔ _
  induction items with
  | nil => simp [PlainItems]
  | cons v vs ih => simp [PlainItems, ih]

@[simp] theorem plain_record {fields : List (String × Json)} : (record fields).Plain ↔ ∀ f ∈ fields, f.2.Plain := by
  show PlainFields (fields.map fun f => (some f.1, f.2)) ↔ _
  induction fields with
  | nil => simp [PlainFields]
  | cons f fs ih => simp [PlainFields, ih]

/-- Of names that differ each has the one value behind it. -/
theorem field?_record {fields : List (String × Json)} (hnames : (fields.map Prod.fst).Nodup) {name : String} {v : Json}
    (hmem : (name, v) ∈ fields) : field? (fields.map fun f => (some f.1, f.2)) name = some (some v) := by
  have hone : (fields.map fun f => (some f.1, f.2)).filter (fun f => f.1 = some name) = [(some name, v)] := by
    induction fields with
    | nil => cases hmem
    | cons f fs ih =>
      rw [List.map_cons, List.nodup_cons] at hnames
      rcases List.mem_cons.1 hmem with rfl | hmem
      · have hrest : (fs.map fun f => (some f.1, f.2)).filter (fun f => f.1 = some name) = [] := by
          rw [List.filter_eq_nil_iff]
          rintro ⟨key, w⟩ hw heq
          obtain ⟨g, hg, hpair⟩ := List.mem_map.1 hw
          have hkey : g.1 = name := by simpa [← (Prod.mk.inj hpair).1] using heq
          exact hnames.1 (List.mem_map.2 ⟨g, hg, hkey⟩)
        simp [hrest]
      · have hne : f.1 ≠ name := by
          rintro rfl
          exact hnames.1 (List.mem_map.2 ⟨_, hmem, rfl⟩)
        simp [hne, ih hnames.2 hmem]
  unfold field?
  rw [hone]

/-- The slots of a record are its fields in their order. -/
theorem slots_record {fields : List (String × Json)} {names : List String} (hnames : fields.map Prod.fst = names)
    (hapart : names.Nodup) : (record fields).slots names = some (fields.map fun f => some f.2) := by
  subst hnames
  have hkeys : (fields.map fun f => (some f.1, f.2)).all (·.1.isSome) = true := by simp
  have hslots : ∀ f ∈ fields, field? (fields.map fun f => (some f.1, f.2)) f.1 = some (some f.2) :=
    fun f hf => field?_record hapart hf
  show (if _ then _ else none) = _
  rw [if_pos hkeys, List.mapM_map]
  exact mapM_eq_some_map hslots

theorem fields?_record {fields : List (String × Json)} {names : List String} (hnames : fields.map Prod.fst = names)
    (hapart : names.Nodup) : (record fields).fields? names = some (fields.map Prod.snd) := by
  unfold fields?
  rw [slots_record hnames hapart, Option.bind_some, List.mapM_map]
  exact mapM_eq_some_map fun f _ => rfl

/-! ## Writers and readers -/

/-- What is written is plain and reads as the value it was written for. -/
structure Faithful {α : Type} (write : α → Json) (read : Json → Option α) : Prop where
  plain : ∀ a, (write a).Plain
  read : ∀ a, read (write a) = some a

/-- Every value reads back from its compact text, and no two have the same. -/
def Recovers {α : Type} (write : α → Json) (read : Json → Option α) : Prop :=
  (∀ a, (parse? (write a).render).bind read = some a) ∧ ∀ a b, (write a).render = (write b).render → a = b

section Faithful

variable {α : Type} {write : α → Json} {read : Json → Option α}

theorem Faithful.list (h : Faithful write read) : Faithful (fun l => array (l.map write)) (list? read) where
  plain l := by simpa using fun a _ => h.plain a
  read l := by
    show (l.map write).mapM read = some l
    rw [List.mapM_map]
    exact (mapM_eq_some_map (g := id) fun a _ => h.read a).trans (by simp)

theorem Faithful.nullable (h : Faithful write read) (hnull : ∀ a, write a ≠ .null) :
    Faithful (ofNullable write) (nullable? read) where
  plain
    | none => trivial
    | some a => h.plain a
  read
    | none => rfl
    | some a => by
      have hread := h.read a
      have hne := hnull a
      show nullable? read (write a) = some (some a)
      generalize write a = j at hread hne ⊢
      cases j with
      | null => exact absurd rfl hne
      | _ => simp [nullable?, hread]

theorem ofList_toList {κ : Type} [DecidableEq κ] [Ord κ] [Std.TransOrd κ] [Std.LawfulEqOrd κ]
    (m : Std.ExtTreeMap κ α compare) :
    Std.ExtTreeMap.ofList m.toList compare = m := by
  ext1 key
  cases hkey : m[key]? with
  | some a =>
    exact Std.ExtTreeMap.getElem?_ofList_of_mem Std.ReflCmp.compare_self Std.ExtTreeMap.distinct_keys_toList
      (Std.ExtTreeMap.mem_toList_iff_getElem?_eq_some.2 hkey)
  | none =>
    refine Std.ExtTreeMap.getElem?_ofList_of_contains_eq_false ?_
    rw [Std.ExtTreeMap.map_fst_toList_eq_keys, Std.ExtTreeMap.contains_keys, Std.ExtTreeMap.contains_eq_isSome_getElem?,
      hkey]
    rfl

/-- A map by keys that are read back from their names. -/
theorem Faithful.map {κ : Type} [DecidableEq κ] [Ord κ] [Std.TransOrd κ] [Std.LawfulEqOrd κ]
    (h : Faithful write read) {name : κ → String} {key? : String → Option κ} (hkey : ∀ key, key? (name key) = some key) :
    Faithful (fun m : Std.ExtTreeMap κ α compare => record (m.toList.map fun (key, a) => (name key, write a)))
      (fun j => (j.entries? key? read).map fun entries => .ofList entries compare) where
  plain m := by
    rw [plain_record]
    intro f hf
    obtain ⟨e, -, rfl⟩ := List.mem_map.1 hf
    exact h.plain e.2
  read m := by
    have hentries : (record (m.toList.map fun (key, a) => (name key, write a))).entries? key? read = some m.toList := by
      dsimp only [record, entries?]
      rw [List.mapM_map, List.mapM_map]
      refine (mapM_eq_some_map (g := id) fun e _ => ?_).trans (by simp)
      simp [hkey, h.read]
    rw [hentries, Option.map_some, ofList_toList]

theorem Faithful.choice {all : List α} {name : α → String} (hall : ∀ a, all.find? (name · = name a) = some a) :
    Faithful (fun a => text (name a)) (choice? all name) where
  plain _ := rfl
  read a := hall a

@[simp] theorem slotOr_some (default : α) (j : Json) : slotOr default read (some j) = read j := rfl

/-- Texts of faithful writers are read back, and tell their values apart. -/
theorem Faithful.recovers (h : Faithful write read) : Recovers write read := by
  refine ⟨fun a => ?_, fun a b htext => ?_⟩
  · rw [parse?_render (h.plain a), Option.bind_some, h.read a]
  · have hread := h.read a
    rw [render_injective (h.plain a) (h.plain b) htext, h.read b] at hread
    exact (Option.some.inj hread).symm

end Faithful

end Json

open Json (Faithful)

/-! ## Scalars -/

theorem Bytes.faithful : Faithful Bytes.toJson Bytes.ofJson? where
  plain _ := rfl
  read b := by simp [ofJson?, toJson, Json.text, Json.text?, ofText?_text, Except.toOption]

theorem Address.faithful : Faithful Address.toJson Address.ofJson? where
  plain _ := rfl
  read a := by simp [ofJson?, toJson, Json.text, Json.text?, ofText?_text, Except.toOption]

theorem Json.Faithful.bytesMap {β : Type} {write : β → Json} {read : Json → Option β} (h : Faithful write read) :
    Faithful (BytesMap.toJson write) (BytesMap.ofJson? read) :=
  h.map fun key => by simp [Bytes.ofKey?, Bytes.ofText?_text, Except.toOption]

theorem Json.Faithful.addressMap {β : Type} {write : β → Json} {read : Json → Option β} (h : Faithful write read) :
    Faithful (AddressMap.toJson write) (AddressMap.ofJson? read) :=
  h.map fun a => by simp [Address.ofKey?, Address.ofText?_text, Except.toOption]

theorem U64.faithful : Faithful U64.toJson U64.ofJson? where
  plain n := Json.plain_natural n.val
  read n := Capped.ofNat?_val n

theorem U256.faithful : Faithful U256.toJson U256.ofJson? where
  plain _ := rfl
  read n := U256.ofHex?_hex n

theorem StorageStatus.faithful : Faithful StorageStatus.toJson StorageStatus.ofJson? :=
  .choice (by rintro ⟨⟩ <;> rfl)

theorem CallMode.faithful : Faithful CallMode.toJson CallMode.ofJson? := .choice (by rintro ⟨⟩ <;> rfl)

theorem TransactionKind.faithful : Faithful TransactionKind.toJson TransactionKind.ofJson? :=
  .choice (by rintro ⟨⟩ <;> rfl)

theorem ReturnCode.faithful : Faithful ReturnCode.toJson ReturnCode.ofJson? := .choice (by rintro ⟨⟩ <;> rfl)

/-! ## Outputs, transactions and accounts -/

theorem Delta.ofSide_self (d : Delta) : ofSide d.negative d.magnitude = d := by
  apply Delta.ext
  · by_cases hzero : d.magnitude = 0
    · simp [ofSide, hzero, d.zero_side hzero]
    · simp [ofSide, hzero]
  · rfl

theorem Delta.faithful : Faithful Delta.toJson Delta.ofJson? where
  plain d := by simp [toJson, U256.faithful.plain]
  read d := by
    unfold ofJson? toJson
    rw [Json.fields?_record (by rfl) (by decide)]
    simp [Json.bool?, U256.faithful.read, ofSide_self]

theorem CodeMetadata.faithful : Faithful CodeMetadata.toJson CodeMetadata.ofJson? where
  plain m := by simp [toJson]
  read m := by
    unfold ofJson? toJson
    rw [Json.fields?_record (by rfl) (by decide)]
    simp [Json.bool?]

theorem Account.faithful : Faithful Account.toJson Account.ofJson? where
  plain a := by
    simp [toJson, U256.faithful.plain, U64.faithful.plain, Bytes.faithful.plain, CodeMetadata.faithful.plain]
  read a := by
    unfold ofJson? toJson
    rw [Json.fields?_record (by rfl) (by decide)]
    simp [U256.faithful.read, U64.faithful.read, Bytes.faithful.read, CodeMetadata.faithful.read]

theorem Transaction.faithful : Faithful Transaction.toJson Transaction.ofJson? where
  plain tx := by
    simp [toJson, TransactionKind.faithful.plain, Address.faithful.plain, U64.faithful.plain, U256.faithful.plain,
      Bytes.faithful.plain, CodeMetadata.faithful.plain]
  read tx := by
    unfold ofJson? toJson
    rw [Json.fields?_record (by rfl) (by decide), Option.bind_eq_bind, Option.bind_some]
    -- One pass over the fields, the binds last: each bind run on the way would visit all later fields again.
    simp only [List.map_cons, List.map_nil, TransactionKind.faithful.read, Address.faithful.read, U64.faithful.read,
      U256.faithful.read, Bytes.faithful.read, Bytes.faithful.list.read, CodeMetadata.faithful.read]
    rfl

theorem LogEntry.faithful : Faithful LogEntry.toJson LogEntry.ofJson? where
  plain e := by simp [toJson, Address.faithful.plain, Bytes.faithful.plain]
  read e := by
    unfold ofJson? toJson
    rw [Json.fields?_record (by rfl) (by decide)]
    simp [Address.faithful.read, Bytes.faithful.read, Bytes.faithful.list.read]

theorem StorageUpdate.faithful : Faithful StorageUpdate.toJson StorageUpdate.ofJson? where
  plain u := by simp [toJson, Bytes.faithful.plain]
  read u := by
    unfold ofJson? toJson
    rw [Json.fields?_record (by rfl) (by decide)]
    simp [Bytes.faithful.read]

theorem AccountStorage.faithful : Faithful AccountStorage.toJson AccountStorage.ofJson? :=
  StorageUpdate.faithful.bytesMap

theorem OutputAccount.faithful : Faithful OutputAccount.toJson OutputAccount.ofJson? where
  plain o := by
    have hcode := (Bytes.faithful.nullable nofun).plain o.code
    have hmetadata := (CodeMetadata.faithful.nullable nofun).plain o.metadata
    simp [toJson, Address.faithful.plain, Delta.faithful.plain, AccountStorage.faithful.plain, Bytes.faithful.plain,
      hcode, hmetadata]
  read o := by
    have hcode := (Bytes.faithful.nullable nofun).read o.code
    have hmetadata := (CodeMetadata.faithful.nullable nofun).read o.metadata
    unfold ofJson? toJson
    rw [Json.slots_record (by rfl) (by decide), Option.bind_eq_bind, Option.bind_some]
    simp only [List.map_cons, List.map_nil, Json.slotOr_some, Address.faithful.read, Delta.faithful.read,
      AccountStorage.faithful.read, Bytes.faithful.read, hcode, hmetadata]
    rfl

theorem TransactionOutput.faithful : Faithful TransactionOutput.toJson TransactionOutput.ofJson? where
  plain o := by
    simp [toJson, ReturnCode.faithful.plain, OutputAccount.faithful.addressMap.plain, Bytes.faithful.plain,
      U64.faithful.plain, LogEntry.faithful.plain]
  read o := by
    unfold ofJson? toJson
    rw [Json.fields?_record (by rfl) (by decide), Option.bind_eq_bind, Option.bind_some]
    simp only [List.map_cons, List.map_nil, ReturnCode.faithful.read, OutputAccount.faithful.addressMap.read,
      Bytes.faithful.list.read, U64.faithful.read, LogEntry.faithful.list.read]
    rfl

/-! ## Configurations -/

theorem GasSchedule.faithful (base : GasSchedule) : Faithful GasSchedule.toJson (GasSchedule.ofJson? base) where
  plain s := by simp [toJson, U64.faithful.plain]
  read s := by
    unfold ofJson? toJson
    rw [Json.slots_record (by rfl) (by decide), Option.bind_eq_bind, Option.bind_some]
    simp only [List.map_cons, List.map_nil, Json.slotOr_some, U64.faithful.read]
    rfl

theorem HostConfig.faithful : Faithful HostConfig.toJson HostConfig.ofJson? where
  plain c := by simp [toJson, Bytes.faithful.plain, U64.faithful.plain, (GasSchedule.faithful .standard).plain]
  read c := by
    unfold ofJson? toJson
    rw [Json.slots_record (by rfl) (by decide), Option.bind_eq_bind, Option.bind_some]
    simp only [List.map_cons, List.map_nil, Json.slotOr_some, Bytes.faithful.read, U64.faithful.read,
      (GasSchedule.faithful .standard).read]
    rfl

theorem ServiceConfig.faithful : Faithful ServiceConfig.toJson ServiceConfig.ofJson? where
  plain c := by simp [toJson, HostConfig.faithful.plain, U64.faithful.plain]
  read c := by
    unfold ofJson? toJson
    rw [Json.slots_record (by rfl) (by decide), Option.bind_eq_bind, Option.bind_some]
    simp only [List.map_cons, List.map_nil, Json.slotOr_some, HostConfig.faithful.read, U64.faithful.read]
    rfl

theorem HostConfig.ofDocument_text (c : HostConfig) : ofDocument c.toJson.render = c.validate.map fun _ => c := by
  unfold ofDocument
  rw [HostConfig.faithful.recovers.1 c]

theorem HostConfig.validate_of_ofDocument {document : String} {c : HostConfig} (hread : ofDocument document = .ok c) :
    c.validate = .ok () := by
  unfold ofDocument at hread
  split at hread
  · cases hread
  · rename_i c' _
    cases hvalid : c'.validate with
    | error e =>
      rw [hvalid] at hread
      cases hread
    | ok _ =>
      rw [hvalid] at hread
      cases hread
      exact hvalid

/-- Every record that is both written and read is recovered from its text. The document of a host configuration
    reads as it where it is valid and as the reason where it is not, and no other reads as a valid one. -/
theorem Json.recovers_records :
    (Recovers TransactionOutput.toJson TransactionOutput.ofJson? ∧ Recovers OutputAccount.toJson OutputAccount.ofJson? ∧
      Recovers StorageUpdate.toJson StorageUpdate.ofJson? ∧ Recovers Delta.toJson Delta.ofJson? ∧
      Recovers LogEntry.toJson LogEntry.ofJson? ∧ Recovers Transaction.toJson Transaction.ofJson? ∧
      Recovers Account.toJson Account.ofJson? ∧ Recovers CodeMetadata.toJson CodeMetadata.ofJson?) ∧
    ((∀ base, Recovers GasSchedule.toJson (GasSchedule.ofJson? base)) ∧ Recovers HostConfig.toJson HostConfig.ofJson? ∧
      Recovers ServiceConfig.toJson ServiceConfig.ofJson?) ∧
    (Recovers Address.toJson Address.ofJson? ∧ Recovers Bytes.toJson Bytes.ofJson? ∧ Recovers U64.toJson U64.ofJson? ∧
      Recovers U256.toJson U256.ofJson? ∧ Recovers TransactionKind.toJson TransactionKind.ofJson? ∧
      Recovers ReturnCode.toJson ReturnCode.ofJson? ∧ Recovers StorageStatus.toJson StorageStatus.ofJson? ∧
      Recovers CallMode.toJson CallMode.ofJson?) ∧
    (∀ c : HostConfig, (c.validate = .ok () → HostConfig.ofDocument c.toJson.render = .ok c) ∧
      ∀ e, c.validate = .error e → HostConfig.ofDocument c.toJson.render = .error e) ∧
    ∀ document c, HostConfig.ofDocument document = .ok c → c.validate = .ok () := by
  refine ⟨⟨TransactionOutput.faithful.recovers, OutputAccount.faithful.recovers, StorageUpdate.faithful.recovers,
    Delta.faithful.recovers, LogEntry.faithful.recovers, Transaction.faithful.recovers, Account.faithful.recovers,
    CodeMetadata.faithful.recovers⟩, ⟨fun base => (GasSchedule.faithful base).recovers, HostConfig.faithful.recovers,
    ServiceConfig.faithful.recovers⟩, ⟨Address.faithful.recovers, Bytes.faithful.recovers, U64.faithful.recovers,
    U256.faithful.recovers, TransactionKind.faithful.recovers, ReturnCode.faithful.recovers,
    StorageStatus.faithful.recovers, CallMode.faithful.recovers⟩, fun c => ⟨fun hvalid => ?_, fun e hinvalid => ?_⟩,
    fun document c => HostConfig.validate_of_ofDocument⟩
  · rw [HostConfig.ofDocument_text, hvalid]
    rfl
  · rw [HostConfig.ofDocument_text, hinvalid]
    rfl

end ContractHost
