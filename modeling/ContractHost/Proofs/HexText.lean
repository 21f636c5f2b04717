/-
  ContractHost.Proofs.HexText — the texts that are read as bytes.

  A text of bytes is any number of marks and then digits of either case, two for each byte
  (`Hex.Reading`). The marks are stripped one after another for as long as there are any, and
  still no digit is lost to them: `x` is none, so digits never begin with a mark
  (`Hex.Denotes.stripMarks_eq`), and no text has two readings. What is read are exactly the
  texts of the grammar (`Bytes.ofText?_eq_ok_iff`), as an address those of 64 digits, and
  among the texts of one byte string the one that is written has one mark and no capitals
  (`Hex.text_grammar`).
-/

import ContractHost.Record.Scalar

namespace ContractHost

namespace Hex

/-! ## The grammar -/

/-- The digits in the order of their values. -/
def numerals : List Char :=
  ['0', '1', '2', '3', '4', '5', '6', '7', '8', '9', 'a', 'b', 'c', 'd', 'e', 'f']

/-- `c` is the digit of value `n`, in either case. -/
def Digit (c : Char) (n : Nat) : Prop := numerals[n]? = some c.toLower

instance (c : Char) (n : Nat) : Decidable (Digit c n) := inferInstanceAs (Decidable (_ = _))

/-- The bytes that digits stand for, two digits a byte, the higher one first. -/
inductive Denotes : List Char → Bytes → Prop
  | nil : Denotes [] []
  | byte {hi lo : Char} {b : UInt8} {ds : List Char} {bs : Bytes} (hhi : Digit hi (b.toNat / 16))
      (hlo : Digit lo (b.toNat % 16)) (hrest : Denotes ds bs) : Denotes (hi :: lo :: ds) (b :: bs)

/-- The mark `0x`, `n` times. -/
def marks : Nat → List Char
  | 0 => []
  | n + 1 => '0' :: 'x' :: marks n

/-- The text is `n` marks and the digits `ds`, which stand for `bs`. -/
structure Reading (s : String) (n : Nat) (ds : List Char) (bs : Bytes) : Prop where
  toList : s.toList = marks n ++ ds
  denotes : Denotes ds bs

/-- The spelling of digits behind one mark and without capitals. -/
def canonical (ds : List Char) : String := String.ofList (marks 1 ++ ds.map Char.toLower)

/-! ## Digits -/

section Digits

variable {c : Char} {m n : Nat}

theorem Digit.lt (h : Digit c n) : n < 16 := (List.getElem?_eq_some_iff.1 h).1

theorem exists_digit_iff : (∃ n, Digit c n) ↔ c.toLower ∈ numerals := List.mem_iff_getElem?.symm

theorem toLower_of_mem (h : c ∈ numerals) : c.toLower = c := by
  have all : ∀ d ∈ numerals, d.toLower = d := by simp [numerals]
  exact all c h

theorem Digit.toNat_lt (h : Digit c n) : c.toNat < 128 := by
  have all : ∀ d ∈ numerals, d.toNat < 128 := by simp [numerals]
  have hmem : c.toLower ∈ numerals := exists_digit_iff.1 ⟨n, h⟩
  by_cases hupper : 'A' ≤ c ∧ c ≤ 'Z'
  · exact Nat.lt_of_le_of_lt (Char.le_def.1 hupper.2) (by decide)
  · have hsame : c.toLower = c := by
      unfold Char.toLower
      exact dif_neg hupper
    rw [hsame] at hmem
    exact all c hmem

theorem value?_bounded (h : value? c = some n) : c.toNat < 128 ∧ n < 16 := by
  have hbetween : ∀ {low high : Char}, low ≤ c ∧ c ≤ high → low.toNat ≤ c.toNat ∧ c.toNat ≤ high.toNat := id
  unfold value? at h
  split at h
  · rename_i hc
    obtain ⟨hlow, hhigh⟩ : 48 ≤ c.toNat ∧ c.toNat ≤ 57 := hbetween hc
    cases h
    omega
  split at h
  · rename_i hc
    obtain ⟨hlow, hhigh⟩ : 97 ≤ c.toNat ∧ c.toNat ≤ 102 := hbetween hc
    cases h
    omega
  split at h
  · rename_i hc
    obtain ⟨hlow, hhigh⟩ : 65 ≤ c.toNat ∧ c.toNat ≤ 70 := hbetween hc
    cases h
    omega
  · cases h

theorem value?_eq_some_iff : value? c = some n ↔ Digit c n := by
  have all : ∀ k : Fin 128, ∀ n : Fin 16, value? (Char.ofNat k.val) = some n.val ↔ Digit (Char.ofNat k.val) n.val := by
    decide +kernel
  have hbounded : c.toNat < 128 → n < 16 → (value? c = some n ↔ Digit c n) := by
    intro hc hn
    have h := all ⟨c.toNat, hc⟩ ⟨n, hn⟩
    rwa [Char.ofNat_toNat] at h
  constructor
  · intro h
    obtain ⟨hc, hn⟩ := value?_bounded h
    exact (hbounded hc hn).1 h
  · intro h
    exact (hbounded h.toNat_lt h.lt).2 h

theorem Digit.unique (h : Digit c m) (h' : Digit c n) : m = n :=
  Option.some.inj ((value?_eq_some_iff.2 h).symm.trans (value?_eq_some_iff.2 h'))

theorem digit_of_lt (h : n < 16) : numerals[n]? = some (digit n) := by
  have all : ∀ k : Fin 16, numerals[k.val]? = some (digit k.val) := by decide
  exact all ⟨n, h⟩

theorem Digit.toLower (h : Digit c n) : c.toLower = digit n :=
  Option.some.inj (h.symm.trans (digit_of_lt h.lt))

theorem Digit.utf8Size (h : Digit c n) : c.utf8Size = 1 :=
  Char.utf8Size_eq_one_iff.2 (Nat.le_of_lt_succ h.toNat_lt)

end Digits

/-! ## Two digits a byte -/

section Denotes

variable {ds : List Char} {bs : Bytes}

theorem Denotes.of_halves {hi lo : Char} {h l : Nat} (hhi : Digit hi h) (hlo : Digit lo l) (hrest : Denotes ds bs) :
    Denotes (hi :: lo :: ds) (UInt8.ofNat (16 * h + l) :: bs) := by
  have hh := hhi.lt
  have hl := hlo.lt
  have hvalue : (UInt8.ofNat (16 * h + l)).toNat = 16 * h + l := UInt8.toNat_ofNat_of_lt' (by show _ < 256; omega)
  refine .byte ?_ ?_ hrest
  · rwa [hvalue, show (16 * h + l) / 16 = h by omega]
  · rwa [hvalue, show (16 * h + l) % 16 = l by omega]

theorem Denotes.length (h : Denotes ds bs) : ds.length = 2 * bs.length := by
  induction h with
  | nil => rfl
  | byte hhi hlo hrest ih =>
    simp only [List.length_cons, ih]
    omega

theorem Denotes.byteLength (h : Denotes ds bs) : byteLength ds = 2 * bs.length := by
  induction h with
  | nil => rfl
  | byte hhi hlo hrest ih =>
    simp only [Hex.byteLength, hhi.utf8Size, hlo.utf8Size, ih, List.length_cons]
    omega

theorem Denotes.map_toLower (h : Denotes ds bs) : ds.map Char.toLower = encode bs := by
  induction h with
  | nil => rfl
  | byte hhi hlo hrest ih => simp only [List.map_cons, encode, hhi.toLower, hlo.toLower, ih]

theorem Denotes.mem_numerals (h : Denotes ds bs) : ∀ c ∈ ds, c.toLower ∈ numerals := by
  induction h with
  | nil => simp
  | byte hhi hlo hrest ih =>
    rw [List.forall_mem_cons, List.forall_mem_cons]
    exact ⟨exists_digit_iff.1 ⟨_, hhi⟩, exists_digit_iff.1 ⟨_, hlo⟩, ih⟩

theorem denotes_of_even :
    (ds : List Char) → ds.length % 2 = 0 → (∀ c ∈ ds, c.toLower ∈ numerals) → ∃ bs, Denotes ds bs
  | [], _, _ => ⟨[], .nil⟩
  | [_], heven, _ => by cases heven
  | hi :: lo :: ds, heven, hdigits => by
    rw [List.forall_mem_cons, List.forall_mem_cons] at hdigits
    obtain ⟨hhi, hlo, hrest⟩ := hdigits
    obtain ⟨h, hhi⟩ := exists_digit_iff.2 hhi
    obtain ⟨l, hlo⟩ := exists_digit_iff.2 hlo
    obtain ⟨bs, hrest⟩ := denotes_of_even ds (by simp only [List.length_cons] at heven; omega) hrest
    exact ⟨_, .of_halves hhi hlo hrest⟩

/-- What stands for bytes is even in length and has no characters but digits. -/
theorem exists_denotes_iff : (∃ bs, Denotes ds bs) ↔ ds.length % 2 = 0 ∧ ∀ c ∈ ds, c.toLower ∈ numerals := by
  constructor
  · rintro ⟨bs, h⟩
    exact ⟨by rw [h.length, Nat.mul_mod_right], h.mem_numerals⟩
  · rintro ⟨heven, hdigits⟩
    exact denotes_of_even ds heven hdigits

theorem pairs_eq_ok_iff {place : Nat} : pairs place ds = .ok bs ↔ Denotes ds bs := by
  fun_induction pairs place ds generalizing bs with
  | case1 place =>
    constructor
    · rintro ⟨⟩
      exact .nil
    · rintro ⟨⟩
      rfl
  | case2 place c => exact ⟨nofun, nofun⟩
  | case3 place hi lo ds hnone =>
    refine ⟨nofun, fun hdenotes => ?_⟩
    cases hdenotes with
    | byte hhi hlo hrest => cases hnone.symm.trans (value?_eq_some_iff.2 hhi)
  | case4 place hi lo ds h hnone hhi =>
    refine ⟨nofun, fun hdenotes => ?_⟩
    cases hdenotes with
    | byte hhi hlo hrest => cases hnone.symm.trans (value?_eq_some_iff.2 hlo)
  | case5 place hi lo ds h l hlo hhi ih =>
    have hhi := value?_eq_some_iff.1 hhi
    have hlo := value?_eq_some_iff.1 hlo
    constructor
    · intro hok
      cases hrest : pairs (place + 2) ds with
      | error e =>
        rw [hrest] at hok
        cases hok
      | ok rest =>
        rw [hrest] at hok
        cases hok
        exact .of_halves hhi hlo (ih.1 hrest)
    · intro hdenotes
      cases hdenotes with
      | byte hhi' hlo' hrest =>
        rw [ih.2 hrest, hhi.unique hhi', hlo.unique hlo', Except.map, Nat.div_add_mod, UInt8.ofNat_toNat]

theorem denotes_encode (bs : Bytes) : Denotes (encode bs) bs := pairs_eq_ok_iff.1 (pairs_encode bs 0)

theorem Denotes.unique {bs' : Bytes} (h : Denotes ds bs) (h' : Denotes ds bs') : bs = bs' :=
  Except.ok.inj ((pairs_eq_ok_iff.2 h).symm.trans (pairs_eq_ok_iff.2 h' : pairs 0 ds = .ok bs'))

/-- The digits that are written are those of the grammar without capitals. -/
theorem eq_encode_iff : ds = encode bs ↔ Denotes ds bs ∧ ∀ c ∈ ds, c ∈ numerals := by
  constructor
  · rintro rfl
    have h := denotes_encode bs
    refine ⟨h, fun c hc => ?_⟩
    rw [← h.map_toLower] at hc
    obtain ⟨d, hd, rfl⟩ := List.mem_map.1 hc
    exact h.mem_numerals d hd
  · rintro ⟨h, hlower⟩
    have hsame : ds.map Char.toLower = ds :=
      (List.map_congr_left fun c hc => toLower_of_mem (hlower c hc)).trans (List.map_id ds)
    rw [← hsame, h.map_toLower]

end Denotes

/-! ## Marks -/

section Marks

variable {m n : Nat} {ds es : List Char} {bs cs : Bytes} {s : String}

theorem stripMarks_marks (n : Nat) (ds : List Char) : stripMarks (marks n ++ ds) = stripMarks ds := by
  induction n with
  | zero => rfl
  | succ n ih => exact ih

theorem length_marks (n : Nat) : (marks n).length = 2 * n := by
  induction n with
  | zero => rfl
  | succ n ih =>
    simp only [marks, List.length_cons, ih]
    omega

theorem exists_marks (cs : List Char) : ∃ n, cs = marks n ++ stripMarks cs := by
  fun_induction stripMarks cs with
  | case1 rest ih =>
    obtain ⟨n, hrest⟩ := ih
    exact ⟨n + 1, congrArg ('0' :: 'x' :: ·) hrest⟩
  | case2 cs _ => exact ⟨0, rfl⟩

/-- No digits are taken for a mark. -/
theorem Denotes.stripMarks_eq (h : Denotes ds bs) : stripMarks ds = ds := by
  unfold stripMarks
  split
  · cases h with
    | byte hhi hlo hrest => cases value?_eq_some_iff.2 hlo
  · rfl

/-- Behind the marks stands what a reader of digits accepts, whichever reader that is. -/
theorem read_stripMarks_iff {α : Type} {read : List Char → Except α Bytes}
    (hread : ∀ ds bs, read ds = .ok bs ↔ Denotes ds bs) (text : List Char) (bs : Bytes) :
    read (stripMarks text) = .ok bs ↔ ∃ n ds, text = marks n ++ ds ∧ Denotes ds bs := by
  rw [hread]
  constructor
  · intro h
    obtain ⟨n, htext⟩ := exists_marks text
    exact ⟨n, stripMarks text, htext, h⟩
  · rintro ⟨n, ds, rfl, h⟩
    rwa [stripMarks_marks, h.stripMarks_eq]

/-- The reader of what is left of a text without its marks. -/
def readDigits (ds : List Char) : Except Error Bytes :=
  if byteLength ds % 2 = 1 then .error .oddLength else pairs 0 ds

theorem readDigits_eq_ok_iff (ds : List Char) (bs : Bytes) : readDigits ds = .ok bs ↔ Denotes ds bs := by
  unfold readDigits
  split
  · rename_i hodd
    refine ⟨nofun, fun h => ?_⟩
    rw [h.byteLength, Nat.mul_mod_right] at hodd
    cases hodd
  · exact pairs_eq_ok_iff

theorem decode_eq_ok_iff {text : List Char} :
    decode text = .ok bs ↔ ∃ n ds, text = marks n ++ ds ∧ Denotes ds bs :=
  read_stripMarks_iff readDigits_eq_ok_iff text bs

/-- No text has two readings. -/
theorem Reading.unique (h : Reading s m ds bs) (h' : Reading s n es cs) : m = n ∧ ds = es ∧ bs = cs := by
  have htext : marks m ++ ds = marks n ++ es := h.toList.symm.trans h'.toList
  have hdigits : ds = es := by
    rw [← h.denotes.stripMarks_eq, ← stripMarks_marks m, htext, stripMarks_marks, h'.denotes.stripMarks_eq]
  subst hdigits
  have hlength := congrArg List.length (List.append_cancel_right htext)
  rw [length_marks, length_marks] at hlength
  exact ⟨by omega, rfl, h.denotes.unique h'.denotes⟩

end Marks

end Hex

/-! ## Texts -/

section Texts

open Hex

variable {s : String}

theorem Bytes.ofText?_eq_ok_iff {b : Bytes} : Bytes.ofText? s = .ok b ↔ ∃ n ds, Reading s n ds b := by
  rw [Bytes.ofText?, decode_eq_ok_iff]
  constructor
  · rintro ⟨n, ds, htext, h⟩
    exact ⟨n, ds, htext, h⟩
  · rintro ⟨n, ds, htext, h⟩
    exact ⟨n, ds, htext, h⟩

theorem Bytes.toList_text (b : Bytes) : b.text.toList = marks 1 ++ encode b := String.toList_ofList

/-- Of the texts of a byte string one is written: that with one mark and without capitals. -/
theorem Bytes.eq_text_iff {b : Bytes} : s = b.text ↔ ∃ ds, Reading s 1 ds b ∧ ∀ c ∈ ds, c ∈ numerals := by
  constructor
  · rintro rfl
    obtain ⟨hdenotes, hlower⟩ := eq_encode_iff.1 (rfl : encode b = encode b)
    exact ⟨encode b, ⟨b.toList_text, hdenotes⟩, hlower⟩
  · rintro ⟨ds, h, hlower⟩
    rw [← String.toList_inj, h.toList, b.toList_text, eq_encode_iff.2 ⟨h.denotes, hlower⟩]

theorem Hex.Reading.text_eq {n : Nat} {ds : List Char} {b : Bytes} (h : Reading s n ds b) :
    b.text = canonical ds := by
  rw [canonical, h.denotes.map_toLower]
  rfl

theorem Bytes.exists_ofText?_iff : (∃ b, Bytes.ofText? s = .ok b) ↔
    ∃ n ds, s.toList = marks n ++ ds ∧ ds.length % 2 = 0 ∧ ∀ c ∈ ds, c.toLower ∈ numerals := by
  constructor
  · rintro ⟨b, hok⟩
    obtain ⟨n, ds, h⟩ := Bytes.ofText?_eq_ok_iff.1 hok
    exact ⟨n, ds, h.toList, exists_denotes_iff.1 ⟨b, h.denotes⟩⟩
  · rintro ⟨n, ds, htext, hdigits⟩
    obtain ⟨b, hdenotes⟩ := exists_denotes_iff.2 hdigits
    exact ⟨b, Bytes.ofText?_eq_ok_iff.2 ⟨n, ds, htext, hdenotes⟩⟩

theorem Address.ofText?_eq_ok_iff {a : Address} : Address.ofText? s = .ok a ↔ Bytes.ofText? s = .ok a.bytes := by
  unfold Address.ofText?
  cases Bytes.ofText? s with
  | error e => exact ⟨nofun, nofun⟩
  | ok b =>
    dsimp only
    constructor
    · intro hok
      split at hok <;> cases hok
      rfl
    · intro hok
      cases hok
      exact dif_pos a.length_eq

/-- An address is 64 digits behind the marks. -/
theorem Address.exists_ofText?_iff : (∃ a, Address.ofText? s = .ok a) ↔
    ∃ n ds, s.toList = marks n ++ ds ∧ ds.length = 64 ∧ ∀ c ∈ ds, c.toLower ∈ numerals := by
  constructor
  · rintro ⟨a, hok⟩
    obtain ⟨n, ds, h⟩ := Bytes.ofText?_eq_ok_iff.1 (ofText?_eq_ok_iff.1 hok)
    exact ⟨n, ds, h.toList, by rw [h.denotes.length, a.length_eq], h.denotes.mem_numerals⟩
  · rintro ⟨n, ds, htext, hlength, hdigits⟩
    obtain ⟨b, hdenotes⟩ := denotes_of_even ds (by rw [hlength]) hdigits
    have hbytes : b.length = 32 := by
      have := hdenotes.length
      omega
    exact ⟨⟨b, hbytes⟩, ofText?_eq_ok_iff.2 (Bytes.ofText?_eq_ok_iff.2 ⟨n, ds, htext, hdenotes⟩)⟩

/-! ### In records -/

theorem toOption_eq_some_iff {α β : Type} {x : Except α β} {b : β} : x.toOption = some b ↔ x = .ok b := by
  cases x <;> simp [Except.toOption]

theorem Json.text?_eq_some_iff {j : Json} : j.text? = some s ↔ j = .text s := by
  cases j <;> simp [Json.text?, Json.text]

theorem Bytes.ofKey?_eq_some_iff {b : Bytes} : Bytes.ofKey? s = some b ↔ Bytes.ofText? s = .ok b := toOption_eq_some_iff

theorem Address.ofKey?_eq_some_iff {a : Address} : Address.ofKey? s = some a ↔ Address.ofText? s = .ok a :=
  toOption_eq_some_iff

theorem Bytes.ofJson?_eq_some_iff {j : Json} {b : Bytes} :
    Bytes.ofJson? j = some b ↔ ∃ s, j = .text s ∧ Bytes.ofText? s = .ok b := by
  simp only [Bytes.ofJson?, Option.bind_eq_some_iff, Json.text?_eq_some_iff, toOption_eq_some_iff]

theorem Address.ofJson?_eq_some_iff {j : Json} {a : Address} :
    Address.ofJson? j = some a ↔ ∃ s, j = .text s ∧ Address.ofText? s = .ok a := by
  simp only [Address.ofJson?, Option.bind_eq_some_iff, Json.text?_eq_some_iff, toOption_eq_some_iff]

end Texts

/-- A text is read as bytes exactly if it is marks and an even number of digits, in one way only, and as the bytes that
    these stand for; as an address exactly if they are 64. Of all texts of the same bytes the one with one mark and
    without capitals is written, and it is read again. Any other reader of digits would do as well behind the marks, and
    a record has such texts and nothing else for bytes and addresses, also for its keys. -/
theorem Hex.text_grammar (s : String) :
    (∀ b, Bytes.ofText? s = .ok b ↔ ∃ n ds, Reading s n ds b ∧ b.text = canonical ds) ∧
    ((∃ b, Bytes.ofText? s = .ok b) ↔
      ∃ n ds, s.toList = marks n ++ ds ∧ ds.length % 2 = 0 ∧ ∀ c ∈ ds, c.toLower ∈ numerals) ∧
    (∀ a, Address.ofText? s = .ok a ↔ ∃ n ds, Reading s n ds a.bytes ∧ a.text = canonical ds) ∧
    ((∃ a, Address.ofText? s = .ok a) ↔
      ∃ n ds, s.toList = marks n ++ ds ∧ ds.length = 64 ∧ ∀ c ∈ ds, c.toLower ∈ numerals) ∧
    (∀ m n ds es b b', Reading s m ds b → Reading s n es b' → m = n ∧ ds = es ∧ b = b') ∧
    (∀ b : Bytes, Bytes.ofText? b.text = .ok b ∧ (s = b.text ↔ ∃ ds, Reading s 1 ds b ∧ ∀ c ∈ ds, c ∈ numerals)) ∧
    (∀ a : Address, Address.ofText? a.text = .ok a) ∧
    (∀ (α : Type) (read : List Char → Except α Bytes), (∀ ds b, read ds = .ok b ↔ Denotes ds b) →
      ∀ b, read (stripMarks s.toList) = .ok b ↔ Bytes.ofText? s = .ok b) ∧
    ((∀ b, Bytes.ofKey? s = some b ↔ Bytes.ofText? s = .ok b) ∧
      (∀ a, Address.ofKey? s = some a ↔ Address.ofText? s = .ok a) ∧
      (∀ j b, Bytes.ofJson? j = some b ↔ ∃ t, j = .text t ∧ Bytes.ofText? t = .ok b) ∧
      ∀ j a, Address.ofJson? j = some a ↔ ∃ t, j = .text t ∧ Address.ofText? t = .ok a) := by
  have hbytes : ∀ b, Bytes.ofText? s = .ok b ↔ ∃ n ds, Reading s n ds b ∧ b.text = canonical ds := by
    intro b
    rw [Bytes.ofText?_eq_ok_iff]
    constructor
    · rintro ⟨n, ds, h⟩
      exact ⟨n, ds, h, h.text_eq⟩
    · rintro ⟨n, ds, h, -⟩
      exact ⟨n, ds, h⟩
  refine ⟨hbytes, Bytes.exists_ofText?_iff, fun a => ?_, Address.exists_ofText?_iff, ?_, ?_, Address.ofText?_text, ?_, ?_⟩
  · rw [Address.ofText?_eq_ok_iff]
    exact hbytes a.bytes
  · intro m n ds es b b' h h'
    exact h.unique h'
  · intro b
    exact ⟨b.ofText?_text, Bytes.eq_text_iff⟩
  · intro α read hread b
    rw [read_stripMarks_iff hread, Bytes.ofText?, decode_eq_ok_iff]
  · exact ⟨fun b => Bytes.ofKey?_eq_some_iff, fun a => Address.ofKey?_eq_some_iff,
      fun j b => Bytes.ofJson?_eq_some_iff, fun j a => Address.ofJson?_eq_some_iff⟩

/-- Two marks and capitals are read, and written with one mark and none. -/
theorem Hex.text_grammar_marked :
    Reading "0x0x0aFF" 2 ['0', 'a', 'F', 'F'] [10, 255] ∧ Bytes.ofText? "0x0x0aFF" = .ok [10, 255] ∧
      Bytes.text [10, 255] = "0x0aff" ∧ readDigits (stripMarks "0x0x0aFF".toList) = .ok [10, 255] ∧
      ¬ ∃ a, Address.ofText? "0x0x0aFF" = .ok a := by
  have hreading : Reading "0x0x0aFF" 2 ['0', 'a', 'F', 'F'] [10, 255] :=
    ⟨rfl, .byte (by decide) (by decide) (.byte (by decide) (by decide) .nil)⟩
  obtain ⟨hbytes, -, -, haddress, -, -, -, hreaders, -⟩ := text_grammar "0x0x0aFF"
  have hread := (hbytes [10, 255]).2 ⟨2, _, hreading, rfl⟩
  refine ⟨hreading, hread, rfl, (hreaders Error readDigits readDigits_eq_ok_iff [10, 255]).2 hread, ?_⟩
  rw [haddress]
  rintro ⟨n, ds, htext, hlength, -⟩
  have hshort : 8 = (marks n ++ ds).length := congrArg List.length htext
  rw [List.length_append, hlength] at hshort
  omega

end ContractHost
