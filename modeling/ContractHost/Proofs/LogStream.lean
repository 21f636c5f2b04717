/-
  ContractHost.Proofs.LogStream — what the digest of logs is taken of.

  Logs are hashed as one stream of bytes, in which only lengths tell where a part ends. They
  are enough. An address has one length, byte strings stand behind theirs and topics behind
  their number, so an entry can be read off whatever follows it (`LogEntry.delimits_stream`).
  How many entries there are is not written, but no entry is empty: the stream ends where the
  list does, and different logs have different streams (`LogEntry.streamAll_injective`). Logs
  with one digest are therefore the same, or their streams are a collision of the digest
  (`LogEntry.streamAll_unambiguous`).
-/

import Mathlib.Algebra.Group.Nat.Defs
import ContractHost.Output

namespace ContractHost

/-! ## Delimited codes -/

/-- A valid value can be read off its code, whatever is written after it. -/
def Delimits {α : Type} (valid : α → Prop) (code : α → Bytes) : Prop :=
  ∀ ⦃a b : α⦄, valid a → valid b → ∀ ⦃rest rest' : Bytes⦄, code a ++ rest = code b ++ rest' → a = b ∧ rest = rest'

namespace Delimits

variable {α : Type} {valid : α → Prop} {code : α → Bytes}

/-- Codes that are all of one length. -/
theorem of_length {length : Nat} (hlength : ∀ a, (code a).length = length)
    (hinj : ∀ a b, valid a → valid b → code a = code b → a = b) : Delimits valid code := by
  intro a b ha hb rest rest' h
  obtain ⟨hcode, hrest⟩ := List.append_inj h ((hlength a).trans (hlength b).symm)
  exact ⟨hinj a b ha hb hcode, hrest⟩

/-- Codes one after another, where it is known how many there are. -/
theorem items (h : Delimits valid code) {as bs : List α} (hlength : as.length = bs.length) (has : ∀ a ∈ as, valid a)
    (hbs : ∀ b ∈ bs, valid b) {rest rest' : Bytes} (heq : as.flatMap code ++ rest = bs.flatMap code ++ rest') :
    as = bs ∧ rest = rest' := by
  induction as generalizing bs with
  | nil =>
    obtain rfl := List.length_eq_zero_iff.1 hlength.symm
    exact ⟨rfl, heq⟩
  | cons a as ih =>
    cases bs with
    | nil => cases hlength
    | cons b bs =>
      rw [List.forall_mem_cons] at has hbs
      simp only [List.flatMap_cons, List.append_assoc] at heq
      obtain ⟨rfl, htail⟩ := h has.1 hbs.1 heq
      obtain ⟨rfl, hrest⟩ := ih (Nat.succ.inj hlength) has.2 hbs.2 htail
      exact ⟨rfl, hrest⟩

/-- Codes one after another up to the end, where none of them is empty. -/
theorem flatMap_injective (h : Delimits valid code) (hne : ∀ a, code a ≠ []) {as bs : List α}
    (has : ∀ a ∈ as, valid a) (hbs : ∀ b ∈ bs, valid b) (heq : as.flatMap code = bs.flatMap code) : as = bs := by
  induction as generalizing bs with
  | nil =>
    cases bs with
    | nil => rfl
    | cons b bs => exact absurd (List.append_eq_nil_iff.1 heq.symm).1 (hne b)
  | cons a as ih =>
    cases bs with
    | nil => exact absurd (List.append_eq_nil_iff.1 heq).1 (hne a)
    | cons b bs =>
      rw [List.forall_mem_cons] at has hbs
      rw [List.flatMap_cons, List.flatMap_cons] at heq
      obtain ⟨rfl, htail⟩ := h has.1 hbs.1 heq
      rw [ih has.2 hbs.2 htail]

end Delimits

/-! ## Numbers and byte strings -/

namespace Bytes

theorem bigEndian64_injective {m n : Nat} (hm : m < 2 ^ 64) (hn : n < 2 ^ 64) (h : bigEndian64 m = bigEndian64 n) :
    m = n := by
  have hbyte : ∀ i < 8, m / 256 ^ i % 256 = n / 256 ^ i % 256 := by
    intro i hi
    have hi' : UInt8.ofNat (m >>> (8 * i)) = UInt8.ofNat (n >>> (8 * i)) := List.map_inj_left.1 h i (by simpa using hi)
    have htoNat := congrArg UInt8.toNat hi'
    rwa [UInt8.toNat_ofNat', UInt8.toNat_ofNat', Nat.shiftRight_eq_div_pow, Nat.shiftRight_eq_div_pow, Nat.pow_mul]
      at htoNat
  -- The lowest bytes of the two are the same number, one byte more at a time.
  have hlow : ∀ k ≤ 8, m % 256 ^ k = n % 256 ^ k := by
    intro k hk
    induction k with
    | zero => rw [Nat.pow_zero, Nat.mod_one, Nat.mod_one]
    | succ k ih => rw [Nat.pow_succ, Nat.mod_mul, Nat.mod_mul, ih (by omega), hbyte k (by omega)]
  have hall := hlow 8 (Nat.le_refl 8)
  have hpow : 256 ^ 8 = 2 ^ 64 := rfl
  rwa [hpow, Nat.mod_eq_of_lt hm, Nat.mod_eq_of_lt hn] at hall

theorem delimits_bigEndian64 : Delimits (· < 2 ^ 64) bigEndian64 :=
  .of_length (fun n => by rw [bigEndian64, List.length_map, List.length_reverse, List.length_range])
    fun _ _ => bigEndian64_injective

end Bytes

theorem Address.delimits_bytes : Delimits (fun _ => True) Address.bytes :=
  .of_length Address.length_eq fun _ _ _ _ => Address.ext

namespace LogEntry

theorem delimits_counted : Delimits (fun b : Bytes => b.length < 2 ^ 64) counted := by
  intro b b' hb hb' rest rest' h
  simp only [counted, List.append_assoc] at h
  obtain ⟨hlength, htail⟩ := Bytes.delimits_bigEndian64 hb hb' h
  exact List.append_inj htail hlength

/-! ## Entries and lists of them -/

/-- Every length of the entry fits the eight bytes that it is written in. -/
structure Sized (e : LogEntry) : Prop where
  identifier : e.identifier.length < 2 ^ 64
  topics : e.topics.length < 2 ^ 64
  topic : ∀ t ∈ e.topics, t.length < 2 ^ 64
  data : e.data.length < 2 ^ 64

instance (e : LogEntry) : Decidable e.Sized :=
  decidable_of_iff (e.identifier.length < 2 ^ 64 ∧ e.topics.length < 2 ^ 64 ∧ (∀ t ∈ e.topics, t.length < 2 ^ 64) ∧
      e.data.length < 2 ^ 64)
    ⟨fun ⟨hidentifier, htopics, htopic, hdata⟩ => ⟨hidentifier, htopics, htopic, hdata⟩,
      fun h => ⟨h.identifier, h.topics, h.topic, h.data⟩⟩

theorem delimits_stream : Delimits Sized stream := by
  intro e e' he he' rest rest' h
  simp only [stream, List.append_assoc] at h
  obtain ⟨haddress, h⟩ := Address.delimits_bytes trivial trivial h
  obtain ⟨hidentifier, h⟩ := delimits_counted he.identifier he'.identifier h
  obtain ⟨hnumber, h⟩ := Bytes.delimits_bigEndian64 he.topics he'.topics h
  obtain ⟨htopics, h⟩ := delimits_counted.items hnumber he.topic he'.topic h
  obtain ⟨hdata, hrest⟩ := delimits_counted he.data he'.data h
  refine ⟨?_, hrest⟩
  cases e
  cases e'
  simp_all

theorem stream_ne_nil (e : LogEntry) : e.stream ≠ [] := by
  intro h
  have hlength := congrArg List.length h
  simp only [stream, List.length_append, e.address.length_eq, List.length_nil] at hlength
  omega

theorem streamAll_injective {logs logs' : List LogEntry} (hsized : ∀ e ∈ logs, e.Sized) (hsized' : ∀ e ∈ logs', e.Sized)
    (h : streamAll logs = streamAll logs') : logs = logs' :=
  delimits_stream.flatMap_injective stream_ne_nil hsized hsized' h

end LogEntry

/-! ## The digest -/

/-- Two messages with one digest. -/
def Keccak.Collide (message message' : Bytes) : Prop := message ≠ message' ∧ digest message = digest message'

namespace LogEntry

/-- Logs have one stream only if they are the same, and one digest only if they are the same or their streams are a
    collision. -/
theorem streamAll_unambiguous {logs logs' : List LogEntry} (hsized : ∀ e ∈ logs, e.Sized)
    (hsized' : ∀ e ∈ logs', e.Sized) :
    (streamAll logs = streamAll logs' ↔ logs = logs') ∧
      ∀ o o' : TransactionOutput, o.logs = logs → o'.logs = logs' → o.logsDigest = o'.logsDigest →
        logs = logs' ∨ Keccak.Collide (streamAll logs) (streamAll logs') := by
  refine ⟨⟨streamAll_injective hsized hsized', congrArg streamAll⟩, ?_⟩
  rintro o o' rfl rfl hdigest
  by_cases hsame : o.logs = o'.logs
  · exact .inl hsame
  · exact .inr ⟨fun hstream => hsame (streamAll_injective hsized hsized' hstream), hdigest⟩

/-- The stream of an entry is not taken for an entry where it is the data of another, nor an identifier for a topic. -/
theorem streamAll_unambiguous_nested :
    let inner : LogEntry := ⟨.named "bob", [1], [[2], []], [3]⟩
    let nested := [⟨.named "alice", [], [], inner.stream⟩]
    let listed := [⟨.named "alice", [], [], []⟩, inner]
    let moved := [⟨.named "bob", [], [[1], [2], []], [3]⟩]
    streamAll nested ≠ streamAll listed ∧ streamAll [inner] ≠ streamAll moved ∧
      ∀ o o' : TransactionOutput, o.logs = nested → o'.logs = listed → o.logsDigest = o'.logsDigest →
        Keccak.Collide (streamAll nested) (streamAll listed) := by
  intro inner nested listed moved
  have hnested : ∀ e ∈ nested, e.Sized := by decide +kernel
  have hlisted : ∀ e ∈ listed, e.Sized := by decide +kernel
  have hinner : ∀ e ∈ [inner], e.Sized := by decide +kernel
  have hmoved : ∀ e ∈ moved, e.Sized := by decide +kernel
  have hdiffer : nested ≠ listed := by decide +kernel
  have hdiffer' : [inner] ≠ moved := by decide +kernel
  refine ⟨fun h => hdiffer ((streamAll_unambiguous hnested hlisted).1.1 h),
    fun h => hdiffer' ((streamAll_unambiguous hinner hmoved).1.1 h), fun o o' ho ho' hdigest => ?_⟩
  exact ((streamAll_unambiguous hnested hlisted).2 o o' ho ho' hdigest).resolve_left hdiffer

end LogEntry

end ContractHost
