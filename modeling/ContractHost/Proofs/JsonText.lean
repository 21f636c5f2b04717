/-
  ContractHost.Proofs.JsonText — the reader gives back what the writer wrote.

  A value is `Plain` if its strings are texts and its numbers have neither a sign nor a
  tail. A reader that is due a value and is fed the compact text of a plain one, and then
  `k`, comes to where it comes when it is given the value and then fed `k`
  (`Reader.after_write`). A number or a word has no end of its own, so `k` is empty or
  begins with a character that ends them. So the text of a plain value parses as that
  value (`parse?_render`), and no two plain values have one text (`render_injective`).
-/

import ContractHost.Json.Reader
import Mathlib.Data.List.TakeWhile

namespace ContractHost

/-! ## Numbers -/

namespace Numeral

theorem isDigit_toDigits {n : Nat} {c : Char} (hc : c ∈ Nat.toDigits 10 n) : c.isDigit = true :=
  Nat.isDigit_of_mem_toDigits (by decide) (by decide) hc

/-- A number above zero does not begin with the digit zero. -/
theorem head?_toDigits_ne {n : Nat} (hn : 0 < n) : (Nat.toDigits 10 n).head? ≠ some '0' := by
  induction n using Nat.strongRecOn with
  | ind n ih =>
    rw [Nat.toDigits_eq_if (by decide)]
    split
    · rename_i hlt
      have all : ∀ d : Fin 10, 0 < d.val → Nat.digitChar d.val ≠ '0' := by decide
      simpa using all ⟨n, hlt⟩ hn
    · rename_i hge
      have hrest := ih (n / 10) (by omega) (by omega)
      rwa [List.head?_append, Option.or_of_isSome (by simp [Nat.toDigits_ne_nil])]

theorem ofChars?_toDigits (n : Nat) : ofChars? (Nat.toDigits 10 n) = some ⟨false, n, []⟩ := by
  have hall : ∀ c ∈ Nat.toDigits 10 n, c.isDigit = true := fun c => isDigit_toDigits
  have hsign : ¬ (Nat.toDigits 10 n).head? = some '-' := by
    intro hhead
    have hdigit := hall '-' (List.mem_of_mem_head? hhead)
    cases hdigit
  have hzero : ¬ ((Nat.toDigits 10 n).head? = some '0' ∧ Nat.toDigits 10 n ≠ ['0']) := by
    rintro ⟨hhead, hne⟩
    rcases Nat.eq_zero_or_pos n with rfl | hpos
    · exact hne (Nat.toDigits_zero 10)
    · exact head?_toDigits_ne hpos hhead
  have hdigits : (Nat.toDigits 10 n).takeWhile Char.isDigit = Nat.toDigits 10 n := List.takeWhile_eq_self_iff.2 hall
  have htail : (Nat.toDigits 10 n).dropWhile Char.isDigit = [] := List.dropWhile_eq_nil_iff.2 hall
  have hvalue : (Nat.toDigits 10 n).foldl (fun n c => 10 * n + (c.toNat - 48)) 0 = n := by
    have hvalue := Nat.ofDigitChars_ten_toDigits (n := n)
    rwa [Nat.ofDigitChars_eq_foldl] at hvalue
  unfold ofChars?
  simp only [if_neg hsign, hdigits, htail, hvalue]
  simp [hsign, hzero, Nat.toDigits_ne_nil]

end Numeral

/-! ## Texts -/

namespace Json

/-- No character is a surrogate. -/
theorem textOfUnits_toNat (cs : List Char) : textOfUnits (cs.map Char.toNat) = some cs := by
  have happart : ∀ c : Char, c.toNat < 0xD800 ∨ 0xDFFF < c.toNat := fun c => c.valid.imp_right And.left
  induction cs with
  | nil => rfl
  | cons c cs ih =>
    have hc := happart c
    cases cs with
    | nil =>
      simp only [List.map_cons, List.map_nil, textOfUnits, Char.ofNat_toNat]
      rw [if_neg (by omega)]
    | cons d ds =>
      simp only [List.map_cons, textOfUnits, Char.ofNat_toNat] at ih ⊢
      rw [if_neg (by omega), if_neg (by omega), ih]
      rfl

theorem value?_digitChar {d : Nat} (hd : d < 16) : Hex.value? (Nat.digitChar d) = some d := by
  have all : ∀ d : Fin 16, Hex.value? (Nat.digitChar d.val) = some d.val := by decide
  exact all ⟨d, hd⟩

namespace Reader

/-- The reader after more text, its last number or word ended. -/
def after (r : Reader) (cs : List Char) : Option Reader := (r.feedAll cs).bind settle

theorem after_cons (r : Reader) (c : Char) (cs : List Char) : r.after (c :: cs) = (r.feed c).bind (·.after cs) := by
  unfold after
  rw [feedAll]
  cases r.feed c <;> rfl

/-- An escaped character is the character. -/
theorem after_escape (due : Due) (opened : List Opened) (units : List Nat) (c : Char) (k : List Char) :
    after ⟨.text units, due, opened⟩ (escape c ++ k) = after ⟨.text (c.toNat :: units), due, opened⟩ k := by
  unfold escape
  by_cases hquote : c = '"'
  · subst hquote
    rfl
  by_cases hbackslash : c = '\\'
  · subst hbackslash
    rfl
  by_cases hfeed : c = '\n'
  · subst hfeed
    rfl
  by_cases hreturn : c = '\r'
  · subst hreturn
    rfl
  by_cases htab : c = '\t'
  · subst htab
    rfl
  rw [if_neg hquote, if_neg hbackslash, if_neg hfeed, if_neg hreturn, if_neg htab]
  by_cases hback : c.toNat = 8
  · rw [if_pos hback, hback]
    rfl
  by_cases hform : c.toNat = 12
  · rw [if_neg hback, if_pos hform, hform]
    rfl
  rw [if_neg hback, if_neg hform]
  by_cases hcontrol : c.toNat < 32
  · have hhigh : Hex.value? (Nat.digitChar (c.toNat / 16)) = some (c.toNat / 16) := value?_digitChar (by omega)
    have hlow : Hex.value? (Nat.digitChar (c.toNat % 16)) = some (c.toNat % 16) := value?_digitChar (by omega)
    have hunit : 16 * (c.toNat / 16) + c.toNat % 16 = c.toNat := Nat.div_add_mod _ _
    rw [if_pos hcontrol]
    simp [after_cons, feed, hhigh, hlow, hunit, show Hex.value? '0' = some 0 from rfl]
  · rw [if_neg hcontrol, List.singleton_append, after_cons]
    simp [feed, hquote, hbackslash, hcontrol]

theorem after_writeChars (due : Due) (opened : List Opened) (units : List Nat) (cs k : List Char) :
    after ⟨.text units, due, opened⟩ (writeChars cs k) =
      after ⟨.text ((cs.map Char.toNat).reverse ++ units), due, opened⟩ ('"' :: k) := by
  induction cs generalizing units with
  | nil => rfl
  | cons c cs ih =>
    rw [writeChars, after_escape, ih]
    simp

/-- A text is read as it was written, whatever follows it. -/
theorem after_writeText (due : Due) (opened : List Opened) (s : String) (k : List Char) :
    after ⟨.blank, due, opened⟩ (writeText (some s) k) = (string ⟨.blank, due, opened⟩ (some s)).bind (·.after k) := by
  have hopen : first ⟨.blank, due, opened⟩ '"' = some ⟨.text [], due, opened⟩ := rfl
  have hunits : textOfUnits (s.toList.map Char.toNat) = some s.toList := textOfUnits_toNat _
  rw [writeText, after_cons, feed, hopen, Option.bind_some, Option.getD_some, after_writeChars, after_cons]
  simp [feed, hunits]
  rfl

/-- Nothing follows, or a character that ends numbers and words. -/
def Ends (k : List Char) : Prop := ∀ c ∈ k.head?, c = ',' ∨ c = ']' ∨ c = '}'

theorem lexeme_put {v : Json} {opened : List Opened} {r : Reader} (hput : put v opened = some r) : r.lexeme = .blank := by
  unfold put at hput
  split at hput <;> cases hput <;> rfl

theorem after_put (v : Json) (opened : List Opened) (c : Char) (k : List Char) :
    (put v opened).bind (·.after (c :: k)) = ((put v opened).bind (·.first c)).bind (·.after k) := by
  cases hput : put v opened with
  | none => rfl
  | some r =>
    rw [Option.bind_some, Option.bind_some, after_cons, feed, lexeme_put hput]

/-- A number or word that settles as a value goes where the value goes. -/
theorem after_settled {lexeme : Lexeme} {due : Due} {opened : List Opened} {v : Json} {k : List Char} (hk : Ends k)
    (hlexeme : (∃ read, lexeme = .word read) ∨ ∃ read, lexeme = .numeral read)
    (hsettle : settle ⟨lexeme, due, opened⟩ = put v opened) :
    after ⟨lexeme, due, opened⟩ k = (put v opened).bind (·.after k) := by
  cases k with
  | nil =>
    show settle ⟨lexeme, due, opened⟩ = (put v opened).bind settle
    rw [hsettle]
    cases hput : put v opened with
    | none => rfl
    | some r => rw [Option.bind_some, settle, lexeme_put hput]
  | cons c k =>
    have hc : inWord c = false ∧ inNumeral c = false := by
      rcases hk c rfl with rfl | rfl | rfl <;> decide
    have hfeed : feed ⟨lexeme, due, opened⟩ c = (put v opened).bind (·.first c) := by
      rw [← hsettle]
      rcases hlexeme with ⟨read, rfl⟩ | ⟨read, rfl⟩ <;> simp [feed, hc]
    rw [after_put, after_cons, hfeed]

theorem after_digits (due : Due) (opened : List Opened) (read : List Char) {digits : List Char}
    (hdigits : ∀ c ∈ digits, c.isDigit = true) (k : List Char) :
    after ⟨.numeral read, due, opened⟩ (digits ++ k) = after ⟨.numeral (digits.reverse ++ read), due, opened⟩ k := by
  induction digits generalizing read with
  | nil => rfl
  | cons c cs ih =>
    have hc : inNumeral c = true := by simp [inNumeral, hdigits c (by simp)]
    rw [List.cons_append, after_cons]
    simp only [feed, hc, if_true, Option.bind_some]
    rw [ih _ fun d hd => hdigits d (by simp [hd])]
    simp

theorem first_digit (due : Due) (opened : List Opened) {c : Char} (hc : c.isDigit = true) :
    first ⟨.blank, due, opened⟩ c = some ⟨.numeral [c], due, opened⟩ := by
  have hne : ∀ d : Char, d.isDigit = false → c ≠ d := by
    rintro d hd rfl
    cases hd.symm.trans hc
  simp [first, isBlank, hne ' ' rfl, hne '\t' rfl, hne '\n' rfl, hne '\r' rfl, hne '"' rfl, hc]

theorem after_natural {due : Due} (hdue : due = .value ∨ due = .valueOrClose) (opened : List Opened) (n : Nat)
    {k : List Char} (hk : Ends k) :
    after ⟨.blank, due, opened⟩ (Nat.toDigits 10 n ++ k) = (put (natural n) opened).bind (·.after k) := by
  have hdigits : ∀ c ∈ Nat.toDigits 10 n, c.isDigit = true := fun c => Numeral.isDigit_toDigits
  have hread : after ⟨.blank, due, opened⟩ (Nat.toDigits 10 n ++ k) =
      after ⟨.numeral (Nat.toDigits 10 n).reverse, due, opened⟩ k := by
    cases hcs : Nat.toDigits 10 n with
    | nil => exact absurd hcs Nat.toDigits_ne_nil
    | cons c cs =>
      rw [hcs] at hdigits
      rw [List.cons_append, after_cons, feed, first_digit due opened (hdigits c (by simp)), Option.bind_some,
        after_digits due opened [c] fun d hd => hdigits d (by simp [hd]), List.reverse_cons]
  rw [hread, after_settled hk (.inr ⟨_, rfl⟩)]
  dsimp only [settle]
  rw [List.reverse_reverse, Numeral.ofChars?_toDigits]
  rcases hdue with rfl | rfl <;> rfl

end Reader

/-! ## Values -/

mutual

/-- Every string is a text and every number a natural one. -/
def Plain : Json → Prop
  | .null | .bool _ => True
  | .number n => n.negative = false ∧ n.tail = []
  | .string s => s.isSome = true
  | .array items => PlainItems items
  | .object fields => PlainFields fields
termination_by structural j => j

def PlainItems : List Json → Prop
  | [] => True
  | v :: vs => v.Plain ∧ PlainItems vs
termination_by structural vs => vs

def PlainFields : List (Option String × Json) → Prop
  | [] => True
  | (key, v) :: fs => key.isSome = true ∧ v.Plain ∧ PlainFields fs
termination_by structural fs => fs

end

namespace Reader

section Marks

variable (outer : List Opened) (k : List Char)

theorem after_comma (items : List Json) :
    after ⟨.blank, .commaOrClose, .array items :: outer⟩ (',' :: k) = after ⟨.blank, .value, .array items :: outer⟩ k := rfl

theorem after_commaObject (fields : List (Option String × Json)) :
    after ⟨.blank, .commaOrClose, .object fields :: outer⟩ (',' :: k) =
      after ⟨.blank, .key, .object fields :: outer⟩ k := rfl

theorem after_close (items : List Json) :
    after ⟨.blank, .commaOrClose, .array items :: outer⟩ (']' :: k) =
      (put (.array items.reverse) outer).bind (·.after k) := after_cons _ _ _

theorem after_closeObject (fields : List (Option String × Json)) :
    after ⟨.blank, .commaOrClose, .object fields :: outer⟩ ('}' :: k) =
      (put (.object fields.reverse) outer).bind (·.after k) := after_cons _ _ _

end Marks

/-- A name, a colon and a value that is read as it was written are a field. -/
theorem after_field {due : Due} (hdue : due = .key ∨ due = .keyOrClose) (outer : List Opened)
    (read : List (Option String × Json)) (key : String) {v : Json} {k : List Char}
    (hv : ∀ opened, after ⟨.blank, .value, opened⟩ (v.write k) = (put v opened).bind (·.after k)) :
    after ⟨.blank, due, .object read :: outer⟩ (writeText (some key) (':' :: v.write k)) =
      after ⟨.blank, .commaOrClose, .object ((some key, v) :: read) :: outer⟩ k := by
  have hname : string ⟨.blank, due, .object read :: outer⟩ (some key) =
      some ⟨.blank, .colon, .field read (some key) :: outer⟩ := by
    rcases hdue with rfl | rfl <;> rfl
  have hcolon : ∀ k, after ⟨.blank, .colon, .field read (some key) :: outer⟩ (':' :: k) =
      after ⟨.blank, .value, .field read (some key) :: outer⟩ k := fun k => rfl
  rw [after_writeText, hname, Option.bind_some, hcolon, hv, put, Option.bind_some]

mutual

/-- Reading a plain value as it was written is putting the value, whatever follows that ends it. -/
theorem after_write {due : Due} (hdue : due = .value ∨ due = .valueOrClose) (opened : List Opened) {k : List Char}
    (hk : Ends k) : (j : Json) → j.Plain →
      after ⟨.blank, due, opened⟩ (j.write k) = (put j opened).bind (·.after k)
  | .null, _ => by
    refine Eq.trans (rfl : _ = after ⟨.word ['l', 'l', 'u', 'n'], due, opened⟩ k) (after_settled hk (.inl ⟨_, rfl⟩) ?_)
    rcases hdue with rfl | rfl <;> rfl
  | .bool true, _ => by
    refine Eq.trans (rfl : _ = after ⟨.word ['e', 'u', 'r', 't'], due, opened⟩ k) (after_settled hk (.inl ⟨_, rfl⟩) ?_)
    rcases hdue with rfl | rfl <;> rfl
  | .bool false, _ => by
    refine Eq.trans (rfl : _ = after ⟨.word ['e', 's', 'l', 'a', 'f'], due, opened⟩ k)
      (after_settled hk (.inl ⟨_, rfl⟩) ?_)
    rcases hdue with rfl | rfl <;> rfl
  | .number ⟨negative, n, tail⟩, hplain => by
    obtain ⟨rfl, rfl⟩ : negative = false ∧ tail = [] := hplain
    exact after_natural hdue opened n hk
  | .string none, hplain => by cases hplain
  | .string (some s), _ => by
    refine (after_writeText due opened s k).trans ?_
    rcases hdue with rfl | rfl <;> rfl
  | .array items, hplain => by
    have hopen : ∀ k, after ⟨.blank, due, opened⟩ ('[' :: k) = after ⟨.blank, .valueOrClose, .array [] :: opened⟩ k := by
      rcases hdue with rfl | rfl <;> exact fun k => rfl
    refine (hopen _).trans ?_
    cases items with
    | nil => exact after_cons _ _ _
    | cons v vs => exact after_writeItems (.inr rfl) opened [] (v :: vs) (List.cons_ne_nil v vs) hplain
  | .object fields, hplain => by
    have hopen : ∀ k, after ⟨.blank, due, opened⟩ ('{' :: k) = after ⟨.blank, .keyOrClose, .object [] :: opened⟩ k := by
      rcases hdue with rfl | rfl <;> exact fun k => rfl
    refine (hopen _).trans ?_
    cases fields with
    | nil => exact after_cons _ _ _
    | cons f fs => exact after_writeFields (.inr rfl) opened [] (f :: fs) (List.cons_ne_nil f fs) hplain
termination_by structural j => j

theorem after_writeItems {due : Due} (hdue : due = .value ∨ due = .valueOrClose) (outer : List Opened)
    (read : List Json) {k : List Char} : (items : List Json) → items ≠ [] → PlainItems items →
      after ⟨.blank, due, .array read :: outer⟩ (writeItems items (']' :: k)) =
        (put (.array (read.reverse ++ items)) outer).bind (·.after k)
  | [], hne, _ => absurd rfl hne
  | [v], _, hplain => by
    have hv := after_write hdue (.array read :: outer) (k := ']' :: k) (by rintro c ⟨⟩; simp) v hplain.1
    refine hv.trans ?_
    rw [put, Option.bind_some, after_close, List.reverse_cons]
  | v :: w :: vs, _, hplain => by
    have hv := after_write hdue (.array read :: outer) (k := ',' :: writeItems (w :: vs) (']' :: k))
      (by rintro c ⟨⟩; simp) v hplain.1
    have hrest := after_writeItems (.inl rfl) outer (v :: read) (k := k) (w :: vs) (List.cons_ne_nil w vs) hplain.2
    refine hv.trans ?_
    rw [put, Option.bind_some, after_comma, hrest]
    simp
termination_by structural items => items

theorem after_writeFields {due : Due} (hdue : due = .key ∨ due = .keyOrClose) (outer : List Opened)
    (read : List (Option String × Json)) {k : List Char} :
    (fields : List (Option String × Json)) → fields ≠ [] → PlainFields fields →
      after ⟨.blank, due, .object read :: outer⟩ (writeFields fields ('}' :: k)) =
        (put (.object (read.reverse ++ fields)) outer).bind (·.after k)
  | [], hne, _ => absurd rfl hne
  | [(key, v)], _, hplain => by
    obtain ⟨⟨key, rfl⟩, hplain, -⟩ := And.imp_left Option.isSome_iff_exists.1 hplain
    have hv := fun opened => after_write (.inl rfl) opened (k := '}' :: k) (by rintro c ⟨⟩; simp) v hplain
    refine (after_field hdue outer read key hv).trans ?_
    rw [after_closeObject, List.reverse_cons]
  | (key, v) :: f :: fs, _, hplain => by
    obtain ⟨⟨key, rfl⟩, hplain, hplains⟩ := And.imp_left Option.isSome_iff_exists.1 hplain
    have hv := fun opened => after_write (.inl rfl) opened (k := ',' :: writeFields (f :: fs) ('}' :: k))
      (by rintro c ⟨⟩; simp) v hplain
    have hrest := after_writeFields (.inl rfl) outer ((some key, v) :: read) (k := k) (f :: fs)
      (List.cons_ne_nil f fs) hplains
    refine (after_field hdue outer read key hv).trans ?_
    rw [after_commaObject, hrest]
    simp
termination_by structural fields => fields

end

end Reader

/-! ## Whole texts -/

theorem parse?_render {j : Json} (hplain : j.Plain) : parse? j.render = some j := by
  have hread : (Reader.start.feedAll (j.write [])).bind Reader.settle = some ⟨.blank, .nothing j, []⟩ :=
    Reader.after_write (.inl rfl) [] (by rintro c ⟨⟩) j hplain
  rw [parse?, render, String.toList_ofList, hread]
  rfl

theorem render_injective {i j : Json} (hi : i.Plain) (hj : j.Plain) (h : i.render = j.render) : i = j := by
  have hparse := parse?_render hi
  rw [h, parse?_render hj] at hparse
  exact (Option.some.inj hparse).symm

end Json

end ContractHost
