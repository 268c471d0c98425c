import Mathlib.Data.List.DropRight
import Blert.Decimals

/-!
Texts of a scripting language.

Texts are lists of characters. White space is trimmed at both ends, and whole numbers are written
in decimal and read from the front of a text.
-/

namespace Blert.JsText

/-! ### White space -/

def isSpace (c : Char) : Bool :=
  decide (c.toNat ∈ [9, 10, 11, 12, 13, 32, 160, 0x1680, 0x2028, 0x2029, 0x202f, 0x205f, 0x3000,
    0xfeff]) || decide (0x2000 ≤ c.toNat ∧ c.toNat ≤ 0x200a)

def trim (text : List Char) : List Char := (text.dropWhile isSpace).rdropWhile isSpace

def Blank (text : List Char) : Prop := ∀ c ∈ text, isSpace c = true

/-- A text with no white space at either end. -/
structure Trimmed (text : List Char) : Prop where
  ne_nil : text ≠ []
  head : isSpace (text.head ne_nil) = false
  last : isSpace (text.getLast ne_nil) = false

lemma dropWhile_blank_append {a : List Char} (ha : Blank a) (b : List Char) :
    (a ++ b).dropWhile isSpace = b.dropWhile isSpace := by
  rw [List.dropWhile_append, List.dropWhile_eq_nil_iff.mpr ha]
  rfl

lemma trim_eq {a b text : List Char} (ha : Blank a) (hb : Blank b) (h : Trimmed text) :
    trim (a ++ text ++ b) = text := by
  have hhead : (text ++ b).dropWhile isSpace = text ++ b := by
    obtain ⟨c, cs, rfl⟩ := List.exists_cons_of_ne_nil h.ne_nil
    exact List.dropWhile_cons_of_neg (by simpa using h.head)
  have hlast : text.rdropWhile isSpace = text :=
    List.rdropWhile_eq_self_iff.mpr fun _ => by simpa using h.last
  have hblank : b.reverse.dropWhile isSpace = [] :=
    List.dropWhile_eq_nil_iff.mpr fun c hc => hb c (List.mem_reverse.mp hc)
  rw [trim, List.append_assoc, dropWhile_blank_append ha, hhead, List.rdropWhile,
    List.reverse_append, List.dropWhile_append, hblank]
  exact hlast

lemma Trimmed.trim_eq {text : List Char} (h : Trimmed text) : trim text = text := by
  simpa using JsText.trim_eq (a := []) (b := []) (fun _ h => absurd h (List.not_mem_nil))
    (fun _ h => absurd h List.not_mem_nil) h

/-! ### Whole numbers -/

def natText (n : ℕ) : List Char := Nat.toDigits 10 n

def intText (n : ℤ) : List Char := if n < 0 then '-' :: natText n.natAbs else natText n.natAbs

def isHexDigit (c : Char) : Bool := c.isDigit || ('a' ≤ c.toLower && c.toLower ≤ 'f')

def hexValue (c : Char) : ℕ :=
  if c.isDigit then c.toNat - '0'.toNat else c.toLower.toNat - 'a'.toNat + 10

/-- The number at the front of a text without a sign. -/
def parseNat : List Char → Option ℕ
  | '0' :: 'x' :: cs | '0' :: 'X' :: cs =>
    let digits := cs.takeWhile isHexDigit
    if digits = [] then none else some (digits.foldl (fun n c => 16 * n + hexValue c) 0)
  | cs =>
    let digits := cs.takeWhile Char.isDigit
    if digits = [] then none else some (Nat.ofDigitChars 10 digits 0)

/-- The number at the front of a text, if there is one. -/
def parseInt (text : List Char) : Option ℤ :=
  match text.dropWhile isSpace with
  | '-' :: cs => (parseNat cs).map fun n : ℕ => -(n : ℤ)
  | '+' :: cs => (parseNat cs).map Int.ofNat
  | cs => (parseNat cs).map Int.ofNat

lemma isDigit_of_mem_natText {n : ℕ} {c : Char} (h : c ∈ natText n) : c.isDigit = true :=
  Nat.isDigit_of_mem_toDigits (by norm_num) le_rfl h

lemma natText_ne_nil (n : ℕ) : natText n ≠ [] :=
  List.ne_nil_of_length_pos Nat.length_toDigits_pos

lemma isSpace_of_isDigit {c : Char} (h : c.isDigit = true) : isSpace c = false := by
  have hrange : 48 ≤ c.toNat ∧ c.toNat ≤ 57 := by
    simp only [Char.isDigit, Bool.and_eq_true, decide_eq_true_eq] at h
    exact h
  simp only [isSpace, List.mem_cons, List.not_mem_nil, or_false, Bool.or_eq_false_iff,
    decide_eq_false_iff_not]
  omega

/-- A text after which a number is not read on. -/
def EndsNumber (text : List Char) : Prop :=
  ∀ c ∈ text.head?, c.isDigit = false ∧ c ≠ 'x' ∧ c ≠ 'X'

lemma endsNumber_nil : EndsNumber [] := fun _ h => absurd h (by simp)

lemma takeWhile_natText (n : ℕ) {rest : List Char} (h : EndsNumber rest) :
    (natText n ++ rest).takeWhile Char.isDigit = natText n := by
  rw [List.takeWhile_append_of_pos fun c hc => isDigit_of_mem_natText hc]
  cases rest with
  | nil => simp
  | cons c rest => simp [(h c rfl).1]

lemma parseNat_natText (n : ℕ) {rest : List Char} (h : EndsNumber rest) :
    parseNat (natText n ++ rest) = some n := by
  have hread : (let digits := (natText n ++ rest).takeWhile Char.isDigit
      if digits = [] then none else some (Nat.ofDigitChars 10 digits 0)) = some n := by
    simp only [takeWhile_natText n h, if_neg (natText_ne_nil n)]
    rw [natText, Nat.ofDigitChars_ten_toDigits]
  -- neither the digits nor what follows them has the mark of a hexadecimal number
  have hx : ∀ x cs, x = 'x' ∨ x = 'X' → natText n ++ rest ≠ '0' :: x :: cs := by
    intro x cs hx heq
    have hmem : ∀ c ∈ natText n, c.isDigit = true := fun c => isDigit_of_mem_natText
    rcases hn : natText n with _ | ⟨c, _ | ⟨d, ds⟩⟩
    · exact natText_ne_nil n hn
    · rw [hn] at heq
      obtain ⟨-, hrest : rest = x :: cs⟩ := List.cons.inj heq
      obtain ⟨-, h1, h2⟩ := h x (by rw [hrest]; rfl)
      exact hx.elim h1 h2
    · rw [hn] at heq hmem
      obtain ⟨-, hrest⟩ := List.cons.inj heq
      obtain ⟨hd, -⟩ := List.cons.inj hrest
      have hdigit := hmem d (by simp)
      rcases hx with rfl | rfl <;> rw [hd] at hdigit <;> exact absurd hdigit (by decide)
  unfold parseNat
  split
  · exact absurd ‹_› (hx 'x' _ (Or.inl rfl))
  · exact absurd ‹_› (hx 'X' _ (Or.inr rfl))
  · exact hread

lemma parseInt_intText (n : ℤ) {rest : List Char} (h : EndsNumber rest) :
    parseInt (intText n ++ rest) = some n := by
  obtain ⟨c, cs, hcs⟩ := List.exists_cons_of_ne_nil (natText_ne_nil n.natAbs)
  have hc : c.isDigit = true := isDigit_of_mem_natText (n := n.natAbs) (by simp [hcs])
  have hread := parseNat_natText n.natAbs h
  rw [hcs] at hread
  unfold parseInt intText
  split_ifs with hneg
  · have hvalue : -(n.natAbs : ℤ) = n := by omega
    rw [hcs, List.cons_append, List.dropWhile_cons_of_neg (by decide)]
    exact (congrArg (Option.map fun n : ℕ => -(n : ℤ)) hread).trans (congrArg some hvalue)
  · have hvalue : (n.natAbs : ℤ) = n := by omega
    rw [hcs, List.cons_append, List.dropWhile_cons_of_neg (by simp [isSpace_of_isDigit hc])]
    split
    · cases ‹c :: (cs ++ rest) = '-' :: _›
      cases hc
    · cases ‹c :: (cs ++ rest) = '+' :: _›
      cases hc
    · exact (congrArg (Option.map Int.ofNat) hread).trans (congrArg some hvalue)

lemma parseInt_text (n : ℤ) : parseInt (intText n) = some n := by
  simpa using parseInt_intText n endsNumber_nil

end Blert.JsText
