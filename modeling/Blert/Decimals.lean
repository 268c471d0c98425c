import Mathlib.Tactic

/-!
Integers of a fixed width, read from their decimal form.

Digits are added up one at a time, so that a text is refused at the first character that is no
digit or leads out of the width. The decimal form of a number that fits is read as that number.
-/

namespace Blert.Decimals

inductive ParseIntError
  | empty | invalidDigit | posOverflow | negOverflow

def ParseIntError.text : ParseIntError → String
  | empty => "cannot parse integer from empty string"
  | invalidDigit => "invalid digit found in string"
  | posOverflow => "number too large to fit in target type"
  | negOverflow => "number too small to fit in target type"

def digits (bound : ℕ) (overflow : ParseIntError) (acc : ℕ) : List Char → Except ParseIntError ℕ
  | [] => .ok acc
  | c :: cs =>
    if c.isDigit then
      let value := 10 * acc + (c.toNat - '0'.toNat)
      if value ≤ bound then digits bound overflow value cs else .error overflow
    else .error .invalidDigit

def parseUnsigned (bits : ℕ) (text : String) : Except ParseIntError ℕ :=
  match text.toList with
  | [] => .error .empty
  | ['+'] | ['-'] => .error .invalidDigit
  | '+' :: cs => digits (2 ^ bits - 1) .posOverflow 0 cs
  | cs => digits (2 ^ bits - 1) .posOverflow 0 cs

def parseSigned (bits : ℕ) (text : String) : Except ParseIntError ℤ :=
  match text.toList with
  | [] => .error .empty
  | ['+'] | ['-'] => .error .invalidDigit
  | '-' :: cs => (digits (2 ^ (bits - 1)) .negOverflow 0 cs).map fun n => -(n : ℤ)
  | '+' :: cs => (digits (2 ^ (bits - 1) - 1) .posOverflow 0 cs).map Int.ofNat
  | cs => (digits (2 ^ (bits - 1) - 1) .posOverflow 0 cs).map Int.ofNat

lemma le_ofDigitChars (cs : List Char) (acc : ℕ) : acc ≤ Nat.ofDigitChars 10 cs acc := by
  rw [Nat.ofDigitChars_eq_ofDigitChars_zero]
  have hpos : 0 < 10 ^ cs.length := Nat.pow_pos (by norm_num)
  nlinarith

lemma digits_eq {bound : ℕ} {cs : List Char} (overflow : ParseIntError)
    (hdigits : ∀ c ∈ cs, c.isDigit = true) {acc : ℕ} (hle : Nat.ofDigitChars 10 cs acc ≤ bound) :
    digits bound overflow acc cs = .ok (Nat.ofDigitChars 10 cs acc) := by
  induction cs generalizing acc with
  | nil => rw [Nat.ofDigitChars_nil, digits]
  | cons c cs ih =>
    rw [Nat.ofDigitChars_cons] at hle ⊢
    have hvalue := (le_ofDigitChars cs _).trans hle
    rw [digits, if_pos (hdigits c List.mem_cons_self), if_pos hvalue]
    exact ih (fun d hd => hdigits d (List.mem_cons_of_mem _ hd)) hle

lemma toList_toString (n : ℕ) : ∃ c cs, (toString n).toList = c :: cs ∧
    (∀ d ∈ c :: cs, d.isDigit = true) ∧ Nat.ofDigitChars 10 (c :: cs) 0 = n := by
  have htext : (toString n).toList = Nat.toDigits 10 n := Nat.toList_repr
  obtain ⟨c, cs, heq⟩ := List.exists_cons_of_length_pos (Nat.length_toDigits_pos (b := 10) (n := n))
  refine ⟨c, cs, htext.trans heq, fun d hd => ?_, ?_⟩
  · exact Nat.isDigit_of_mem_toDigits (by norm_num) le_rfl (heq ▸ hd)
  · rw [← heq, Nat.ofDigitChars_ten_toDigits]

lemma toString_injective : Function.Injective (toString : ℕ → String) := by
  intro m n h
  have hdigits : (toString m).toList = (toString n).toList := congrArg String.toList h
  have htext : ∀ k : ℕ, (toString k).toList = Nat.toDigits 10 k := fun k => Nat.toList_repr
  rw [htext, htext] at hdigits
  rw [← Nat.ofDigitChars_ten_toDigits (n := m), hdigits, Nat.ofDigitChars_ten_toDigits]

lemma parseUnsigned_toString {bits n : ℕ} (h : n < 2 ^ bits) :
    parseUnsigned bits (toString n) = .ok n := by
  obtain ⟨c, cs, htext, hdigits, hvalue⟩ := toList_toString n
  have hread : digits (2 ^ bits - 1) .posOverflow 0 (c :: cs) = .ok n := by
    rw [digits_eq _ hdigits (by rw [hvalue]; omega), hvalue]
  have hc := hdigits c List.mem_cons_self
  unfold parseUnsigned
  rw [htext]
  split
  · contradiction
  · cases ‹c :: cs = ['+']›
    cases hc
  · cases ‹c :: cs = ['-']›
    cases hc
  · rename_i cs' heq
    cases heq
    cases hc
  · exact hread

lemma parseSigned_toString {bits n : ℕ} (h : n < 2 ^ (bits - 1)) :
    parseSigned bits (toString n) = .ok (n : ℤ) := by
  obtain ⟨c, cs, htext, hdigits, hvalue⟩ := toList_toString n
  have hread : digits (2 ^ (bits - 1) - 1) .posOverflow 0 (c :: cs) = .ok n := by
    rw [digits_eq _ hdigits (by rw [hvalue]; omega), hvalue]
  have hc := hdigits c List.mem_cons_self
  unfold parseSigned
  rw [htext]
  split
  · contradiction
  · cases ‹c :: cs = ['+']›
    cases hc
  · cases ‹c :: cs = ['-']›
    cases hc
  · rename_i cs' heq
    cases heq
    cases hc
  · rename_i cs' heq
    cases heq
    cases hc
  · rw [hread]
    rfl

lemma parseSigned_neg {bits n : ℕ} (h : n ≤ 2 ^ (bits - 1)) :
    parseSigned bits (String.ofList ('-' :: (toString n).toList)) = .ok (-(n : ℤ)) := by
  obtain ⟨c, cs, htext, hdigits, hvalue⟩ := toList_toString n
  have hread : digits (2 ^ (bits - 1)) .negOverflow 0 (c :: cs) = .ok n := by
    rw [digits_eq _ hdigits (by rw [hvalue]; omega), hvalue]
  unfold parseSigned
  rw [String.toList_ofList, htext]
  simp [hread, Except.map]

end Blert.Decimals
