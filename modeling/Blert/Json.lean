import Blert.JsText

/-!
JSON values, their texts, and what is read back from a text.

The numbers are whole. A text is written without white space, and read with any.
-/

namespace Blert

abbrev Text := List Char

inductive Json
  | null
  | bool (b : Bool)
  | num (n : ℤ)
  | str (s : Text)
  | arr (elements : List Json)
  | obj (members : List (Text × Json))

namespace Json

/-- The parts of an array and the members of an object have the property themselves. -/
theorem induct {motive : Json → Prop} (null : motive .null) (bool : ∀ b, motive (.bool b))
    (num : ∀ n, motive (.num n)) (str : ∀ s, motive (.str s))
    (arr : ∀ xs, (∀ x ∈ xs, motive x) → motive (.arr xs))
    (obj : ∀ ms, (∀ m ∈ ms, motive m.2) → motive (.obj ms)) (v : Json) : motive v := by
  refine Json.rec (motive_1 := motive) (motive_2 := fun xs => ∀ x ∈ xs, motive x)
    (motive_3 := fun ms => ∀ m ∈ ms, motive m.2) (motive_4 := fun m => motive m.2)
    null bool num str arr obj ?_ ?_ ?_ ?_ ?_ v
  · exact fun _ h => absurd h List.not_mem_nil
  · exact fun x xs hx hxs => List.forall_mem_cons.mpr ⟨hx, hxs⟩
  · exact fun _ h => absurd h List.not_mem_nil
  · exact fun m ms hm hms => List.forall_mem_cons.mpr ⟨hm, hms⟩
  · exact fun _ _ h => h

/-! ### Writing -/

def hexDigit (n : ℕ) : Char := Nat.digitChar n

/-- The letter that stands for a character behind a backslash. -/
def escapeLetter (c : Char) : Option Char :=
  if c = '"' then some '"'
  else if c = '\\' then some '\\'
  else if c.toNat = 8 then some 'b'
  else if c.toNat = 12 then some 'f'
  else if c = '\n' then some 'n'
  else if c = '\r' then some 'r'
  else if c = '\t' then some 't'
  else none

def quoteChar (c : Char) : Text :=
  match escapeLetter c with
  | some e => ['\\', e]
  | none =>
    if c.toNat < 32 then
      ['\\', 'u', '0', '0', hexDigit (c.toNat / 16), hexDigit (c.toNat % 16)]
    else [c]

def quote (s : Text) : Text := '"' :: (s.flatMap quoteChar ++ ['"'])

mutual

def stringify : Json → Text
  | .null => ['n', 'u', 'l', 'l']
  | .bool b => if b then ['t', 'r', 'u', 'e'] else ['f', 'a', 'l', 's', 'e']
  | .num n => JsText.intText n
  | .str s => quote s
  | .arr xs => '[' :: (List.intercalate [','] (elementTexts xs) ++ [']'])
  | .obj ms => '{' :: (List.intercalate [','] (memberTexts ms) ++ ['}'])

def elementTexts : List Json → List Text
  | [] => []
  | x :: xs => x.stringify :: elementTexts xs

def memberTexts : List (Text × Json) → List Text
  | [] => []
  | m :: ms => (quote m.1 ++ ':' :: m.2.stringify) :: memberTexts ms

end

/-! ### Reading -/

def isBlank (c : Char) : Bool := decide (c ∈ [' ', '\t', '\n', '\r'])

def skip (text : Text) : Text := text.dropWhile isBlank

def hexValue (c : Char) : Option ℕ :=
  if JsText.isHexDigit c then some (JsText.hexValue c) else none

/-- The character of an escape with four digits. Halves of a surrogate pair are refused. -/
def unicodeEscape (a b c d : Char) : Option Char := do
  let n := 4096 * (← hexValue a) + 256 * (← hexValue b) + 16 * (← hexValue c) + (← hexValue d)
  if n.isValidChar then some (Char.ofNat n) else none

/-- The character that a letter behind a backslash stands for. -/
def unescape (e : Char) : Option Char :=
  if e = '"' then some '"'
  else if e = '\\' then some '\\'
  else if e = '/' then some '/'
  else if e = 'b' then some (Char.ofNat 8)
  else if e = 'f' then some (Char.ofNat 12)
  else if e = 'n' then some '\n'
  else if e = 'r' then some '\r'
  else if e = 't' then some '\t'
  else none

/-- The rest of a string behind its opening mark. -/
def parseString : Text → Option (Text × Text)
  | [] => none
  | c :: cs =>
    if c = '"' then some ([], cs)
    else if c = '\\' then
      match cs with
      | [] => none
      | e :: cs =>
        if e = 'u' then
          match cs with
          | a :: b :: c :: d :: rest => do
            let char ← unicodeEscape a b c d
            let (s, rest) ← parseString rest
            some (char :: s, rest)
          | _ => none
        else do
          let char ← unescape e
          let (s, rest) ← parseString cs
          some (char :: s, rest)
    else if c.toNat < 32 then none
    else do
      let (s, rest) ← parseString cs
      some (c :: s, rest)

/-- A number without a sign. One that begins with a zero has no other digits, and a fraction or an
exponent is not read. -/
def parseDigits (text : Text) : Option (ℕ × Text) :=
  let digits := text.takeWhile Char.isDigit
  let rest := text.dropWhile Char.isDigit
  if digits = [] ∨ (1 < digits.length ∧ digits.head? = some '0') ∨
      rest.head?.any (· ∈ ['.', 'e', 'E']) then none
  else some (Nat.ofDigitChars 10 digits 0, rest)

def parseNumber (c : Char) (cs : Text) : Option (ℤ × Text) :=
  if c = '-' then (parseDigits cs).map fun p : ℕ × Text => (-(p.1 : ℤ), p.2)
  else (parseDigits (c :: cs)).map fun p : ℕ × Text => ((p.1 : ℤ), p.2)

def parseWord (text : Text) : Option (Json × Text) :=
  if ['n', 'u', 'l', 'l'].isPrefixOf text then some (.null, text.drop 4)
  else if ['t', 'r', 'u', 'e'].isPrefixOf text then some (.bool true, text.drop 4)
  else if ['f', 'a', 'l', 's', 'e'].isPrefixOf text then some (.bool false, text.drop 5)
  else none

mutual

def parseValue : ℕ → Text → Option (Json × Text)
  | 0, _ => none
  | fuel + 1, text =>
    match skip text with
    | [] => none
    | c :: cs =>
      if c = '"' then do
        let (s, rest) ← parseString cs
        some (.str s, rest)
      else if c = '[' then
        if (skip cs).head? = some ']' then some (.arr [], (skip cs).tail)
        else do
          let (xs, rest) ← parseElements fuel cs
          some (.arr xs, rest)
      else if c = '{' then
        if (skip cs).head? = some '}' then some (.obj [], (skip cs).tail)
        else do
          let (ms, rest) ← parseMembers fuel cs
          some (.obj ms, rest)
      else if c = '-' ∨ c.isDigit then do
        let (n, rest) ← parseNumber c cs
        some (.num n, rest)
      else parseWord (c :: cs)

/-- The elements of an array up to its end. -/
def parseElements : ℕ → Text → Option (List Json × Text)
  | 0, _ => none
  | fuel + 1, text => do
    let (x, rest) ← parseValue fuel text
    match skip rest with
    | ',' :: rest =>
      let (xs, rest) ← parseElements fuel rest
      some (x :: xs, rest)
    | ']' :: rest => some ([x], rest)
    | _ => none

/-- The members of an object up to its end. -/
def parseMembers : ℕ → Text → Option (List (Text × Json) × Text)
  | 0, _ => none
  | fuel + 1, text => do
    let (k, rest) ← (match skip text with
      | '"' :: rest => parseString rest
      | _ => none)
    let (v, rest) ← (match skip rest with
      | ':' :: rest => parseValue fuel rest
      | _ => none)
    match skip rest with
    | ',' :: rest =>
      let (ms, rest) ← parseMembers fuel rest
      some ((k, v) :: ms, rest)
    | '}' :: rest => some ([(k, v)], rest)
    | _ => none

end

/-- The value of a text with nothing but white space behind it. -/
def parse (text : Text) : Option Json := do
  let (v, rest) ← parseValue text.length text
  if skip rest = [] then some v else none

/-- A member of an object, the last one of that name. -/
def member (key : Text) : List (Text × Json) → Option Json
  | [] => none
  | m :: ms => (member key ms).or (if m.1 = key then some m.2 else none)

/-! ### Strings read back -/

lemma unescape_of_escapeLetter {c e : Char} (h : escapeLetter c = some e) :
    unescape e = some c ∧ e ≠ 'u' := by
  have hchar : ∀ n, c.toNat = n → Char.ofNat n = c := fun n hn => hn ▸ Char.ofNat_toNat c
  simp only [escapeLetter] at h
  split_ifs at h with h1 h2 h3 h4 h5 h6 h7 <;> cases h
  · exact ⟨by rw [h1]; rfl, by decide⟩
  · exact ⟨by rw [h2]; rfl, by decide⟩
  · exact ⟨by rw [← hchar 8 h3]; rfl, by decide⟩
  · exact ⟨by rw [← hchar 12 h4]; rfl, by decide⟩
  · exact ⟨by rw [h5]; rfl, by decide⟩
  · exact ⟨by rw [h6]; rfl, by decide⟩
  · exact ⟨by rw [h7]; rfl, by decide⟩

lemma hexValue_hexDigit {n : ℕ} (h : n < 16) : hexValue (hexDigit n) = some n := by
  interval_cases n <;> rfl

lemma unicodeEscape_hexDigit {c : Char} (h : c.toNat < 32) :
    unicodeEscape '0' '0' (hexDigit (c.toNat / 16)) (hexDigit (c.toNat % 16)) = some c := by
  have hzero : hexValue '0' = some 0 := rfl
  have hsum : 4096 * 0 + 256 * 0 + 16 * (c.toNat / 16) + c.toNat % 16 = c.toNat := by omega
  simp only [unicodeEscape, hzero, hexValue_hexDigit (n := c.toNat / 16) (by omega),
    hexValue_hexDigit (n := c.toNat % 16) (by omega), Option.bind_eq_bind, Option.bind_some,
    hsum, Char.ofNat_toNat]
  exact if_pos c.valid

lemma parseString_close (rest : Text) : parseString ('"' :: rest) = some ([], rest) := by
  unfold parseString
  simp

lemma parseString_quoteChar (c : Char) (rest : Text) :
    parseString (quoteChar c ++ rest) =
      (parseString rest).bind fun p => some (c :: p.1, p.2) := by
  unfold quoteChar
  split
  · rename_i e he
    obtain ⟨hback, hu⟩ := unescape_of_escapeLetter he
    rw [List.cons_append, List.cons_append, List.nil_append, parseString.eq_def]
    simp [hu, hback]
  · rename_i he
    have hquote : c ≠ '"' := by
      rintro rfl
      cases he
    have hback : c ≠ '\\' := by
      rintro rfl
      cases he
    split_ifs with hc
    · simp [parseString, unicodeEscape_hexDigit hc]
    · rw [List.cons_append, List.nil_append, parseString.eq_def]
      simp [hquote, hback, hc]

lemma parseString_quote (s rest : Text) :
    parseString (s.flatMap quoteChar ++ '"' :: rest) = some (s, rest) := by
  induction s with
  | nil => exact parseString_close rest
  | cons c s ih =>
    rw [List.flatMap_cons, List.append_assoc, parseString_quoteChar, ih]
    rfl

/-! ### Numbers read back -/

/-- What may stand behind a value: it does not carry on a number. -/
def Ends (rest : Text) : Prop := ∀ c ∈ rest.head?, c.isDigit = false ∧ c ∉ ['.', 'e', 'E']

lemma ends_nil : Ends [] := fun _ h => absurd h (by simp)

lemma head_toDigits {n : ℕ} (h : 0 < n) : (Nat.toDigits 10 n).head? ≠ some '0' := by
  induction n using Nat.strong_induction_on with
  | _ n ih =>
    rcases Nat.lt_or_ge n 10 with hlt | hge
    · rw [Nat.toDigits_of_lt_base hlt]
      interval_cases n <;> decide
    · rw [Nat.toDigits_of_base_le (by norm_num) hge,
        List.head?_append_of_ne_nil _ Nat.toDigits_ne_nil]
      exact ih (n / 10) (by omega) (by omega)

lemma head_natText {n : ℕ} (h : 1 < (JsText.natText n).length) :
    (JsText.natText n).head? ≠ some '0' := by
  rcases n.eq_zero_or_pos with rfl | hpos
  · exact absurd h (by decide)
  · exact head_toDigits hpos

lemma parseDigits_natText (n : ℕ) {rest : Text} (h : Ends rest) :
    parseDigits (JsText.natText n ++ rest) = some (n, rest) := by
  have hall : ∀ c ∈ JsText.natText n, c.isDigit = true := fun c => JsText.isDigit_of_mem_natText
  have htake : (JsText.natText n ++ rest).takeWhile Char.isDigit = JsText.natText n := by
    rw [List.takeWhile_append_of_pos hall]
    cases rest with
    | nil => simp
    | cons c rest => simp [(h c rfl).1]
  have hdrop : (JsText.natText n ++ rest).dropWhile Char.isDigit = rest := by
    rw [List.dropWhile_append_of_pos hall]
    cases rest with
    | nil => rfl
    | cons c rest => simp [(h c rfl).1]
  have hgood : ¬(JsText.natText n = [] ∨
      (1 < (JsText.natText n).length ∧ (JsText.natText n).head? = some '0') ∨
      rest.head?.any (· ∈ ['.', 'e', 'E']) = true) := by
    rintro (h1 | ⟨h1, h2⟩ | h1)
    · exact JsText.natText_ne_nil n h1
    · exact head_natText h1 h2
    · obtain ⟨c, hc, hmem⟩ := (Option.any_eq_true _ _).mp h1
      exact (h c hc).2 (of_decide_eq_true hmem)
  unfold parseDigits
  simp only [htake, hdrop, if_neg hgood]
  rw [JsText.natText, Nat.ofDigitChars_ten_toDigits]

lemma parseNumber_intText (n : ℤ) {rest : Text} (h : Ends rest) :
    ∃ c cs, JsText.intText n = c :: cs ∧ (c = '-' ∨ c.isDigit = true) ∧
      parseNumber c (cs ++ rest) = some (n, rest) := by
  have hread := parseDigits_natText n.natAbs h
  unfold JsText.intText
  split_ifs with hneg
  · refine ⟨'-', JsText.natText n.natAbs, rfl, Or.inl rfl, ?_⟩
    have hvalue : -(n.natAbs : ℤ) = n := by omega
    rw [parseNumber, if_pos rfl, hread]
    exact congrArg some (Prod.ext hvalue rfl)
  · obtain ⟨c, cs, hcs⟩ := List.exists_cons_of_ne_nil (JsText.natText_ne_nil n.natAbs)
    have hc : c.isDigit = true := JsText.isDigit_of_mem_natText (n := n.natAbs) (by simp [hcs])
    have hminus : c ≠ '-' := by
      rintro rfl
      cases hc
    have hvalue : (n.natAbs : ℤ) = n := by omega
    refine ⟨c, cs, hcs, Or.inr hc, ?_⟩
    rw [parseNumber, if_neg hminus, ← List.cons_append, ← hcs, hread]
    exact congrArg some (Prod.ext hvalue rfl)

/-! ### Values read back -/

lemma skip_cons {c : Char} (cs : Text) (h : isBlank c = false) : skip (c :: cs) = c :: cs :=
  List.dropWhile_cons_of_neg (by simp [h])

lemma isBlank_of_isDigit {c : Char} (h : c.isDigit = true) : isBlank c = false := by
  simp only [isBlank, decide_eq_false_iff_not]
  intro hmem
  simp only [List.mem_cons, List.not_mem_nil, or_false] at hmem
  rcases hmem with rfl | rfl | rfl | rfl <;> cases h

lemma stringify_head (v : Json) :
    ∃ c cs, v.stringify = c :: cs ∧ isBlank c = false ∧ c ≠ ']' := by
  cases v with
  | null => exact ⟨_, _, rfl, rfl, by decide⟩
  | bool b => cases b <;> exact ⟨_, _, rfl, rfl, by decide⟩
  | num n =>
    obtain ⟨c, cs, hcs, hc, -⟩ := parseNumber_intText n ends_nil
    refine ⟨c, cs, hcs, ?_, ?_⟩
    · rcases hc with rfl | hc
      · rfl
      · exact isBlank_of_isDigit hc
    · rintro rfl
      simp at hc
  | str s => exact ⟨_, _, rfl, rfl, by decide⟩
  | arr xs => exact ⟨_, _, rfl, rfl, by decide⟩
  | obj ms => exact ⟨_, _, rfl, rfl, by decide⟩

/-- The text is read to its end, with enough fuel for its length and a rest that does not carry it
on. -/
def ReadsBack (v : Json) : Prop :=
  ∀ fuel rest, v.stringify.length ≤ fuel → Ends rest →
    parseValue fuel (v.stringify ++ rest) = some (v, rest)

lemma ends_cons {c : Char} (rest : Text) (h : c = ',' ∨ c = ']' ∨ c = '}') : Ends (c :: rest) := by
  rintro d hd
  cases hd
  rcases h with rfl | rfl | rfl <;> decide

lemma parseElements_texts {x : Json} {xs : List Json} (h : ∀ y ∈ x :: xs, ReadsBack y) :
    ∀ fuel rest, (List.intercalate [','] (elementTexts (x :: xs))).length < fuel →
      parseElements fuel (List.intercalate [','] (elementTexts (x :: xs)) ++ ']' :: rest) =
        some (x :: xs, rest) := by
  induction xs generalizing x with
  | nil =>
    intro fuel rest hfuel
    obtain ⟨hx, -⟩ := List.forall_mem_cons.mp h
    obtain ⟨n, rfl⟩ := Nat.exists_eq_succ_of_ne_zero (Nat.ne_of_gt (Nat.zero_lt_of_lt hfuel))
    simp only [elementTexts, List.intercalate_singleton] at hfuel ⊢
    rw [parseElements, hx n _ (by omega) (ends_cons rest (by simp))]
    simp [skip_cons, isBlank]
  | cons y ys ih =>
    intro fuel rest hfuel
    obtain ⟨hx, hys⟩ := List.forall_mem_cons.mp h
    obtain ⟨n, rfl⟩ := Nat.exists_eq_succ_of_ne_zero (Nat.ne_of_gt (Nat.zero_lt_of_lt hfuel))
    have htexts : List.intercalate [','] (elementTexts (x :: y :: ys)) =
        x.stringify ++ ',' :: List.intercalate [','] (elementTexts (y :: ys)) := by
      simp [elementTexts]
    rw [htexts] at hfuel ⊢
    simp only [List.length_append, List.length_cons] at hfuel
    rw [List.append_assoc, List.cons_append, parseElements,
      hx n _ (by omega) (ends_cons _ (by simp))]
    simp [skip_cons, isBlank, ih hys n rest (by omega)]

lemma parseMembers_texts {m : Text × Json} {ms : List (Text × Json)}
    (h : ∀ m' ∈ m :: ms, ReadsBack m'.2) :
    ∀ fuel rest, (List.intercalate [','] (memberTexts (m :: ms))).length < fuel →
      parseMembers fuel (List.intercalate [','] (memberTexts (m :: ms)) ++ '}' :: rest) =
        some (m :: ms, rest) := by
  induction ms generalizing m with
  | nil =>
    intro fuel rest hfuel
    obtain ⟨hm, -⟩ := List.forall_mem_cons.mp h
    obtain ⟨n, rfl⟩ := Nat.exists_eq_succ_of_ne_zero (Nat.ne_of_gt (Nat.zero_lt_of_lt hfuel))
    simp only [memberTexts, List.intercalate_singleton, quote, List.cons_append, List.append_assoc,
      List.length_cons, List.length_append, List.length_nil] at hfuel ⊢
    have hv := hm n ('}' :: rest) (by omega) (ends_cons rest (by simp))
    simp [parseMembers, skip_cons, isBlank, parseString_quote, hv]
  | cons m' ms ih =>
    intro fuel rest hfuel
    obtain ⟨hm, hms⟩ := List.forall_mem_cons.mp h
    obtain ⟨n, rfl⟩ := Nat.exists_eq_succ_of_ne_zero (Nat.ne_of_gt (Nat.zero_lt_of_lt hfuel))
    have htexts : List.intercalate [','] (memberTexts (m :: m' :: ms)) =
        quote m.1 ++ ':' :: (m.2.stringify ++ ',' ::
          List.intercalate [','] (memberTexts (m' :: ms))) := by
      simp [memberTexts]
    rw [htexts] at hfuel ⊢
    simp only [quote, List.cons_append, List.append_assoc, List.length_cons, List.length_append,
      List.length_nil] at hfuel ⊢
    have hv := hm n (',' :: (List.intercalate [','] (memberTexts (m' :: ms)) ++ '}' :: rest))
      (by omega) (ends_cons _ (by simp))
    have hrest := ih hms n rest (by omega)
    simp [parseMembers, skip_cons, isBlank, parseString_quote, hv, hrest]

lemma parseValue_cons (fuel : ℕ) {c : Char} (cs : Text) (h : isBlank c = false) :
    parseValue (fuel + 1) (c :: cs) =
      if c = '"' then (parseString cs).bind fun p => some (.str p.1, p.2)
      else if c = '[' then
        if (skip cs).head? = some ']' then some (.arr [], (skip cs).tail)
        else (parseElements fuel cs).bind fun p => some (.arr p.1, p.2)
      else if c = '{' then
        if (skip cs).head? = some '}' then some (.obj [], (skip cs).tail)
        else (parseMembers fuel cs).bind fun p => some (.obj p.1, p.2)
      else if c = '-' ∨ c.isDigit then (parseNumber c cs).bind fun p => some (.num p.1, p.2)
      else parseWord (c :: cs) := by
  rw [parseValue, skip_cons cs h]
  rfl

lemma exists_fuel {v : Json} {fuel : ℕ} (h : v.stringify.length ≤ fuel) :
    ∃ n, fuel = n + 1 := by
  obtain ⟨c, cs, hcs, -, -⟩ := stringify_head v
  rw [hcs, List.length_cons] at h
  exact ⟨fuel - 1, by omega⟩

lemma readsBack_num (m : ℤ) : ReadsBack (.num m) := by
  intro fuel rest hfuel hrest
  obtain ⟨n, rfl⟩ := exists_fuel hfuel
  obtain ⟨c, cs, hcs, hc, hread⟩ := parseNumber_intText m hrest
  have hblank : isBlank c = false := hc.elim (fun h => h ▸ rfl) isBlank_of_isDigit
  have hne : c ≠ '"' ∧ c ≠ '[' ∧ c ≠ '{' := by
    refine ⟨?_, ?_, ?_⟩ <;> rintro rfl <;> simp at hc
  rw [stringify, hcs, List.cons_append, parseValue_cons n _ hblank, if_neg hne.1, if_neg hne.2.1,
    if_neg hne.2.2, if_pos hc, hread]
  rfl

lemma readsBack_arr {xs : List Json} (h : ∀ x ∈ xs, ReadsBack x) : ReadsBack (.arr xs) := by
  intro fuel rest hfuel hrest
  obtain ⟨n, rfl⟩ := exists_fuel hfuel
  rw [stringify, List.cons_append, List.append_assoc, parseValue_cons n _ rfl, if_neg (by decide),
    if_pos rfl]
  cases xs with
  | nil => rfl
  | cons x xs =>
    -- the text goes on with an element, which is not the end of the array
    obtain ⟨c, cs, hcs, hblank, hend⟩ := stringify_head x
    have hhead : ∃ cs', List.intercalate [','] (elementTexts (x :: xs)) = c :: cs' := by
      cases xs <;> simp [elementTexts, hcs]
    obtain ⟨cs', hcs'⟩ := hhead
    have hlong : (List.intercalate [','] (elementTexts (x :: xs))).length < n := by
      simp only [stringify, List.length_cons, List.length_append, List.length_nil] at hfuel
      omega
    have hread := parseElements_texts h n rest hlong
    rw [if_neg (by rw [hcs', List.cons_append, skip_cons _ hblank]; simpa using hend)]
    exact congrArg (Option.bind · _) hread

lemma readsBack_obj {ms : List (Text × Json)} (h : ∀ m ∈ ms, ReadsBack m.2) :
    ReadsBack (.obj ms) := by
  intro fuel rest hfuel hrest
  obtain ⟨n, rfl⟩ := exists_fuel hfuel
  rw [stringify, List.cons_append, List.append_assoc, parseValue_cons n _ rfl, if_neg (by decide),
    if_neg (by decide), if_pos rfl]
  cases ms with
  | nil => rfl
  | cons m ms =>
    have hhead : ∃ cs, List.intercalate [','] (memberTexts (m :: ms)) = '"' :: cs := by
      cases ms <;> simp [memberTexts, quote]
    obtain ⟨cs, hcs⟩ := hhead
    have hlong : (List.intercalate [','] (memberTexts (m :: ms))).length < n := by
      simp only [stringify, List.length_cons, List.length_append, List.length_nil] at hfuel
      omega
    have hread := parseMembers_texts h n rest hlong
    rw [if_neg (by rw [hcs, List.cons_append, skip_cons _ rfl]; simp)]
    exact congrArg (Option.bind · _) hread

/-- Every value is read back from its text. -/
theorem readsBack (v : Json) : ReadsBack v := by
  induction v using Json.induct with
  | null =>
    intro fuel rest hfuel hrest
    obtain ⟨n, rfl⟩ := exists_fuel hfuel
    rfl
  | bool b =>
    intro fuel rest hfuel hrest
    obtain ⟨n, rfl⟩ := exists_fuel hfuel
    cases b <;> rfl
  | num m => exact readsBack_num m
  | str s =>
    intro fuel rest hfuel hrest
    obtain ⟨n, rfl⟩ := exists_fuel hfuel
    rw [stringify, quote, List.cons_append, parseValue_cons n _ rfl, if_pos rfl, List.append_assoc]
    exact congrArg (Option.bind · _) (parseString_quote s rest)
  | arr xs ih => exact readsBack_arr ih
  | obj ms ih => exact readsBack_obj ih

theorem parse_stringify (v : Json) : parse v.stringify = some v := by
  have hread := readsBack v _ [] le_rfl ends_nil
  rw [List.append_nil] at hread
  rw [parse, hread]
  rfl

lemma stringify_ne_nil (v : Json) : v.stringify ≠ [] := by
  obtain ⟨c, cs, hcs, -, -⟩ := stringify_head v
  exact hcs ▸ List.cons_ne_nil c cs

end Json

end Blert
