import Blert.JsText
import Blert.Web.Conditions

/-!
The parser of custom search queries.

A text that is no comparison is split at the connectives outside its parentheses, and its parts
are parsed again. A part that is no expression is split into itself for ever, an end of the text
is read as if it were a character, and of a chain of connectives only the first is read from the
result.
-/

namespace Blert.Search

open JsText

/-- How a call ends without a value: at the end of the text, or of the stack. -/
inductive Failure
  | typeError | stackOverflow
  deriving DecidableEq

inductive Operator
  | compare (op : CompareOp)
  | join (op : Connective)
  deriving DecidableEq

/-- An operand as it is read, before `null` is told from the identifiers. -/
inductive RawOperand
  | number (n : ℤ)
  | identifier (name : List Char)
  deriving DecidableEq

mutual

/-- What the parser returns. An array has a part, and a connective with another part for each
further one. -/
inductive Parsed
  | null
  | condition (lhs : BaseOperand (List Char)) (op : Operator) (rhs : BaseOperand (List Char))
  | array (first : Parsed) (rest : Entries)

inductive Entries
  | nil
  | cons (op : Connective) (part : Parsed) (rest : Entries)

end

section

variable (parseInt : List Char → ℤ)

/-! ### Comparisons -/

def consumeWhitespace (text : List Char) : List Char := text.dropWhile (· = ' ')

def isDigit (c : Char) : Bool := 48 ≤ c.toNat && c.toNat ≤ 57

def isAlpha (c : Char) : Bool :=
  (65 ≤ c.toNat && c.toNat ≤ 90) || (97 ≤ c.toNat && c.toNat ≤ 122)

def isAlnum (c : Char) : Bool := isAlpha c || isDigit c

/-- The operand at the front of a text, with what follows it. -/
def tryParseOperand (text : List Char) : Except Failure (Option (RawOperand × List Char)) :=
  match text with
  | [] => .error .typeError
  | c :: _ =>
    if c = '(' ∨ c = ')' then .ok none
    else if isDigit c then
      .ok (some (.number (parseInt (text.takeWhile isDigit)), text.dropWhile isDigit))
    else if isAlpha c then
      let name := text.takeWhile isAlnum
      match text.dropWhile isAlnum with
      | ':' :: suffix =>
        let digits := suffix.takeWhile isDigit
        if digits = [] then .ok none
        else .ok (some (.identifier (name ++ ':' :: digits), suffix.dropWhile isDigit))
      | rest => .ok (some (.identifier name, rest))
    else .ok none

def tryParseOperator : List Char → Option (Operator × List Char)
  | '&' :: '&' :: rest => some (.join .and, rest)
  | '|' :: '|' :: rest => some (.join .or, rest)
  | '>' :: '=' :: rest => some (.compare .ge, rest)
  | '<' :: '=' :: rest => some (.compare .le, rest)
  | '=' :: '=' :: rest => some (.compare .eq, rest)
  | '!' :: '=' :: rest => some (.compare .ne, rest)
  | '<' :: rest => some (.compare .lt, rest)
  | '>' :: rest => some (.compare .gt, rest)
  | _ => none

def nullName : List Char := ['n', 'u', 'l', 'l']

def convertNull : RawOperand → BaseOperand (List Char)
  | .number n => .number n
  | .identifier name => if name = nullName then .null else .field name

/-- The operator of a comparison, where one with null is only for equality. -/
def nullOperator (lhs rhs : RawOperand) (op : Operator) : Option Operator :=
  if lhs = .identifier nullName ∨ rhs = .identifier nullName then
    match op with
    | .compare .eq => some (.compare .is)
    | .compare .ne => some (.compare .isnot)
    | _ => none
  else some op

def tryParseSingleCondition (expression : List Char) : Except Failure (Option Parsed) := do
  let op1 ← tryParseOperand parseInt (consumeWhitespace expression)
  match op1 with
  | none => .ok none
  | some (lhs, rest) =>
    match tryParseOperator (consumeWhitespace rest) with
    | none => .ok none
    | some (op, rest) =>
      let op2 ← tryParseOperand parseInt (consumeWhitespace rest)
      match op2 with
      | none => .ok none
      | some (rhs, rest) =>
        if consumeWhitespace rest ≠ [] then .ok none
        else
          .ok ((nullOperator lhs rhs op).map fun op =>
            .condition (convertNull lhs) op (convertNull rhs))

/-! ### Expressions -/

def connectiveAt : List Char → Option Connective
  | '&' :: '&' :: _ => some .and
  | '|' :: '|' :: _ => some .or
  | _ => none

/-- The parts of a text between the connectives outside parentheses. `part` is what has been read
since the last, of which the second character is still to be skipped if `skip` is set. -/
def splitParts (depth : ℤ) (skip : Bool) (part : List Char) :
    List Char → List Char × List (Connective × List Char)
  | [] => (trim part, [])
  | c :: cs =>
    let depth := if c = '(' then depth + 1 else if c = ')' then depth - 1 else depth
    match if depth = 0 then connectiveAt (c :: cs) else none with
    | some op =>
      let next := splitParts depth true [] cs
      (trim part, (op, next.1) :: next.2)
    | none => splitParts depth false (if skip then part else part ++ [c]) cs

def mapParts (parse : List Char → Except Failure Parsed) :
    List (Connective × List Char) → Except Failure Entries
  | [] => .ok .nil
  | (op, part) :: parts => do
    let entry ← parse part
    let entries ← mapParts parse parts
    .ok (.cons op entry entries)

/-- The parser, with a stack for so many calls. -/
def parseQuery : ℕ → List Char → Except Failure Parsed
  | 0, _ => .error .stackOverflow
  | stack + 1, expression => do
    let expression := trim expression
    let singleCondition ← tryParseSingleCondition parseInt expression
    match singleCondition with
    | some condition => .ok condition
    | none =>
      let parts := splitParts 0 false [] expression
      if parts.2 = [] ∧ parts.1.head? = some '(' ∧ parts.1.getLast? = some ')' then
        parseQuery stack parts.1.tail.dropLast
      else
        let first ← parseQuery stack parts.1
        let rest ← mapParts (parseQuery stack) parts.2
        .ok (.array first rest)

end

/-! ### Reading a tree -/

/-- A condition, as the first three entries of its array are read. -/
def Parsed.read : Parsed → Option (Condition (List Char))
  | .condition lhs (.compare op) rhs => some (.compare lhs op rhs)
  | .array first (.cons op second _) =>
    first.read.bind fun first => second.read.map (.join first op)
  | _ => none

def Parsed.Triples : Parsed → Prop
  | .condition _ _ _ => True
  | .array first (.cons _ second .nil) => first.Triples ∧ second.Triples
  | _ => False

mutual

/-- The value of an expression, in which a chain of connectives is grouped to the right. -/
def Parsed.grouped : Parsed → Option (Condition (List Char))
  | .null => none
  | .condition lhs (.compare op) rhs => some (.compare lhs op rhs)
  | .condition _ (.join _) _ => none
  | .array first rest => rest.group first.grouped

def Entries.group (first : Option (Condition (List Char))) :
    Entries → Option (Condition (List Char))
  | .nil => first
  | .cons op part rest => first.bind fun first => (rest.group part.grouped).map (.join first op)

end

/-! ### Condition expressions -/

section

variable (parseInt : List Char → ℤ)

/-- A number, or an identifier with an optional numeric suffix. -/
inductive OperandText : List Char → RawOperand → Prop
  | number {digits : List Char} (hne : digits ≠ []) (hdigits : ∀ c ∈ digits, isDigit c = true) :
    OperandText digits (.number (parseInt digits))
  | identifier {c : Char} {cs : List Char} (hc : isAlpha c = true)
    (hcs : ∀ d ∈ cs, isAlnum d = true) : OperandText (c :: cs) (.identifier (c :: cs))
  | suffixed {c : Char} {cs digits : List Char} (hc : isAlpha c = true)
    (hcs : ∀ d ∈ cs, isAlnum d = true) (hne : digits ≠ [])
    (hdigits : ∀ d ∈ digits, isDigit d = true) :
    OperandText (c :: cs ++ ':' :: digits) (.identifier (c :: cs ++ ':' :: digits))

def symbol : CompareOp → List Char
  | .lt => ['<']
  | .gt => ['>']
  | .le => ['<', '=']
  | .ge => ['>', '=']
  | .eq => ['=', '=']
  | .ne => ['!', '=']
  | .is | .isnot => []

/-- What an operator between two operands asks. Null is only compared for equality. -/
inductive Asks : RawOperand → CompareOp → RawOperand → CompareOp → Prop
  | plain {x y : RawOperand} {op : CompareOp} (hx : x ≠ .identifier nullName)
    (hy : y ≠ .identifier nullName) (hop : symbol op ≠ []) : Asks x op y op
  | isNull {x y : RawOperand} (h : x = .identifier nullName ∨ y = .identifier nullName) :
    Asks x .eq y .is
  | isNotNull {x y : RawOperand} (h : x = .identifier nullName ∨ y = .identifier nullName) :
    Asks x .ne y .isnot

def Spaces (text : List Char) : Prop := ∀ c ∈ text, c = ' '

inductive Comparison : List Char → Parsed → Prop
  | mk {l r s s' : List Char} {x y : RawOperand} {op asked : CompareOp}
    (hl : OperandText parseInt l x) (hr : OperandText parseInt r y) (hop : Asks x op y asked)
    (hs : Spaces s) (hs' : Spaces s') :
    Comparison (l ++ (s ++ (symbol op ++ (s' ++ r))))
      (.condition (convertNull x) (.compare asked) (convertNull y))

def connectiveText : Connective → List Char
  | .and => ['&', '&']
  | .or => ['|', '|']

/-- The tree of a chain of parts. One part is a tree by itself. -/
def chain (first : Parsed) : Entries → Parsed
  | .nil => first
  | rest => .array first rest

/-- A chain of comparisons and parenthesised expressions, with its first part and the others. -/
inductive Chain : List Char → Parsed → Entries → Prop
  | comparison {text : List Char} {t : Parsed} (h : Comparison parseInt text t) :
    Chain text t .nil
  | paren {a text b : List Char} {t : Parsed} {ts : Entries} (ha : Blank a) (hb : Blank b)
    (h : Chain text t ts) : Chain ('(' :: (a ++ text ++ b) ++ [')']) (chain t ts) .nil
  | cons {text a b text' : List Char} {t u : Parsed} {us : Entries} {op : Connective}
    (h : Chain text t .nil) (ha : Blank a) (hb : Blank b) (h' : Chain text' u us) :
    Chain (text ++ (a ++ (connectiveText op ++ (b ++ text')))) t (.cons op u us)

/-- A text that is a condition expression, with its tree. -/
def Expression (text : List Char) (t : Parsed) : Prop :=
  ∃ a cs b first rest, Blank a ∧ Blank b ∧ text = a ++ cs ++ b ∧ Chain parseInt cs first rest ∧
    t = chain first rest

end

/-! ### Characters -/

/-- A character that has no part in the structure of an expression. -/
def Plain (c : Char) : Prop := c ≠ '(' ∧ c ≠ ')' ∧ c ≠ '&' ∧ c ≠ '|'

lemma toNat_of_isAlnum {c : Char} (h : isAlnum c = true) :
    (48 ≤ c.toNat ∧ c.toNat ≤ 57) ∨ (65 ≤ c.toNat ∧ c.toNat ≤ 90) ∨
      (97 ≤ c.toNat ∧ c.toNat ≤ 122) := by
  simp only [isAlnum, isAlpha, isDigit, Bool.or_eq_true, Bool.and_eq_true, decide_eq_true_eq] at h
  omega

lemma plain_of_toNat {c : Char} (h : c.toNat ≠ 40 ∧ c.toNat ≠ 41 ∧ c.toNat ≠ 38 ∧ c.toNat ≠ 124) :
    Plain c := by
  refine ⟨?_, ?_, ?_, ?_⟩ <;> rintro rfl <;> revert h <;> decide

lemma plain_of_isAlnum {c : Char} (h : isAlnum c = true) : Plain c := by
  have h := toNat_of_isAlnum h
  exact plain_of_toNat (by omega)

lemma plain_of_isSpace {c : Char} (h : isSpace c = true) : Plain c := by
  simp only [isSpace, Bool.or_eq_true, decide_eq_true_eq, List.mem_cons, List.not_mem_nil,
    or_false] at h
  exact plain_of_toNat (by omega)

lemma isSpace_of_isAlnum {c : Char} (h : isAlnum c = true) : isSpace c = false := by
  have h := toNat_of_isAlnum h
  simp only [isSpace, List.mem_cons, List.not_mem_nil, or_false, Bool.or_eq_false_iff,
    decide_eq_false_iff_not]
  omega

lemma isAlnum_of_isDigit {c : Char} (h : isDigit c = true) : isAlnum c = true := by
  simp [isAlnum, h]

lemma isAlnum_of_isAlpha {c : Char} (h : isAlpha c = true) : isAlnum c = true := by
  simp [isAlnum, h]

lemma isDigit_of_isAlpha {c : Char} (h : isAlpha c = true) : isDigit c = false := by
  simp only [isAlpha, Bool.or_eq_true, Bool.and_eq_true, decide_eq_true_eq] at h
  simp only [isDigit, Bool.and_eq_false_iff, decide_eq_false_iff_not]
  omega

/-! ### Comparisons are read -/

lemma span_append {p : Char → Bool} {cs rest : List Char} (hcs : ∀ c ∈ cs, p c = true)
    (hrest : ∀ c ∈ rest.head?, p c = false) :
    (cs ++ rest).takeWhile p = cs ∧ (cs ++ rest).dropWhile p = rest := by
  rw [List.takeWhile_append_of_pos hcs, List.dropWhile_append_of_pos hcs]
  cases rest with
  | nil => simp
  | cons c rest => simp [hrest c rfl]

/-- Nothing that an operand could go on with. -/
def EndsOperand (rest : List Char) : Prop := ∀ c ∈ rest.head?, isAlnum c = false ∧ c ≠ ':'

section

variable {parseInt : List Char → ℤ}

lemma OperandText.exists_cons {cs : List Char} {x : RawOperand}
    (h : OperandText parseInt cs x) : ∃ c ds, cs = c :: ds ∧ isAlnum c = true := by
  cases h with
  | number hne hdigits =>
    obtain ⟨c, ds, rfl⟩ := List.exists_cons_of_ne_nil hne
    exact ⟨c, ds, rfl, isAlnum_of_isDigit (hdigits c List.mem_cons_self)⟩
  | identifier hc hcs => exact ⟨_, _, rfl, isAlnum_of_isAlpha hc⟩
  | suffixed hc hcs hne hdigits => exact ⟨_, _, rfl, isAlnum_of_isAlpha hc⟩

lemma tryParseOperand_eq {cs : List Char} {x : RawOperand} (h : OperandText parseInt cs x)
    {rest : List Char} (hrest : EndsOperand rest) :
    tryParseOperand parseInt (cs ++ rest) = .ok (some (x, rest)) := by
  have hdigit : ∀ c ∈ rest.head?, isDigit c = false := fun c hc => by
    have h := (hrest c hc).1
    rw [isAlnum, Bool.or_eq_false_iff] at h
    exact h.2
  have hparen : ∀ c : Char, isAlnum c = true → ¬(c = '(' ∨ c = ')') := fun c hc h => by
    obtain ⟨h1, h2, -⟩ := plain_of_isAlnum hc
    exact h.elim h1 h2
  cases h with
  | number hne hdigits =>
    obtain ⟨c, ds, rfl⟩ := List.exists_cons_of_ne_nil hne
    have hc := hdigits c List.mem_cons_self
    obtain ⟨htake, hdrop⟩ := span_append hdigits hdigit
    rw [List.cons_append] at htake hdrop
    rw [List.cons_append, tryParseOperand, if_neg (hparen c (isAlnum_of_isDigit hc)), if_pos hc,
      htake, hdrop]
  | @identifier c ds hc hcs =>
    have hall : ∀ d ∈ c :: ds, isAlnum d = true := by
      simpa [isAlnum_of_isAlpha hc] using hcs
    obtain ⟨htake, hdrop⟩ := span_append hall fun d hd => (hrest d hd).1
    rw [List.cons_append] at htake hdrop
    simp only [List.cons_append, tryParseOperand, if_neg (hparen c (isAlnum_of_isAlpha hc)),
      isDigit_of_isAlpha hc, hc, htake, hdrop, Bool.false_eq_true, if_false, if_true]
    split
    · exact absurd rfl (hrest ':' rfl).2
    · rfl
  | @suffixed c ds digits hc hcs hne hdigits =>
    have hall : ∀ d ∈ c :: ds, isAlnum d = true := by
      simpa [isAlnum_of_isAlpha hc] using hcs
    have hcolon : ∀ d ∈ (':' :: (digits ++ rest)).head?, isAlnum d = false := by
      rintro d ⟨⟩
      decide
    obtain ⟨htake, hdrop⟩ := span_append hall hcolon
    obtain ⟨htake', hdrop'⟩ := span_append hdigits hdigit
    rw [List.cons_append] at htake hdrop
    simp only [List.cons_append, List.append_assoc, tryParseOperand,
      if_neg (hparen c (isAlnum_of_isAlpha hc)), isDigit_of_isAlpha hc, hc, htake, hdrop, htake',
      hdrop', hne, Bool.false_eq_true, if_false, if_true]

lemma tryParseOperator_eq {op : CompareOp} (hop : symbol op ≠ []) {rest : List Char}
    (hrest : rest.head? ≠ some '=') :
    tryParseOperator (symbol op ++ rest) = some (.compare op, rest) := by
  cases op with
  | is | isnot => exact absurd rfl hop
  | le | ge | eq | ne => rfl
  | lt | gt =>
    simp only [symbol, List.singleton_append]
    unfold tryParseOperator
    split <;> simp_all

lemma Asks.symbol_ne_nil {x y : RawOperand} {op asked : CompareOp} (h : Asks x op y asked) :
    symbol op ≠ [] := by
  cases h with
  | plain _ _ hop => exact hop
  | isNull | isNotNull => exact List.cons_ne_nil _ _

lemma Asks.nullOperator_eq {x y : RawOperand} {op asked : CompareOp} (h : Asks x op y asked) :
    nullOperator x y (.compare op) = some (.compare asked) := by
  unfold nullOperator
  cases h with
  | plain hx hy hop => rw [if_neg (by simp [hx, hy])]
  | isNull h | isNotNull h => rw [if_pos h]

lemma consumeWhitespace_append {s : List Char} (hs : Spaces s) (rest : List Char) :
    consumeWhitespace (s ++ rest) = consumeWhitespace rest := by
  rw [consumeWhitespace, List.dropWhile_append_of_pos fun c hc => by simpa using hs c hc]
  rfl

lemma consumeWhitespace_eq {rest : List Char} (h : rest.head? ≠ some ' ') :
    consumeWhitespace rest = rest := by
  cases rest with
  | nil => rfl
  | cons c rest => exact List.dropWhile_cons_of_neg (by simpa using h)

/-- A comparison at the front of a text is read, and is the whole condition where only blanks
follow. -/
lemma tryParseSingleCondition_eq {cs : List Char} {t : Parsed} (h : Comparison parseInt cs t)
    (rest : List Char) (hrest : EndsOperand rest) :
    tryParseSingleCondition parseInt (cs ++ rest) =
      .ok (if consumeWhitespace rest ≠ [] then none else some t) := by
  obtain @⟨l, r, s, s', x, y, op, asked, hl, hr, hop, hs, hs'⟩ := h
  obtain ⟨c, l', rfl, hc⟩ := hl.exists_cons
  obtain ⟨d, r', rfl, hd⟩ := hr.exists_cons
  have hblank : ∀ (e : Char) (text : List Char), isAlnum e = true →
      (e :: text).head? ≠ some ' ' := by
    rintro e text he ⟨⟩
    exact absurd he (by decide)
  have hsymbol : ∃ e text, symbol op = e :: text ∧ isAlnum e = false ∧ e ≠ ':' ∧ e ≠ ' ' := by
    have hne := hop.symbol_ne_nil
    cases op with
    | is | isnot => exact absurd rfl hne
    | lt | gt | le | ge | eq | ne => exact ⟨_, _, rfl, by decide⟩
  obtain ⟨e, text, htext, he, hcolon, hspace⟩ := hsymbol
  have hfirst : EndsOperand (s ++ (symbol op ++ (s' ++ d :: r')) ++ rest) := by
    intro a ha
    cases s with
    | nil =>
      rw [htext] at ha
      obtain rfl : e = a := by simpa using ha
      exact ⟨he, hcolon⟩
    | cons b s =>
      obtain rfl : b = a := by simpa using ha
      rw [hs b List.mem_cons_self]
      decide
  have hequal : (s' ++ d :: r' ++ rest).head? ≠ some '=' := by
    cases s' with
    | nil =>
      rintro ⟨⟩
      exact absurd hd (by decide)
    | cons b s' =>
      rintro ⟨⟩
      exact absurd (hs' _ List.mem_cons_self) (by decide)
  have hop1 : tryParseOperand parseInt (consumeWhitespace
      (c :: l' ++ (s ++ (symbol op ++ (s' ++ d :: r'))) ++ rest)) =
        .ok (some (x, s ++ (symbol op ++ (s' ++ d :: r')) ++ rest)) := by
    rw [List.append_assoc, List.cons_append, consumeWhitespace_eq (hblank c _ hc)]
    exact tryParseOperand_eq hl hfirst
  have hoperator : tryParseOperator (consumeWhitespace
      (s ++ (symbol op ++ (s' ++ d :: r')) ++ rest)) =
        some (.compare op, s' ++ d :: r' ++ rest) := by
    rw [List.append_assoc, consumeWhitespace_append hs, List.append_assoc, consumeWhitespace_eq]
    · exact tryParseOperator_eq hop.symbol_ne_nil hequal
    · rw [htext]
      simpa using hspace
  have hop2 : tryParseOperand parseInt (consumeWhitespace (s' ++ d :: r' ++ rest)) =
      .ok (some (y, rest)) := by
    rw [List.append_assoc, consumeWhitespace_append hs', List.cons_append,
      consumeWhitespace_eq (hblank d _ hd)]
    exact tryParseOperand_eq hr hrest
  unfold tryParseSingleCondition
  rw [hop1]
  simp only [bind, Except.bind, hoperator, hop2, hop.nullOperator_eq, Option.map_some]
  split_ifs <;> rfl

/-! ### Splitting -/

lemma connectiveAt_of_plain {c : Char} (hc : Plain c) (cs : List Char) :
    connectiveAt (c :: cs) = none := by
  obtain ⟨-, -, h1, h2⟩ := hc
  unfold connectiveAt
  split <;> simp_all

lemma splitParts_plain (depth : ℤ) (part : List Char) {text : List Char}
    (h : ∀ c ∈ text, Plain c) (rest : List Char) :
    splitParts depth false part (text ++ rest) = splitParts depth false (part ++ text) rest := by
  induction text generalizing part with
  | nil => rw [List.nil_append, List.append_nil]
  | cons c text ih =>
    have hc := h c List.mem_cons_self
    rw [List.cons_append, splitParts, if_neg hc.1, if_neg hc.2.1, connectiveAt_of_plain hc]
    simp only [ite_self, Bool.false_eq_true, if_false]
    rw [ih _ fun d hd => h d (List.mem_cons_of_mem _ hd), List.append_assoc]
    rfl

lemma splitParts_inside {depth : ℤ} (hdepth : 0 < depth) (part : List Char) (op : Connective)
    (rest : List Char) :
    splitParts depth false part (connectiveText op ++ rest) =
      splitParts depth false (part ++ connectiveText op) rest := by
  cases op <;> simp [connectiveText, splitParts, hdepth.ne']

lemma splitParts_open {depth : ℤ} (hdepth : 0 ≤ depth) (part rest : List Char) :
    splitParts depth false part ('(' :: rest) =
      splitParts (depth + 1) false (part ++ ['(']) rest := by
  have hne : depth + 1 ≠ 0 := by omega
  simp [splitParts, hne]

lemma splitParts_close (depth : ℤ) (part rest : List Char) :
    splitParts (depth + 1) false part (')' :: rest) =
      splitParts depth false (part ++ [')']) rest := by
  simp [splitParts, connectiveAt]

/-- A connective outside parentheses ends a part. What follows is not read as one with its second
character. -/
lemma splitParts_connective (part : List Char) (op : Connective) {rest : List Char}
    (hrest : ∀ c ∈ rest.head?, c ≠ '&' ∧ c ≠ '|') :
    splitParts 0 false part (connectiveText op ++ rest) =
      (trim part, (op, (splitParts 0 false [] rest).1) :: (splitParts 0 false [] rest).2) := by
  have hnext : connectiveAt ('&' :: rest) = none ∧ connectiveAt ('|' :: rest) = none := by
    cases rest with
    | nil => exact ⟨rfl, rfl⟩
    | cons c rest =>
      obtain ⟨h1, h2⟩ := hrest c rfl
      constructor <;> unfold connectiveAt <;> split <;> simp_all
  have hand : connectiveAt ('&' :: '&' :: rest) = some .and := rfl
  have hor : connectiveAt ('|' :: '|' :: rest) = some .or := rfl
  cases op <;> simp [connectiveText, splitParts, hand, hor, hnext]

lemma OperandText.isAlnum_or {cs : List Char} {x : RawOperand} (h : OperandText parseInt cs x) :
    ∀ c ∈ cs, isAlnum c = true ∨ c = ':' := by
  cases h with
  | number hne hdigits => exact fun c hc => Or.inl (isAlnum_of_isDigit (hdigits c hc))
  | identifier hc hcs =>
    intro d hd
    rcases List.mem_cons.mp hd with rfl | hd
    · exact Or.inl (isAlnum_of_isAlpha hc)
    · exact Or.inl (hcs d hd)
  | suffixed hc hcs hne hdigits =>
    intro d hd
    rcases List.mem_append.mp hd with hd | hd
    · rcases List.mem_cons.mp hd with rfl | hd
      · exact Or.inl (isAlnum_of_isAlpha hc)
      · exact Or.inl (hcs d hd)
    · rcases List.mem_cons.mp hd with rfl | hd
      · exact Or.inr rfl
      · exact Or.inl (isAlnum_of_isDigit (hdigits d hd))

lemma OperandText.plain {cs : List Char} {x : RawOperand} (h : OperandText parseInt cs x) :
    ∀ c ∈ cs, Plain c := by
  intro c hc
  rcases h.isAlnum_or c hc with h | rfl
  · exact plain_of_isAlnum h
  · exact plain_of_toNat (by decide)

lemma Comparison.plain {cs : List Char} {t : Parsed} (h : Comparison parseInt cs t) :
    ∀ c ∈ cs, Plain c := by
  obtain @⟨l, r, s, s', x, y, op, asked, hl, hr, hop, hs, hs'⟩ := h
  have hspace : ∀ s, Spaces s → ∀ c ∈ s, Plain c := fun s hs c hc => by
    rw [hs c hc]
    exact plain_of_toNat (by decide)
  have hsymbol : ∀ c ∈ symbol op, Plain c := by
    cases op <;> simp [symbol, Plain]
  intro c hc
  simp only [List.mem_append] at hc
  rcases hc with hc | hc | hc | hc | hc
  · exact hl.plain c hc
  · exact hspace s hs c hc
  · exact hsymbol c hc
  · exact hspace s' hs' c hc
  · exact hr.plain c hc

lemma Chain.splitParts_inside {text : List Char} {t : Parsed} {ts : Entries}
    (h : Chain parseInt text t ts) {depth : ℤ} (hdepth : 0 < depth) (part rest : List Char) :
    splitParts depth false part (text ++ rest) = splitParts depth false (part ++ text) rest := by
  induction h generalizing depth part rest with
  | comparison h => exact splitParts_plain depth part h.plain rest
  | paren ha hb h ih =>
    have hblank : ∀ {a}, Blank a → ∀ c ∈ a, Plain c := fun ha c hc => plain_of_isSpace (ha c hc)
    simp only [List.cons_append, List.append_assoc, List.nil_append]
    rw [splitParts_open hdepth.le, splitParts_plain _ _ (hblank ha), ih (by omega),
      splitParts_plain _ _ (hblank hb), splitParts_close]
    simp only [List.cons_append, List.append_assoc, List.nil_append]
  | cons h ha hb h' ih ih' =>
    have hblank : ∀ {a}, Blank a → ∀ c ∈ a, Plain c := fun ha c hc => plain_of_isSpace (ha c hc)
    simp only [List.append_assoc]
    rw [ih hdepth, splitParts_plain _ _ (hblank ha), Search.splitParts_inside hdepth,
      splitParts_plain _ _ (hblank hb), ih' hdepth]
    simp only [List.append_assoc]

lemma Chain.splitParts_part {text : List Char} {t : Parsed} (h : Chain parseInt text t .nil)
    (part rest : List Char) :
    splitParts 0 false part (text ++ rest) = splitParts 0 false (part ++ text) rest := by
  cases h with
  | comparison h => exact splitParts_plain 0 part h.plain rest
  | paren ha hb h =>
    have hblank : ∀ {a}, Blank a → ∀ c ∈ a, Plain c := fun ha c hc => plain_of_isSpace (ha c hc)
    have hclose := splitParts_close 0
    rw [zero_add] at hclose
    simp only [List.cons_append, List.append_assoc, List.nil_append]
    rw [splitParts_open le_rfl, zero_add, splitParts_plain _ _ (hblank ha),
      h.splitParts_inside one_pos, splitParts_plain _ _ (hblank hb), hclose]
    simp only [List.cons_append, List.append_assoc, List.nil_append]

lemma OperandText.getLast {cs : List Char} {x : RawOperand} (h : OperandText parseInt cs x)
    (hne : cs ≠ []) : isAlnum (cs.getLast hne) = true := by
  cases h with
  | number hne' hdigits => exact isAlnum_of_isDigit (hdigits _ (List.getLast_mem hne'))
  | identifier hc hcs =>
    rcases List.mem_cons.mp (List.getLast_mem hne) with h | h
    · rw [h]
      exact isAlnum_of_isAlpha hc
    · exact hcs _ h
  | suffixed hc hcs hne' hdigits =>
    rw [List.getLast_append_of_ne_nil _ (List.cons_ne_nil _ _), List.getLast_cons hne']
    exact isAlnum_of_isDigit (hdigits _ (List.getLast_mem hne'))

lemma Comparison.trimmed {cs : List Char} {t : Parsed} (h : Comparison parseInt cs t) :
    Trimmed cs := by
  obtain @⟨l, r, s, s', x, y, op, asked, hl, hr, hop, hs, hs'⟩ := h
  obtain ⟨c, l', rfl, hc⟩ := hl.exists_cons
  obtain ⟨d, r', rfl, hd⟩ := hr.exists_cons
  refine ⟨List.cons_ne_nil _ _, isSpace_of_isAlnum hc, ?_⟩
  have hlast := hr.getLast (List.cons_ne_nil _ _)
  simp only [← List.append_assoc]
  rw [List.getLast_append_of_ne_nil _ (List.cons_ne_nil _ _)]
  exact isSpace_of_isAlnum hlast

lemma Chain.trimmed {text : List Char} {t : Parsed} {ts : Entries}
    (h : Chain parseInt text t ts) : Trimmed text := by
  induction h with
  | comparison h => exact h.trimmed
  | paren =>
    refine ⟨List.cons_ne_nil _ _, ?_, ?_⟩
    · change isSpace '(' = false
      decide
    · rw [List.getLast_append_of_ne_nil _ (List.cons_ne_nil _ _)]
      change isSpace ')' = false
      decide
  | @cons text a b text' t u us op h ha hb h' ih ih' =>
    refine ⟨List.append_ne_nil_of_left_ne_nil ih.ne_nil _, ?_, ?_⟩
    · rw [List.head_append_of_ne_nil ih.ne_nil]
      exact ih.head
    · simp only [← List.append_assoc]
      rw [List.getLast_append_of_ne_nil _ ih'.ne_nil]
      exact ih'.last

lemma Chain.head_ne {text : List Char} {t : Parsed} {ts : Entries}
    (h : Chain parseInt text t ts) : ∀ c ∈ text.head?, c ≠ '&' ∧ c ≠ '|' := by
  induction h with
  | comparison h =>
    intro c hc
    obtain ⟨-, -, h1, h2⟩ := h.plain c (List.mem_of_mem_head? hc)
    exact ⟨h1, h2⟩
  | paren =>
    rintro c ⟨⟩
    decide
  | cons h ha hb h' ih ih' =>
    intro c hc
    rw [List.head?_append_of_ne_nil _ h.trimmed.ne_nil] at hc
    exact ih c hc

/-- Texts of parts, each shorter than the whole, with the trees they have. -/
inductive Parts (parseInt : List Char → ℤ) (size : ℕ) :
    List (Connective × List Char) → Entries → Prop
  | nil : Parts parseInt size [] .nil
  | cons {op : Connective} {text : List Char} {u : Parsed}
    {parts : List (Connective × List Char)} {us : Entries} (h : Chain parseInt text u .nil)
    (hsize : text.length < size) (hrest : Parts parseInt size parts us) :
    Parts parseInt size ((op, text) :: parts) (.cons op u us)

lemma Parts.mono {m n : ℕ} {parts : List (Connective × List Char)} {us : Entries}
    (h : Parts parseInt m parts us) (hmn : m ≤ n) : Parts parseInt n parts us := by
  induction h with
  | nil => exact .nil
  | cons h hsize hrest ih => exact .cons h (hsize.trans_le hmn) ih

lemma Chain.splitParts_eq {text : List Char} {t : Parsed} {ts : Entries}
    (h : Chain parseInt text t ts) {blank : List Char} (hblank : Blank blank) :
    ∃ first parts, splitParts 0 false blank text = (first, parts) ∧ Chain parseInt first t .nil ∧
      Parts parseInt text.length parts ts ∧
      (first = text ∧ parts = [] ∨ first.length < text.length ∧ parts ≠ []) := by
  have hpart : ∀ {text : List Char} {t : Parsed}, Chain parseInt text t .nil →
      ∀ {blank : List Char}, Blank blank → splitParts 0 false blank text = (text, []) := by
    intro text t h blank hblank
    have hsplit := h.splitParts_part blank []
    rw [List.append_nil] at hsplit
    rw [hsplit, splitParts]
    have htrim := trim_eq (b := []) hblank (fun c hc => absurd hc List.not_mem_nil) h.trimmed
    rw [List.append_nil] at htrim
    rw [htrim]
  induction h generalizing blank with
  | comparison h => exact ⟨_, _, hpart (.comparison h) hblank, .comparison h, .nil, by simp⟩
  | paren ha hb h =>
    exact ⟨_, _, hpart (.paren ha hb h) hblank, .paren ha hb h, .nil, by simp⟩
  | @cons text a b text' t u us op h ha hb h' ih ih' =>
    obtain ⟨first, parts, hsplit, hfirst, hparts, hshort⟩ := ih' hb
    have hlength : (text ++ (a ++ (connectiveText op ++ (b ++ text')))).length =
        text.length + (a.length + (2 + (b.length + text'.length))) := by
      cases op <;> simp [connectiveText] <;> omega
    refine ⟨text, (op, first) :: parts, ?_, h, ?_, Or.inr ⟨by omega, List.cons_ne_nil _ _⟩⟩
    · have hb' : ∀ c ∈ b, Plain c := fun c hc => plain_of_isSpace (hb c hc)
      have hhead : ∀ c ∈ (b ++ text').head?, c ≠ '&' ∧ c ≠ '|' := by
        cases b with
        | nil => exact h'.head_ne
        | cons d b =>
          rintro c' ⟨⟩
          exact ⟨(hb' d List.mem_cons_self).2.2.1, (hb' d List.mem_cons_self).2.2.2⟩
      rw [h.splitParts_part, splitParts_plain _ _ fun c hc => plain_of_isSpace (ha c hc),
        splitParts_connective _ _ hhead, splitParts_plain _ _ hb', List.nil_append, hsplit,
        trim_eq hblank ha h.trimmed]
    · have hfirst_le : first.length ≤ text'.length := by
        rcases hshort with ⟨rfl, -⟩ | ⟨h, -⟩
        · exact le_rfl
        · exact h.le
      exact .cons hfirst (by omega) (hparts.mono (by omega))

/-! ### Expressions are parsed -/

lemma tryParseSingleCondition_paren (rest : List Char) :
    tryParseSingleCondition parseInt ('(' :: rest) = .ok none := rfl

lemma Chain.tryParseSingleCondition_cons {text a rest : List Char} {t : Parsed}
    (h : Chain parseInt text t .nil) (ha : Blank a) (op : Connective) :
    tryParseSingleCondition parseInt (text ++ (a ++ (connectiveText op ++ rest))) = .ok none := by
  obtain ⟨c, cs, hop, hc⟩ : ∃ c cs, connectiveText op = c :: cs ∧ (c = '&' ∨ c = '|') := by
    cases op <;> simp [connectiveText]
  cases h with
  | comparison h =>
    have hends : EndsOperand (a ++ (connectiveText op ++ rest)) := by
      intro d hd
      cases a with
      | nil =>
        obtain rfl : c = d := by simpa [hop] using hd
        rcases hc with rfl | rfl <;> decide
      | cons e a =>
        obtain rfl : e = d := by simpa using hd
        have he := ha e List.mem_cons_self
        constructor
        · by_contra halnum
          rw [isSpace_of_isAlnum (by simpa using halnum)] at he
          exact Bool.false_ne_true he
        · rintro rfl
          exact absurd he (by decide)
    have hne : consumeWhitespace (a ++ (connectiveText op ++ rest)) ≠ [] := by
      rw [consumeWhitespace, ne_eq, List.dropWhile_eq_nil_iff]
      intro hall
      have hspace := hall c (by simp [hop])
      rcases hc with rfl | rfl <;> exact absurd hspace (by decide)
    rw [tryParseSingleCondition_eq h _ hends, if_pos hne]
  | paren ha hb h => rfl

lemma mapParts_eq {parse : List Char → Except Failure Parsed} {size : ℕ}
    {parts : List (Connective × List Char)} {us : Entries} (h : Parts parseInt size parts us)
    (hparse : ∀ {text u}, Chain parseInt text u .nil → text.length < size →
      parse text = .ok u) : mapParts parse parts = .ok us := by
  induction h with
  | nil => rfl
  | cons h hsize hrest ih =>
    rw [mapParts, hparse h hsize, ih]
    rfl

lemma parseQuery_eq {stack : ℕ} {a text b : List Char} {first : Parsed} {rest : Entries}
    (h : Chain parseInt text first rest) (ha : Blank a) (hb : Blank b)
    (hstack : text.length < stack) :
    parseQuery parseInt stack (a ++ text ++ b) = .ok (chain first rest) := by
  have hnil : Blank [] := fun c hc => absurd hc List.not_mem_nil
  induction stack generalizing a text b first rest with
  | zero => exact absurd hstack (Nat.not_lt_zero _)
  | succ stack ih =>
    obtain ⟨part, parts, hsplit, hpart, hparts, hlength⟩ := h.splitParts_eq hnil
    rw [parseQuery, trim_eq ha hb h.trimmed]
    cases h with
    | comparison h =>
      have hsingle := tryParseSingleCondition_eq h [] fun c hc => by simp at hc
      rw [List.append_nil] at hsingle
      rw [hsingle]
      rfl
    | @paren a' text' b' t ts ha' hb' h =>
      cases hparts
      obtain rfl := (hlength.resolve_right fun h => h.2 rfl).1
      have hinner : ('(' :: (a' ++ text' ++ b') ++ [')']).tail.dropLast = a' ++ text' ++ b' :=
        List.dropLast_concat
      have hends : ('(' :: (a' ++ text' ++ b') ++ [')']).head? = some '(' ∧
          ('(' :: (a' ++ text' ++ b') ++ [')']).getLast? = some ')' :=
        ⟨rfl, List.getLast?_concat⟩
      rw [List.cons_append, tryParseSingleCondition_paren, ← List.cons_append]
      simp only [bind, Except.bind, hsplit]
      rw [if_pos ⟨trivial, hends⟩, hinner]
      have hparse := ih h ha' hb' (by simp at hstack; omega)
      exact hparse
    | @cons text' a' b' text'' t u us op h' ha' hb' h'' =>
      have hlonger := hlength.resolve_left fun h => by
        rw [h.2] at hparts
        cases hparts
      have hparse : ∀ {text : List Char} {u : Parsed}, Chain parseInt text u .nil →
          text.length < (text' ++ (a' ++ (connectiveText op ++ (b' ++ text'')))).length →
          parseQuery parseInt stack text = .ok u := fun h hsize => by
        have hpart := ih h hnil hnil (by omega)
        rwa [List.nil_append, List.append_nil] at hpart
      rw [h'.tryParseSingleCondition_cons ha' op]
      simp only [bind, Except.bind, hsplit, hparse hpart hlonger.1, mapParts_eq hparts hparse]
      rw [if_neg fun h => hlonger.2 h.1]
      rfl

variable (parseInt) in
lemma tryParseSingleCondition_ne_null (text : List Char) :
    tryParseSingleCondition parseInt text ≠ .ok (some .null) := by
  unfold tryParseSingleCondition
  simp only [bind, Except.bind]
  intro h
  split at h
  · simp at h
  split at h
  · simp at h
  split at h
  · simp at h
  split at h
  · simp at h
  split at h
  · simp at h
  split_ifs at h
  · simp at h
  · simp at h

lemma parseQuery_ne_null (stack : ℕ) (text : List Char) :
    parseQuery parseInt stack text ≠ .ok .null := by
  induction stack generalizing text with
  | zero => simp [parseQuery]
  | succ stack ih =>
    rw [parseQuery]
    simp only [bind, Except.bind]
    have hsingle := tryParseSingleCondition_ne_null parseInt (trim text)
    intro h
    split at h
    · simp at h
    split at h
    · simp_all
    split_ifs at h
    · exact ih _ h
    split at h
    · simp at h
    split at h
    · simp at h
    · simp at h

/-! ### Trees are read -/

/-- Of arrays of three entries all is read. -/
theorem Parsed.read_eq_grouped : ∀ {t : Parsed}, t.Triples → t.read = t.grouped
  | .condition _ (.compare _) _, _ => rfl
  | .condition _ (.join _) _, _ => rfl
  | .array first (.cons op second .nil), h => by
    have hfirst := read_eq_grouped (t := first) h.1
    have hsecond := read_eq_grouped (t := second) h.2
    rw [Parsed.read, Parsed.grouped, Entries.group, Entries.group, hfirst, hsecond]

variable (parseInt) in
/-- A text has a result, with every stack that is high enough. -/
def Returns (text : List Char) (result : Parsed) : Prop :=
  ∃ depth, ∀ stack ≥ depth, parseQuery parseInt stack text = .ok result

lemma Returns.unique {text : List Char} {r r' : Parsed} (h : Returns parseInt text r)
    (h' : Returns parseInt text r') : r = r' := by
  obtain ⟨m, hm⟩ := h
  obtain ⟨n, hn⟩ := h'
  have heq := (hm (max m n) (le_max_left m n)).symm.trans (hn (max m n) (le_max_right m n))
  exact Except.ok.inj heq

lemma Expression.returns {text : List Char} {t : Parsed} (h : Expression parseInt text t) :
    Returns parseInt text t := by
  obtain ⟨a, cs, b, first, rest, ha, hb, rfl, hchain, rfl⟩ := h
  exact ⟨cs.length + 1, fun stack hstack => parseQuery_eq hchain ha hb hstack⟩

variable (parseInt) in
/-- The parser returns null for what is no expression. For an expression it returns a tree of
triples, which read as a condition has the value of the expression for all values of the
identifiers. -/
def Faithful (text : List Char) : Prop :=
  (∀ t, Expression parseInt text t → ∃ r, Returns parseInt text r ∧ r.Triples ∧
    ∀ column : List Char → Option ℤ,
      r.read.map (·.eval column) = t.grouped.map (·.eval column)) ∧
  ((∀ t, ¬ Expression parseInt text t) → Returns parseInt text .null)

/-- The parser is faithful to a text if and only if it is an expression in which no chain has a
second connective. -/
theorem faithful_iff (parseInt : List Char → ℤ) (text : List Char) :
    Faithful parseInt text ↔ ∃ t, Expression parseInt text t ∧ t.Triples := by
  constructor
  · rintro ⟨hexpr, hnull⟩
    by_cases h : ∃ t, Expression parseInt text t
    · obtain ⟨t, ht⟩ := h
      obtain ⟨r, hr, htriples, -⟩ := hexpr t ht
      exact ⟨t, ht, ht.returns.unique hr ▸ htriples⟩
    · obtain ⟨depth, hdepth⟩ := hnull (not_exists.mp h)
      exact absurd (hdepth depth le_rfl) (parseQuery_ne_null depth text)
  · rintro ⟨t, ht, htriples⟩
    refine ⟨fun t' ht' => ⟨t, ht.returns, htriples, fun column => ?_⟩, fun h => absurd ht (h t)⟩
    rw [ht'.returns.unique ht.returns, Parsed.read_eq_grouped htriples]

end

def decimal (digits : List Char) : ℤ := (Nat.ofDigitChars 10 digits 0 : ℕ)

lemma chain_comparison {c d : Char} (hc : isAlpha c = true) (hd : isDigit d = true)
    (hname : [c] ≠ nullName) :
    Chain decimal [c, '=', '=', d]
      (.condition (.field [c]) (.compare .eq) (.number (decimal [d]))) .nil := by
  have hl : OperandText decimal [c] (.identifier [c]) :=
    .identifier hc fun _ h => absurd h List.not_mem_nil
  have hr : OperandText decimal [d] (.number (decimal [d])) :=
    .number (List.cons_ne_nil _ _) fun e he => by rwa [List.mem_singleton.mp he]
  have hnil : Spaces [] := fun _ h => absurd h List.not_mem_nil
  have hasks : Asks (.identifier [c]) .eq (.number (decimal [d])) .eq :=
    .plain (by simpa using hname) (by simp) (List.cons_ne_nil _ _)
  have h := Chain.comparison (Comparison.mk hl hr hasks hnil hnil)
  have hfield : convertNull (.identifier [c]) = .field [c] := if_neg hname
  rwa [hfield] at h

/-- Of three conditions the last is not read. -/
theorem chain_dropped :
    ¬ Faithful decimal
      ['a', '=', '=', '1', '&', '&', 'b', '=', '=', '2', '&', '&', 'c', '=', '=', '3'] := by
  intro h
  have hnil : Blank [] := fun _ h => absurd h List.not_mem_nil
  have ha := chain_comparison (c := 'a') (d := '1') (by decide) (by decide) (by decide)
  have hb := chain_comparison (c := 'b') (d := '2') (by decide) (by decide) (by decide)
  have hc := chain_comparison (c := 'c') (d := '3') (by decide) (by decide) (by decide)
  have hchain : Chain decimal _ _ (.cons .and _ (.cons .and _ .nil)) :=
    .cons ha hnil hnil (.cons hb hnil hnil hc)
  have hexpr : Expression decimal _ _ := ⟨[], _, [], _, _, hnil, hnil, rfl, hchain, rfl⟩
  obtain ⟨r, hr, htriples, -⟩ := h.1 _ hexpr
  rw [hr.unique hexpr.returns] at htriples
  exact htriples

end Blert.Search
