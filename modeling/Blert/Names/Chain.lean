import Blert.Processing.Session

/-!
Names, and when a player held them.

A chain of renames divides time into windows in which the player had one name. They are open at
the start and closed at the end, so that every time is in exactly one window.
-/

namespace Blert.Names

open Processing

/-! ### Names -/

/-- A character that may begin and end a name. -/
def isRsnEdge (c : Char) : Bool := c.isAlphanum || c = '_' || c = '-'

def isValidRsn (name : String) : Bool :=
  match name.toList with
  | [] => false
  | first :: rest =>
    isRsnEdge first && decide (rest.length ≤ 11) &&
      rest.all (fun c => isRsnEdge c || c = ' ') && rest.getLast?.all isRsnEdge

/-- The name of a record that stores data of a player with unknown provenance. -/
def zombieName (name : String) : String := "*" ++ name

/-! ### Chains -/

/-- A single rename in a player's known name history. -/
structure ChainTransition where
  oldName : String
  newName : String
  effectiveFrom : ℤ

/-- Why a submitted name change chain is not well-formed. -/
inductive ChainError
  | empty | invalidRsn | notChronological | inconsistentLink

/-- A contiguous time interval during which a player held a single name. -/
structure NameWindow where
  normalizedRsn : String
  fromTime : Option ℤ
  toTime : Option ℤ

def inWindow (t : ℤ) (w : NameWindow) : Bool :=
  w.fromTime.all (· < t) && w.toTime.all (t ≤ ·)

section Chains

variable (naming : Naming)

/-- The first problem of two transitions that follow one another. -/
def linkError : List ChainTransition → Option ChainError
  | a :: b :: rest =>
    if b.effectiveFrom ≤ a.effectiveFrom then some .notChronological
    else if naming.normalizeRsn a.newName ≠ naming.normalizeRsn b.oldName then
      some .inconsistentLink
    else linkError (b :: rest)
  | _ => none

/-- The first problem of a name change chain, if it is not well-formed. -/
def validateChain (chain : List ChainTransition) : Option ChainError :=
  if chain = [] then some .empty
  else if chain.any fun t => !isValidRsn t.oldName || !isValidRsn t.newName then
    some .invalidRsn
  else linkError naming chain

def laterWindows : List ChainTransition → List NameWindow
  | [] => []
  | a :: rest =>
    ⟨naming.normalizeRsn a.newName, some a.effectiveFrom, rest.head?.map (·.effectiveFrom)⟩ ::
      laterWindows rest

/-- A player's name history windows from a chronological chain, which is not empty. -/
def deriveNameWindows : List ChainTransition → Option (List NameWindow)
  | [] => none
  | a :: rest => some (⟨naming.normalizeRsn a.oldName, none, some a.effectiveFrom⟩ ::
      laterWindows naming (a :: rest))

/-- The normalized name the player held at a time. -/
def nameInWindowsAt (windows : List NameWindow) (t : ℤ) : Option String :=
  (windows.find? (inWindow t)).map (·.normalizedRsn)

def belongsToChainTarget (windows : List NameWindow) (normalizedRsn : String) (startTime : ℤ) :
    Bool :=
  nameInWindowsAt windows startTime = some normalizedRsn

/-- Windows of which every time is in exactly one. -/
def Tiles (windows : List NameWindow) : Prop :=
  ∀ t, ∃ w, windows.filter (inWindow t) = [w]

variable {naming}

lemma filter_laterWindows {a : ChainTransition} {rest : List ChainTransition}
    (h : linkError naming (a :: rest) = none) (t : ℤ) :
    (t ≤ a.effectiveFrom → (laterWindows naming (a :: rest)).filter (inWindow t) = []) ∧
      (a.effectiveFrom < t →
        ∃ w, (laterWindows naming (a :: rest)).filter (inWindow t) = [w]) := by
  induction rest generalizing a with
  | nil =>
    constructor
    · intro ht
      exact List.filter_cons_of_neg (by simp [inWindow, ht])
    · intro ht
      exact ⟨_, List.filter_cons_of_pos (by simp [inWindow, ht])⟩
  | cons b rest ih =>
    rw [linkError] at h
    split_ifs at h with horder hlink
    have hlater := ih h
    rw [laterWindows]
    constructor
    · intro ht
      rw [List.filter_cons_of_neg (by simp [inWindow, ht])]
      exact hlater.1 (ht.trans (not_le.mp horder).le)
    · intro ht
      rcases le_or_gt t b.effectiveFrom with hb | hb
      · rw [List.filter_cons_of_pos (by simp [inWindow, ht, hb]), hlater.1 hb]
        exact ⟨_, rfl⟩
      · rw [List.filter_cons_of_neg (by simp [inWindow, hb])]
        exact hlater.2 hb

lemma tiles_deriveNameWindows {chain : List ChainTransition} {windows : List NameWindow}
    (hvalid : validateChain naming chain = none)
    (hwindows : deriveNameWindows naming chain = some windows) : Tiles windows := by
  intro t
  unfold validateChain at hvalid
  split_ifs at hvalid
  cases chain with
  | nil => cases hwindows
  | cons a rest =>
    cases hwindows
    have hlater := filter_laterWindows hvalid t
    rcases le_or_gt t a.effectiveFrom with ht | ht
    · rw [List.filter_cons_of_pos (by simp [inWindow, ht]), hlater.1 ht]
      exact ⟨_, rfl⟩
    · rw [List.filter_cons_of_neg (by simp [inWindow, ht])]
      exact hlater.2 ht

lemma Tiles.nameInWindowsAt {windows : List NameWindow} (h : Tiles windows) (t : ℤ)
    (name : String) : nameInWindowsAt windows t = some name ↔
      ∃ w ∈ windows, inWindow t w ∧ w.normalizedRsn = name := by
  obtain ⟨w, hw⟩ := h t
  have hmem : ∀ w', w' ∈ windows ∧ inWindow t w' ↔ w' = w := by
    intro w'
    rw [← List.mem_filter, hw, List.mem_singleton]
  have hfind : windows.find? (inWindow t) = some w := by
    rw [← List.head?_filter, hw]
    rfl
  rw [Names.nameInWindowsAt, hfind, Option.map_some, Option.some.injEq]
  constructor
  · rintro rfl
    exact ⟨w, ((hmem w).mpr rfl).1, ((hmem w).mpr rfl).2, rfl⟩
  · rintro ⟨w', hw', hin, rfl⟩
    rw [(hmem w').mp ⟨hw', hin⟩]

end Chains

end Blert.Names
