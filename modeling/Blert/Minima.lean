import Mathlib.Data.List.Basic
import Mathlib.Order.Basic
import Mathlib.Tactic

/-!
Strict running minima.

The elements of a sequence that are less than everything before them. Each of several kinds of
elements has its own minima.
-/

namespace Blert

section Minima

variable {α κ β : Type*} [LinearOrder β] [DecidableEq κ]

/-- The least of a bound and of the values of elements. -/
def leastOf (value : α → β) (best : Option β) (xs : List α) : Option β :=
  xs.foldl (fun best x => some (best.elim (value x) (min (value x)))) best

/-- The minima of elements of several kinds, each against the best of its kind. -/
def minimaByKind (kind : α → κ) (value : α → β) : (κ → Option β) → List α → List α
  | _, [] => []
  | best, x :: xs =>
    if (best (kind x)).all (value x < ·) then
      x :: minimaByKind kind value (Function.update best (kind x) (some (value x))) xs
    else minimaByKind kind value best xs

end Minima

end Blert
