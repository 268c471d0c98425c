import Blert.InsertionMap

/-!
Blob storage.

Files hold messages in a binary format, in which every message can be read again.
-/

namespace Blert

/-- A binary format, carrying the proof that it can be read. -/
structure Codec (M B : Type) where
  encode : M → B
  decode : B → Option M
  decode_encode : ∀ m, decode (encode m) = some m

structure Blobs (B : Type) where
  files : InsertionMap String B

namespace Blobs

variable {B : Type}

def write (s : Blobs B) (path : String) (data : B) : Blobs B := ⟨s.files.set path data⟩

def read (s : Blobs B) (path : String) : Option B := s.files.get path

@[simp] lemma read_write (s : Blobs B) (path : String) (data : B) :
    (s.write path data).read path = some data := by
  rw [read, write, InsertionMap.get_set, if_pos rfl]

end Blobs

lemma map_eq_self {α : Type} {f : α → α} {xs : List α} :
    xs.map f = xs ↔ ∀ x ∈ xs, f x = x := by
  induction xs with
  | nil => simp
  | cons x xs ih =>
    rw [List.map_cons, List.cons.injEq, ih, List.forall_mem_cons]

lemma map_eq_map {α β : Type} {f g : α → β} {xs : List α} :
    xs.map f = xs.map g ↔ ∀ x ∈ xs, f x = g x :=
  List.map_inj_left

end Blert
