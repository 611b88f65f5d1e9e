import Mathlib

/-! # Tables that belong to someone

A heap of mutable tables, which are reached by their addresses. A table is shared or belongs to the
one who made it; nothing stops a write to a table of another. `Keeps i` says that the shared tables
and those of `i` are as before: making a table keeps everything for everyone (`keeps_alloc`), and so
does a write for all but the owner of the table written to (`keeps_write`). -/

namespace GlXe3000

abbrev Heap (I α : Type) := List (Option I × α)

namespace Heap
variable {I α : Type}

/-- The table at the address `r` is `t` and belongs to `o`. -/
def At (h : Heap I α) (o : Option I) (r : Nat) (t : α) : Prop := h[r]? = some (o, t)

def read [Inhabited α] (h : Heap I α) (r : Nat) : α := (h[r]?.map Prod.snd).getD default

/-- A new table is at the address `h.length`. -/
def alloc (h : Heap I α) (o : Option I) (t : α) : Heap I α := h ++ [(o, t)]

def write (h : Heap I α) (r : Nat) (f : α → α) : Heap I α := h.modify r fun e => (e.1, f e.2)

/-- `i` may rely on a table of this owner. -/
def Visible (i : I) (o : Option I) : Prop := o = none ∨ o = some i

/-- Nothing has changed that `i` may rely on. -/
def Keeps (i : I) (h h' : Heap I α) : Prop := ∀ o r t, Visible i o → h.At o r t → h'.At o r t

variable {h h' h'' : Heap I α} {i j : I} {o o' : Option I} {r r' : Nat} {t u : α} {f : α → α}

theorem At.read [Inhabited α] (ht : h.At o r t) : h.read r = t := by
  unfold Heap.read
  rw [show h[r]? = some (o, t) from ht]
  rfl

theorem At.lt (ht : h.At o r t) : r < h.length := (List.getElem?_eq_some_iff.mp ht).1

theorem At.alloc (ht : h.At o r t) : (h.alloc o' u).At o r t := by
  exact (List.getElem?_append_left ht.lt).trans ht

theorem at_alloc : (h.alloc o t).At o h.length t := List.getElem?_concat_length

theorem At.write (ht : h.At o r t) : (h.write r f).At o r (f t) := by
  unfold At Heap.write
  rw [List.getElem?_modify_eq, show h[r]? = some (o, t) from ht]
  rfl

theorem At.write_of_ne (ht : h.At o r t) (hne : r ≠ r') : (h.write r' f).At o r t := by
  unfold At Heap.write
  rw [List.getElem?_modify_ne _ _ hne.symm]
  exact ht

theorem At.ne_of_owner (ht : h.At o r t) (hu : h.At o' r' u) (hne : o ≠ o') : r ≠ r' := by
  rintro rfl
  have heq := (show h[r]? = some (o, t) from ht).symm.trans hu
  exact hne (Prod.mk.inj (Option.some.inj heq)).1

namespace Keeps

theorem refl : Keeps i h h := fun _ _ _ _ ht => ht

theorem trans (hk : Keeps i h h') (hk' : Keeps i h' h'') : Keeps i h h'' :=
  fun o r t ho ht => hk' o r t ho (hk o r t ho ht)

end Keeps

theorem keeps_alloc : Keeps i h (h.alloc o t) := fun _ _ _ _ ht => ht.alloc

theorem keeps_write (ht : h.At (some i) r t) (hij : j ≠ i) : Keeps j h (h.write r f) := by
  intro o r' u ho hu
  refine hu.write_of_ne (hu.ne_of_owner ht ?_)
  rintro rfl
  rcases ho with ho | ho
  · cases ho
  · exact hij (Option.some.inj ho).symm

end Heap
end GlXe3000
