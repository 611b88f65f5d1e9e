import GlXe3000.Lib.Machine
import GlXe3000.Lib.Process

/-! # Processes that rely on one another

Several processes share a store and take their steps in any order. `rely i` is what process `i`
takes for granted about the steps of the others, `guar i` what they may take for granted about its
own, and `inv` holds between any two steps. `Meets i m w Q` says that what is left of process `i`
keeps its part of this from the store `w` on and ends in `Q`, whatever the others do that it relies
on not to harm it.

If every process keeps its part, all of them do at every point of every interleaving
(`Safe.run`), and every step is one that its process has guaranteed (`Safe.guar`). -/

namespace GlXe3000

/-- The terms on which the processes `I` share a store `σ`. -/
structure Terms (I A : Type) (R : A → Type) (σ : Type) where
  answer : I → (a : A) → σ → R a × σ
  inv : σ → Prop
  rely : I → σ → σ → Prop
  guar : I → σ → σ → Prop
  rely_refl : ∀ i w, rely i w w
  rely_trans : ∀ {i w w' w''}, rely i w w' → rely i w' w'' → rely i w w''
  guar_refl : ∀ i w, guar i w w
  rely_of_guar : ∀ {i j w w'}, guar i w w' → j ≠ i → rely j w w'

structure Pool (I A : Type) (R : A → Type) (σ α : Type) where
  store : σ
  threads : I → Proc A R α

def Pool.result {I A : Type} {R : A → Type} {σ α : Type} (p : Pool I A R σ α) (i : I) : Option α :=
  match p.threads i with
  | .ret x => some x
  | .act _ _ => none

def Pool.machine {I A : Type} {R : A → Type} {σ α : Type} [DecidableEq I]
    (answer : I → (a : A) → σ → R a × σ) : Machine (Pool I A R σ α) I where
  step p i :=
    { store := ((p.threads i).advance (answer i) p.store).2
      threads := Function.update p.threads i ((p.threads i).advance (answer i) p.store).1 }

namespace Terms
variable {I A : Type} {R : A → Type} {σ α β : Type} (T : Terms I A R σ)

def Meets (i : I) : Proc A R α → σ → (α → σ → Prop) → Prop
  | .ret x, w, Q => Q x w
  | .act a k, w, Q => ∀ w', T.inv w' → T.rely i w w' →
      T.inv (T.answer i a w').2 ∧ T.guar i w' (T.answer i a w').2 ∧
        Meets i (k (T.answer i a w').1) (T.answer i a w').2 Q

/-- What the others do does not make `P` false. -/
def Stable (i : I) (P : σ → Prop) : Prop := ∀ w w', T.rely i w w' → P w → P w'

/-- From `P`, process `i` keeps its part and ends in `Q`. -/
def Sat (i : I) (P : σ → Prop) (m : Proc A R α) (Q : α → σ → Prop) : Prop :=
  ∀ w, T.inv w → P w → T.Meets i m w Q

variable {T} {i : I} {P P' : σ → Prop} {Q Q' : α → σ → Prop}

namespace Meets

theorem stable (hQ : ∀ x, T.Stable i (Q x)) (hm : T.Meets i m w Q)
    (h : T.rely i w w') : T.Meets i m w' Q := by
  cases m with
  | ret x => exact hQ x w w' h hm
  | act a k => exact fun w'' hinv h' => hm w'' hinv (T.rely_trans h h')

theorem bind {f : β → Proc A R α} {S : β → σ → Prop} (hinv : T.inv w)
    (hm : T.Meets i m w S) (hf : ∀ x, T.Sat i (S x) (f x) Q) : T.Meets i (m >>= f) w Q := by
  induction m generalizing w with
  | ret x => exact hf x w hinv hm
  | act a k ih =>
    intro w' hinv' h
    obtain ⟨hinv'', hguar, hrest⟩ := hm w' hinv' h
    exact ⟨hinv'', hguar, ih _ hinv'' hrest⟩

end Meets

namespace Sat

theorem pure (h : ∀ w, T.inv w → P w → Q x w) : T.Sat i P (Pure.pure x) Q := h

theorem bind {f : β → Proc A R α} {S : β → σ → Prop} (hm : T.Sat i P m S)
    (hf : ∀ x, T.Sat i (S x) (f x) Q) : T.Sat i P (m >>= f) Q :=
  fun w hinv hw => Meets.bind hinv (hm w hinv hw) hf

theorem pre (h : T.Sat i P m Q) (hP : ∀ w, P' w → P w) : T.Sat i P' m Q :=
  fun w hinv hw => h w hinv (hP w hw)

theorem post (h : T.Sat i P m Q) (hQ : ∀ x w, Q x w → Q' x w) : T.Sat i P m Q' := by
  intro w hinv hw
  have hm := h w hinv hw
  clear h hw
  induction m generalizing w with
  | ret x => exact hQ x w hm
  | act a k ih =>
    intro w' hinv' hrely
    obtain ⟨hinv'', hguar, hrest⟩ := hm w' hinv' hrely
    exact ⟨hinv'', hguar, ih _ _ hinv'' hrest⟩

theorem exists_pre {γ : Type} {P : γ → σ → Prop} (h : ∀ c, T.Sat i (P c) m Q) :
    T.Sat i (fun w => ∃ c, P c w) m Q := fun w hinv ⟨c, hc⟩ => h c w hinv hc

theorem assume {φ : Prop} (h : φ → T.Sat i P m Q) :
    T.Sat i (fun w => φ ∧ P w) m Q := fun w hinv hw => h hw.1 w hinv hw.2

theorem perform {Q : R a → σ → Prop} (hP : T.Stable i P)
    (h : ∀ w, T.inv w → P w → T.inv (T.answer i a w).2 ∧ T.guar i w (T.answer i a w).2 ∧
      Q (T.answer i a w).1 (T.answer i a w).2) : T.Sat i P (Proc.perform a) Q :=
  fun w _ hw w' hinv hrely => h w' hinv (hP w w' hrely hw)

theorem ask {f : R a → Proc A R α} {φ : R a → Prop} (hP : T.Stable i P)
    (hstore : ∀ w, (T.answer i a w).2 = w) (hφ : ∀ w, T.inv w → P w → φ (T.answer i a w).1)
    (hf : ∀ r, φ r → T.Sat i P (f r) Q) : T.Sat i P (Proc.perform a >>= f) Q := by
  refine bind (S := fun r w => φ r ∧ P w) (perform hP fun w hinv hw => ?_) fun r => assume (hf r)
  rw [hstore w]
  exact ⟨hinv, T.guar_refl i w, hφ w hinv hw, hw⟩

theorem ite {c : Prop} [Decidable c] (ht : c → T.Sat i P m Q)
    (he : ¬c → T.Sat i P m' Q) : T.Sat i P (if c then m else m') Q := by
  split
  · exact ht ‹_›
  · exact he ‹_›

end Sat

/-! ## All of them together -/

section
variable {Q : I → α → σ → Prop}

structure Safe (T : Terms I A R σ) (Q : I → α → σ → Prop) (p : Pool I A R σ α) : Prop where
  inv : T.inv p.store
  meets : ∀ i, T.Meets i (p.threads i) p.store (Q i)

variable {p : Pool I A R σ α}

private theorem Safe.advance (h : T.Safe Q p) (i : I) :
    T.inv ((p.threads i).advance (T.answer i) p.store).2 ∧
      T.guar i p.store ((p.threads i).advance (T.answer i) p.store).2 ∧
      T.Meets i ((p.threads i).advance (T.answer i) p.store).1
        ((p.threads i).advance (T.answer i) p.store).2 (Q i) := by
  have hi := h.meets i
  revert hi
  cases p.threads i with
  | ret x => exact fun hi => ⟨h.inv, T.guar_refl i _, hi⟩
  | act a k => exact fun hi => hi p.store h.inv (T.rely_refl i _)

theorem Safe.result (h : T.Safe Q p) (hx : p.result i = some x) : Q i x p.store := by
  have hi := h.meets i
  revert hi hx
  unfold Pool.result
  cases p.threads i with
  | ret y => exact fun hx hi => Option.some.inj hx ▸ hi
  | act a k => exact fun hx => nomatch hx

variable [DecidableEq I]

theorem Safe.guar (h : T.Safe Q p) (i : I) :
    T.guar i p.store ((Pool.machine T.answer).step p i).store := (h.advance i).2.1

theorem Safe.step (hQ : ∀ i x, T.Stable i (Q i x)) (h : T.Safe Q p) (i : I) :
    T.Safe Q ((Pool.machine T.answer).step p i) := by
  obtain ⟨hinv, hguar, hself⟩ := h.advance i
  refine ⟨hinv, forall_update (I := fun j m => T.Meets j m _ (Q j)) (fun j hj => ?_) hself⟩
  exact (h.meets j).stable (hQ j) (T.rely_of_guar hguar hj)

theorem Safe.run (hQ : ∀ i x, T.Stable i (Q i x)) (h : T.Safe Q p) (is : List I) :
    T.Safe Q ((Pool.machine T.answer).run p is) := by
  induction is generalizing p with
  | nil => exact h
  | cons i is ih => exact ih (h.step hQ i)

end
end Terms
end GlXe3000
