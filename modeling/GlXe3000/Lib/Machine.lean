import Mathlib

/-! # Machines driven by a list of events

A machine has a total step: an event that does not apply leaves the state as it is, so every list
of events is a run and "for every interleaving" is a quantifier over lists. Environments are
restricted by a *guard*, a condition on an event and the state before it; `Admits` says that every
step of a run meets it. The induction over runs is packaged once in `Machine.invariant`. -/

namespace GlXe3000

universe u v

/-- A deterministic machine with states `σ` and events `ε`. -/
structure Machine (σ : Type u) (ε : Type v) where
  step : σ → ε → σ

namespace Machine
variable {σ : Type u} {ε : Type v} (M : Machine σ ε)

/-- The state after the events `es`. -/
def run (s : σ) (es : List ε) : σ := es.foldl M.step s

/-- Every step of the run meets `guard` in the state before it. -/
def Admits (guard : σ → ε → Prop) : σ → List ε → Prop
  | _, [] => True
  | s, e :: es => guard s e ∧ Admits guard (M.step s e) es

/-- The times, by the clock `now`, of the steps at which `p` holds. -/
def times (now : σ → Nat) (p : σ → ε → Bool) : σ → List ε → List Nat
  | _, [] => []
  | s, e :: es => (if p s e then [now s] else []) ++ times now p (M.step s e) es

variable {M}

@[simp] theorem run_nil (s : σ) : M.run s [] = s := rfl

@[simp] theorem run_cons (s : σ) (e : ε) (es : List ε) :
    M.run s (e :: es) = M.run (M.step s e) es := rfl

theorem run_append (s : σ) (es fs : List ε) : M.run s (es ++ fs) = M.run (M.run s es) fs :=
  List.foldl_append

instance Admits.decidable (guard : σ → ε → Prop) [∀ s e, Decidable (guard s e)] :
    ∀ s es, Decidable (M.Admits guard s es)
  | _, [] => .isTrue trivial
  | s, e :: es =>
    have := Admits.decidable guard (M.step s e) es
    inferInstanceAs (Decidable (guard s e ∧ M.Admits guard (M.step s e) es))

theorem Admits.and {guard guard' : σ → ε → Prop} :
    ∀ {s : σ} {es : List ε}, M.Admits guard s es → M.Admits guard' s es →
      M.Admits (fun s e => guard s e ∧ guard' s e) s es
  | _, [], _, _ => trivial
  | _, _ :: _, H, H' => ⟨⟨H.1, H'.1⟩, Admits.and H.2 H'.2⟩

theorem admits_append {guard : σ → ε → Prop} :
    M.Admits guard s (es ++ fs) ↔ M.Admits guard s es ∧ M.Admits guard (M.run s es) fs := by
  induction es generalizing s with
  | nil => simp [Admits]
  | cons e es ih => simp [Admits, ih, and_assoc]

theorem Admits.of_forall {guard : σ → ε → Prop} (h : ∀ e ∈ es, ∀ s, guard s e) :
    ∀ s, M.Admits guard s es := by
  induction es with
  | nil => exact fun _ => trivial
  | cons e es ih =>
    intro s
    exact ⟨h e (by simp) s, ih (fun e' he' => h e' (by simp [he'])) _⟩

theorem invariant {guard : σ → ε → Prop} {I : σ → Prop}
    (hstep : ∀ s e, guard s e → I s → I (M.step s e)) :
    ∀ {s : σ} {es : List ε}, M.Admits guard s es → I s → I (M.run s es) := by
  intro s es
  induction es generalizing s with
  | nil => exact fun _ hI => hI
  | cons e es ih => exact fun H hI => ih H.2 (hstep s e H.1 hI)

end Machine

/-! ## Process tables -/

section
variable {P : Type u} [DecidableEq P] {α : Type v} {f : P → α} {p q : P} {a : α}

theorem forall_update {I : P → α → Prop} (h : ∀ q, q ≠ p → I q (f q)) (ha : I p a) :
    ∀ q, I q (Function.update f p a q) := by
  intro q
  by_cases hq : q = p
  · subst hq; rwa [Function.update_self]
  · rw [Function.update_of_ne hq]; exact h q hq

end
end GlXe3000
