import Mathlib

/-! # Programs that look at a world they do not control

A script owns its variables and asks the world for everything else: the clock, files, other
processes, the exit status of a command. The world is a sequence of snapshots, and every look takes
the next one, so that two looks may see different things. A property for every environment is a
quantifier over such sequences.

`Sat` is a Hoare triple over the instant and the state, `Keeps` the triple of an invariant. -/

namespace GlXe3000

/-- A program that sees worlds `ω`, owns a state `σ` and returns an `α`. -/
def Observer (ω σ α : Type) : Type := (Nat → ω) → Nat → σ → α × Nat × σ

namespace Observer
variable {ω σ α β : Type}

instance : Monad (Observer ω σ) where
  pure a := fun _ i s => (a, i, s)
  bind m f := fun env i s => f (m env i s).1 env (m env i s).2.1 (m env i s).2.2

def observe (f : ω → α) : Observer ω σ α := fun env i s => (f (env i), i + 1, s)

def get : Observer ω σ σ := fun _ i s => (s, i, s)

def modify (f : σ → σ) : Observer ω σ Unit := fun _ i s => ((), i, f s)

/-- `[ b ] && m`, with the status ignored. -/
def onlyIf (b : Bool) (m : Observer ω σ Unit) : Observer ω σ Unit := if b then m else pure ()

/-- The first element for which the test holds decides; the rest is not tried. -/
def anyOf (test : β → Observer ω σ Bool) : List β → Observer ω σ Bool
  | [] => pure false
  | b :: bs => do
    if ← test b then pure true else anyOf test bs

/-! ## Triples -/

section
variable {env : Nat → ω} {P P' : Nat → σ → Prop} {Q Q' : α → Nat → σ → Prop}

/-- From `P`, the program ends in `Q`. -/
def Sat (env : Nat → ω) (P : Nat → σ → Prop) (m : Observer ω σ α) (Q : α → Nat → σ → Prop) : Prop :=
  ∀ i s, P i s → Q (m env i s).1 (m env i s).2.1 (m env i s).2.2

namespace Sat

theorem mono (h : Sat env P m Q) (hP : ∀ i s, P' i s → P i s)
    (hQ : ∀ a i s, Q a i s → Q' a i s) : Sat env P' m Q' :=
  fun i s hs => hQ _ _ _ (h i s (hP i s hs))

theorem pre (h : Sat env P m Q) (hP : ∀ i s, P' i s → P i s) :
    Sat env P' m Q := h.mono hP fun _ _ _ hQ => hQ

theorem assume {φ : Prop} (hφ : ∀ i s, P i s → φ) (h : φ → Sat env P m Q) :
    Sat env P m Q := fun i s hs => h (hφ i s hs) i s hs

theorem pure (h : ∀ i s, P i s → Q a i s) : Sat env P (Pure.pure a) Q := h

theorem bind {f : β → Observer ω σ α} {R : β → Nat → σ → Prop}
    (hm : Sat env P m R) (hf : ∀ b, Sat env (R b) (f b) Q) : Sat env P (m >>= f) Q :=
  fun i s hs => hf _ _ _ (hm i s hs)

theorem ite {c : Prop} [Decidable c] (ht : c → Sat env P m Q)
    (he : ¬c → Sat env P m' Q) : Sat env P (if c then m else m') Q := by
  split
  · exact ht ‹_›
  · exact he ‹_›

theorem observe {f : ω → α} (h : ∀ i s, P i s → Q (f (env i)) (i + 1) s) :
    Sat env P (Observer.observe f) Q := h

theorem look {f : ω → β} {k : β → Observer ω σ α} {φ : β → Prop} (hφ : ∀ i, φ (f (env i)))
    (hlook : ∀ i s, P i s → P (i + 1) s) (h : ∀ b, φ b → Sat env P (k b) Q) :
    Sat env P (Observer.observe f >>= k) Q := fun i s hs => h _ (hφ i) _ _ (hlook i s hs)

theorem known {k : β → Observer ω σ α}
    (hm : Sat env P m fun a i s => a = b ∧ P i s) (h : Sat env P (k b) Q) :
    Sat env P (m >>= k) Q := fun i s hs => by
  obtain ⟨hb, hs'⟩ := hm i s hs
  have := h _ _ hs'
  rwa [← hb] at this

theorem modify {f : σ → σ} {Q : Unit → Nat → σ → Prop} (h : ∀ i s, P i s → Q () i (f s)) :
    Sat env P (Observer.modify f) Q := h

theorem get_bind {f : σ → Observer ω σ α}
    (h : ∀ s₀, Sat env (fun i s => P i s ∧ s = s₀) (f s₀) Q) : Sat env P (Observer.get >>= f) Q :=
  fun i s hs => h s i s ⟨hs, rfl⟩

end Sat
end

/-! ## Invariants -/

section
variable {env : Nat → ω} {I : Nat → σ → Prop}

/-- The program keeps `I`, whatever it returns. -/
def Keeps (env : Nat → ω) (I : Nat → σ → Prop) (m : Observer ω σ α) : Prop :=
  Sat env I m fun _ => I

namespace Keeps

theorem pure (a : α) : Keeps env I (Pure.pure a : Observer ω σ α) := fun _ _ h => h

theorem bind {f : β → Observer ω σ α} (hm : Keeps env I m)
    (hf : ∀ b, Keeps env I (f b)) : Keeps env I (m >>= f) := Sat.bind hm hf

theorem and_then {f : β → Observer ω σ α} {Q : α → Nat → σ → Prop}
    (hm : Keeps env I m) (hf : ∀ b, Sat env I (f b) Q) : Sat env I (m >>= f) Q := Sat.bind hm hf

theorem ite {c : Prop} [Decidable c] (ht : Keeps env I m)
    (he : Keeps env I m') : Keeps env I (if c then m else m') :=
  Sat.ite (fun _ => ht) (fun _ => he)

theorem onlyIf (h : Keeps env I m) : Keeps env I (Observer.onlyIf b m) := ite h (pure ())

theorem get : Keeps env I (Observer.get : Observer ω σ σ) := fun _ _ h => h

theorem modify {f : σ → σ} (h : ∀ i s, I i s → I i (f s)) :
    Keeps env I (Observer.modify f : Observer ω σ Unit) := h

theorem observe {f : ω → α} (h : ∀ i s, I i s → I (i + 1) s) :
    Keeps env I (Observer.observe f : Observer ω σ α) := h

theorem anyOf {test : β → Observer ω σ Bool} (h : ∀ b, Keeps env I (test b)) (bs : List β) :
    Keeps env I (Observer.anyOf test bs) := by
  induction bs with
  | nil => exact pure false
  | cons b bs ih => exact bind (h b) fun _ => ite (pure true) ih

end Keeps
end
end Observer
end GlXe3000
