import Mathlib

/-! # Processes that share a store

A script that runs among others is a tree: it performs an action, the store answers, and the answer
decides how it goes on. Every node is one atomic step, so an interleaving chooses, step by step,
which process performs its next action.

`Covered` is about a check that comes before a use. A process is covered when, whatever it is
answered, it makes no use before a check has succeeded. A covered process that runs while the thing
checked for does not hold stays covered and makes no use (`Covered.advance`, `Covered.no_use`); one
that is not covered relies on an answer it got earlier. -/

namespace GlXe3000

/-- A process over the actions `A`, where `a` is answered by an `R a`. -/
inductive Proc (A : Type) (R : A → Type) (α : Type) where
  | ret (x : α)
  | act (a : A) (k : R a → Proc A R α)

namespace Proc
variable {A : Type} {R : A → Type} {α β : Type}

def bind : Proc A R α → (α → Proc A R β) → Proc A R β
  | .ret x, f => f x
  | .act a k, f => .act a fun r => bind (k r) f

instance : Monad (Proc A R) where
  pure := .ret
  bind := .bind

def perform (a : A) : Proc A R (R a) := .act a .ret

def next : Proc A R α → Option A
  | .ret _ => none
  | .act a _ => some a

def isDone (m : Proc A R α) : Bool := m.next.isNone

/-- One step against a store `σ` that answers `a` according to `answer`. -/
def advance {σ : Type} (answer : (a : A) → σ → R a × σ) (w : σ) : Proc A R α → Proc A R α × σ
  | .ret x => (.ret x, w)
  | .act a k => (k (answer a w).1, (answer a w).2)

theorem advance_of_next {σ : Type} {answer : (a : A) → σ → R a × σ} {w : σ} {P : σ → Prop}
    {m : Proc A R α} (h₀ : P w) (h : ∀ a, m.next = some a → P (answer a w).2) :
    P (m.advance answer w).2 := by
  cases m with
  | ret x => exact h₀
  | act a k => exact h a rfl

/-! ## Whole runs -/

section
variable {σ : Type} (answer : Nat → (a : A) → σ → R a × σ)

/-- A run without interruption: the result, the instant at which it ends and the store it leaves.
The action at the instant `i` is answered according to `answer i`. -/
def exec : Proc A R α → Nat → σ → α × Nat × σ
  | .ret x, i, w => (x, i, w)
  | .act a k, i, w => exec (k (answer i a w).1) (i + 1) (answer i a w).2

/-- The store a run leaves that is killed after `n` actions. -/
def cut : Nat → Proc A R α → Nat → σ → σ
  | 0, _, _, w => w
  | _ + 1, .ret _, _, w => w
  | n + 1, .act a k, i, w => cut n (k (answer i a w).1) (i + 1) (answer i a w).2

variable {answer} {i : Nat} {w : σ}

@[simp] theorem exec_pure : (pure x : Proc A R α).exec answer i w = (x, i, w) := rfl

@[simp] theorem exec_perform : (perform a : Proc A R (R a)).exec answer i w =
    ((answer i a w).1, i + 1, (answer i a w).2) := rfl

@[simp] theorem exec_bind {m : Proc A R α} {f : α → Proc A R β} :
    (m >>= f).exec answer i w =
      (f (m.exec answer i w).1).exec answer (m.exec answer i w).2.1 (m.exec answer i w).2.2 := by
  induction m generalizing i w with
  | ret x => rfl
  | act a k ih => exact ih _

theorem exec_invariant {P : σ → Prop} (h : ∀ i a w, P w → P (answer i a w).2) (m : Proc A R α)
    (hw : P w) : P (m.exec answer i w).2.2 := by
  induction m generalizing i w with
  | ret x => exact hw
  | act a k ih => exact ih _ (h i a w hw)

end

/-! ## Runs in a steady environment -/

section
variable {σ : Type} (answer : (a : A) → σ → R a × σ)

/-- A run without interruption in which everything is answered the same way: the result and the store
it leaves. -/
def run : Proc A R α → σ → α × σ
  | .ret x, w => (x, w)
  | .act a k, w => run (k (answer a w).1) (answer a w).2

variable {answer} {w : σ}

@[simp] theorem run_pure : (pure x : Proc A R α).run answer w = (x, w) := rfl

@[simp] theorem run_perform : (perform a : Proc A R (R a)).run answer w = answer a w := rfl

@[simp] theorem run_bind {m : Proc A R α} {f : α → Proc A R β} :
    (m >>= f).run answer w = (f (m.run answer w).1).run answer (m.run answer w).2 := by
  induction m generalizing w with
  | ret x => rfl
  | act a k ih => exact ih _

end

/-! ## Checks and uses -/

section
variable (uses : A → Prop) (checks : (a : A) → R a → Prop)

/-- No use before a successful check; where the process ends without one, its result is in `Q`. -/
def Covered : Proc A R α → (α → Prop) → Prop
  | .ret x, Q => Q x
  | .act a k, Q => ¬uses a ∧ ∀ r, checks a r ∨ Covered (k r) Q

end

variable {uses : A → Prop} {checks : (a : A) → R a → Prop} {Q Q' : α → Prop}

namespace Covered

@[simp] theorem pure_iff : Covered uses checks (Pure.pure x : Proc A R α) Q ↔ Q x := .rfl

@[simp] theorem perform_iff {Q : R a → Prop} :
    Covered uses checks (perform a) Q ↔ ¬uses a ∧ ∀ r, checks a r ∨ Q r := .rfl

@[simp] theorem bind_iff {f : α → Proc A R β} {Q : β → Prop} :
    Covered uses checks (m >>= f) Q ↔
      Covered uses checks m fun x => Covered uses checks (f x) Q := by
  induction m with
  | ret x => exact .rfl
  | act a k ih => exact and_congr .rfl (forall_congr' fun r => or_congr .rfl (ih r))

@[simp] theorem ite_iff {c : Prop} [Decidable c] :
    Covered uses checks (if c then m else n) Q ↔
      if c then Covered uses checks m Q else Covered uses checks n Q := by
  split <;> exact .rfl

theorem mono (hm : Covered uses checks m Q) (h : ∀ x, Q x → Q' x) : Covered uses checks m Q' := by
  induction m with
  | ret x => exact h x hm
  | act a k ih => exact ⟨hm.1, fun r => (hm.2 r).imp_right (ih r)⟩

theorem bind {f : α → Proc A R β} {Q' : β → Prop}
    (hm : Covered uses checks m Q) (hf : ∀ x, Q x → Covered uses checks (f x) Q') :
    Covered uses checks (m >>= f) Q' :=
  bind_iff.2 (hm.mono hf)

theorem of_not_use (h : ¬uses a) : Covered uses checks (perform a) fun _ => True :=
  ⟨h, fun _ => .inr trivial⟩

theorem no_use {m : Proc A R α} (hm : Covered uses checks m Q) (h : m.next = some a) : ¬uses a := by
  cases m with
  | ret x => cases h
  | act b k => cases h; exact hm.1

theorem advance {σ : Type} {answer : (a : A) → σ → R a × σ} {m : Proc A R α} {w : σ}
    (hm : Covered uses checks m Q) (h : ∀ a, m.next = some a → ¬checks a (answer a w).1) :
    Covered uses checks (m.advance answer w).1 Q := by
  cases m with
  | ret x => exact hm
  | act a k => exact (hm.2 _).resolve_left (h a rfl)

/-- Where nothing counts as a check, a covered process makes no use at all: what the other answers
keep holds of the store at the end. -/
theorem exec_invariant {σ : Type} {answer : Nat → (a : A) → σ → R a × σ} {i : Nat} {w : σ}
    {P : σ → Prop} {m : Proc A R α} (hm : Covered uses (fun _ _ => False) m Q)
    (h : ∀ i a w, ¬uses a → P w → P (answer i a w).2) (hw : P w) : P (m.exec answer i w).2.2 := by
  induction m generalizing i w with
  | ret x => exact hw
  | act a k ih => exact ih _ ((hm.2 _).resolve_left id) (h i a w hm.1 hw)

end Covered

/-! ## Processes that may fail

`Shuns` is the absence of uses, whatever the answers are and however the process ends. -/

section
variable {ε : Type}

abbrev Failing (A : Type) (R : A → Type) (ε : Type) := ExceptT ε (Proc A R)

def Shuns (uses : A → Prop) (m : Failing A R ε α) : Prop :=
  Covered uses (fun _ _ => False) m.run fun _ => True

namespace Shuns
variable {m : Failing A R ε α} {f : α → Failing A R ε β}

theorem pure (x : α) : Shuns uses (Pure.pure x : Failing A R ε α) := trivial

theorem throw (e : ε) : Shuns uses (throw e : Failing A R ε α) := trivial

theorem perform (h : ¬uses a) :
    Shuns uses (liftM (Proc.perform a : Proc A R (R a)) : Failing A R ε (R a)) :=
  ⟨h, fun _ => .inr trivial⟩

theorem bind (hm : Shuns uses m) (hf : ∀ x, Shuns uses (f x)) : Shuns uses (m >>= f) := by
  refine Covered.bind hm ?_
  intro r _
  cases r with
  | ok x => exact hf x
  | error e => trivial

theorem ite {c : Prop} [Decidable c] (ht : c → Shuns uses m)
    (he : ¬c → Shuns uses m') : Shuns uses (if c then m else m') := by
  split
  · exact ht ‹_›
  · exact he ‹_›

end Shuns
end

/-! ## Protocols

A protocol is an automaton over actions and answers with a condition on every action. A process that
obeys it from a phase on meets the condition at every action, whatever it is answered. -/

section
variable {S : Type} (allows : S → A → Prop) (next : S → (a : A) → R a → S)

/-- Every action is allowed in the phase it is performed in; the last phase and the result are in
`Q`. -/
def Obeys : S → Proc A R α → (S → α → Prop) → Prop
  | s, .ret x, Q => Q s x
  | s, .act a k, Q => allows s a ∧ ∀ r, Obeys (next s a r) (k r) Q

end

namespace Obeys
variable {S : Type} {allows : S → A → Prop} {next : S → (a : A) → R a → S} {s : S}
  {P P' : S → α → Prop}

theorem mono (hm : Obeys allows next s m P) (h : ∀ s x, P s x → P' s x) :
    Obeys allows next s m P' := by
  induction m generalizing s with
  | ret x => exact h s x hm
  | act a k ih => exact ⟨hm.1, fun r => ih r (hm.2 r)⟩

theorem bind {f : α → Proc A R β} {P' : S → β → Prop}
    (hm : Obeys allows next s m P) (hf : ∀ s x, P s x → Obeys allows next s (f x) P') :
    Obeys allows next s (m >>= f) P' := by
  induction m generalizing s with
  | ret x => exact hf s x hm
  | act a k ih => exact ⟨hm.1, fun r => ih r (hm.2 r)⟩

theorem perform_bind {f : R a → Proc A R α} (ha : allows s a)
    (hf : ∀ r, Obeys allows next (next s a r) (f r) P) : Obeys allows next s (perform a >>= f) P :=
  ⟨ha, hf⟩

theorem of_covered (hm : Covered uses (fun _ _ => False) m Q)
    (h : ∀ a, ¬uses a → allows s a ∧ ∀ r, next s a r = s) :
    Obeys allows next s m fun s' x => s' = s ∧ Q x := by
  induction m with
  | ret x => exact ⟨rfl, hm⟩
  | act a k ih =>
    refine ⟨(h a hm.1).1, fun r => ?_⟩
    rw [(h a hm.1).2 r]
    exact ih r ((hm.2 r).resolve_left id)

theorem allowed {m : Proc A R α} (hm : Obeys allows next s m P) (h : m.next = some a) :
    allows s a := by
  cases m with
  | ret x => cases h
  | act b k => cases h; exact hm.1

end Obeys
end Proc
end GlXe3000
