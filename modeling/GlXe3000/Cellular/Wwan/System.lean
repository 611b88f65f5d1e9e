import GlXe3000.Lib.Machine
import GlXe3000.Cellular.Wwan.Scripts

/-! # All of them at once

Any number of runs of the scripts over one world, with the user storing an option and the kernel
finishing a write to `remove` at any point in between. -/

namespace GlXe3000.Cellular.Wwan

inductive Pci
  | idle
  /-- The child is in its write to `remove`. -/
  | removing
  | removed
  deriving DecidableEq

/-- An `ifdown wwan` or an `ifup wwan`, and the configuration at that moment. -/
inductive Touch
  | down (p : Nat) (u : Uci)
  | up (p : Nat) (u : Uci)
  deriving DecidableEq

structure World where
  uci : Uci
  /-- `/var/run/gl-cellular-flashing` exists. -/
  flashing : Bool
  /-- The run that holds `/var/run/gl-net-reconfig.lock`. -/
  lock : Option Nat
  pci : Nat → Pci
  log : List Touch

/-- What the environment answers: the truth of a question or of an exit status, and the number of a
process that is started. -/
structure Reply where
  yes : Bool
  child : Nat := 0
  deriving DecidableEq

namespace World

def setPci (w : World) (p : Nat) (x : Pci) : World :=
  { w with pci := Function.update w.pci p x }

def release (w : World) (p : Nat) : World :=
  { w with lock := if w.lock = some p then none else w.lock }

/-- The answer to an action of the run `p`. -/
def answer (p : Nat) (e : Reply) : (a : Act) → World → Answer a × World
  | .flashing, w => (w.flashing, w)
  | .get g, w => (g.isOpen w.uci, w)
  | .getBoth g h, w => ((g.isOpen w.uci, h.isOpen w.uci), w)
  | .setScan v, w => ((), { w with uci := Gate.scanInProgress.set v w.uci })
  | .flock, w => (w.lock.isNone, { w with lock := w.lock.or (some p) })
  | .unlock, w => ((), w.release p)
  | .ifdown, w => (e.yes, { w with log := w.log ++ [.down p w.uci] })
  | .ifup, w => (e.yes, { w with log := w.log ++ [.up p w.uci] })
  | .ask _, w => (e.yes, w)
  | .remove, w => ((), w.setPci p .removing)
  | .removeAlive, w => (decide (w.pci p = .removing), w)
  | .rescan, w => (e.yes, w.setPci p .idle)
  | .raise, w => ((), { w with flashing := true })
  | .lower, w => ((), { w with flashing := false })
  | .spawnWorker _, w => ((), w)

/-- The run `p` ends: its descriptor of the lock is closed and no rescan follows its remove. A child
that is still in its write to `remove` goes on. -/
def finish (w : World) (p : Nat) : World :=
  (w.release p).setPci p (if w.pci p = .removed then .idle else w.pci p)

end World

structure State where
  world : World
  runs : Nat → Script Bool

inductive Event
  | start (p : Nat) (j : Job)
  /-- The run `p` performs its next action. -/
  | step (p : Nat) (e : Reply)
  | kill (p : Nat)
  | store (g : Gate) (v : Text)
  /-- The write to `remove` of the run `p` returns. -/
  | removed (p : Nat)
  deriving DecidableEq

namespace State

def vacant (s : State) (p : Nat) : Bool := (s.runs p).isDone && s.world.pci p = .idle

def begin (s : State) (p : Nat) (m : Script Bool) : State :=
  if s.vacant p then { s with runs := Function.update s.runs p m } else s

def finish (s : State) (p : Nat) : State :=
  if (s.runs p).isDone then { s with world := s.world.finish p } else s

/-- The run `p` performs one action. -/
def perform (s : State) (p : Nat) (e : Reply) : State :=
  let r := (s.runs p).advance (World.answer p e) s.world
  finish { world := r.2, runs := Function.update s.runs p r.1 } p

def kill (s : State) (p : Nat) : State :=
  finish { s with runs := Function.update s.runs p (.ret false) } p

/-- The worker the run `p` is about to start. -/
def spawning (s : State) (p : Nat) : Option Bool :=
  match (s.runs p).next with
  | some (.spawnWorker redial) => some redial
  | _ => none

def step (s : State) : Event → State
  | .start p j => s.begin p j.script
  | .step p e =>
    match s.spawning p with
    | some redial => (s.perform p e).begin e.child (scanWorker redial)
    | none => s.perform p e
  | .kill p => s.kill p
  | .store g v => { s with world := { s.world with uci := g.set v s.world.uci } }
  | .removed p =>
    if s.world.pci p = .removing then
      { s with world := s.world.setPci p (if (s.runs p).isDone then .idle else .removed) }
    else s

/-! ## What a step can change -/

section
variable {s : State} {p : Nat} {e : Reply} {m : Script Bool}

@[simp] theorem begin_world : (s.begin p m).world = s.world := by
  unfold begin; split <;> rfl

theorem forall_begin {I : Script Bool → Prop} (h : ∀ q, I (s.runs q)) (hm : I m) :
    ∀ q, I ((s.begin p m).runs q) := by
  unfold begin
  split
  · exact forall_update (I := fun _ => I) (fun q _ => h q) hm
  · exact h

@[simp] theorem finish_runs : (s.finish p).runs = s.runs := by unfold finish; split <;> rfl

@[simp] theorem finish_uci : (s.finish p).world.uci = s.world.uci := by
  unfold finish; split <;> rfl

@[simp] theorem finish_flashing : (s.finish p).world.flashing = s.world.flashing := by
  unfold finish; split <;> rfl

@[simp] theorem finish_log : (s.finish p).world.log = s.world.log := by
  unfold finish; split <;> rfl

theorem finish_pci (h : ∀ q, s.world.pci q = .idle) : ∀ q, (s.finish p).world.pci q = .idle := by
  unfold finish
  split
  · exact forall_update (I := fun _ x => x = Pci.idle) (fun q _ => h q) (by simp [h p])
  · exact h

theorem step_step_cases (s : State) (p : Nat) (e : Reply) :
    s.step (.step p e) = s.perform p e ∨
    ∃ redial, (s.runs p).next = some (.spawnWorker redial) ∧
      s.step (.step p e) = (s.perform p e).begin e.child (scanWorker redial) := by
  cases h : (s.runs p).next with
  | none => exact .inl (by simp only [step, spawning, h])
  | some a =>
    cases a with
    | spawnWorker redial => exact .inr ⟨redial, rfl, by simp only [step, spawning, h]⟩
    | _ => exact .inl (by simp only [step, spawning, h])

theorem forall_perform {I : Script Bool → Prop} (h : ∀ q, q ≠ p → I (s.runs q))
    (hp : I ((s.runs p).advance (World.answer p e) s.world).1) :
    ∀ q, I ((s.perform p e).runs q) := by
  unfold perform
  rw [finish_runs]
  exact forall_update (I := fun _ => I) h hp

theorem forall_kill {I : Script Bool → Prop} (h : ∀ q, I (s.runs q)) (hr : I (.ret false)) :
    ∀ q, I ((s.kill p).runs q) := by
  unfold kill
  rw [finish_runs]
  exact forall_update (I := fun _ => I) (fun q _ => h q) hr

theorem kill_pci (h : ∀ q, s.world.pci q = .idle) : ∀ q, (s.kill p).world.pci q = .idle :=
  finish_pci h

@[simp] theorem kill_uci : (s.kill p).world.uci = s.world.uci := by simp [kill]

@[simp] theorem kill_flashing : (s.kill p).world.flashing = s.world.flashing := by simp [kill]

@[simp] theorem kill_log : (s.kill p).world.log = s.world.log := by simp [kill]

theorem step_removed_frame : (s.step (.removed p)).runs = s.runs ∧
    (s.step (.removed p)).world.uci = s.world.uci ∧
    (s.step (.removed p)).world.log = s.world.log := by
  by_cases hp : s.world.pci p = .removing
  · simp only [step, if_pos hp, World.setPci, and_self]
  · simp only [step, if_neg hp, and_self]

end

end State

def machine : Machine State Event := ⟨State.step⟩

structure State.AtRest (s : State) : Prop where
  runs : ∀ p, s.runs p = .ret true
  pci : ∀ p, s.world.pci p = .idle
  log : s.world.log = []

def fresh (u : Uci) : State where
  world := { uci := u, flashing := false, lock := none, pci := fun _ => .idle, log := [] }
  runs := fun _ => .ret true

theorem atRest_fresh (u : Uci) : (fresh u).AtRest where
  runs _ := rfl
  pci _ := rfl
  log := rfl

end GlXe3000.Cellular.Wwan
