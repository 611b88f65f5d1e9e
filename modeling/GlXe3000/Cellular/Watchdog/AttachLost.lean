import GlXe3000.Cellular.Watchdog.AttachClock
import GlXe3000.Cellular.Watchdog.OneRung

/-! # Power cycles for a lost attach

`attach_lost_watch` power-cycles the radio when the attach has been lost for a wait that triples
with every attempt. How far apart its cycles are, and how the waits go, follows from what one tick
can do to its variables (`Ended`): it leaves them alone, ends or starts the clock, resets the wait
in a confirmed-good tick, or fires. Whether the SIM was ready all the time is another matter. Only a
tick that gets to `attach_lost_watch`, finds the modem attached or stands down sees to it that the
clock does not run on with a SIM that is not ready. -/

namespace GlXe3000.Cellular.Watchdog
open Observer Text

/-! ## One tick -/

/-- Up to `attach_lost_watch`. -/
structure Quiet (s₀ s : State) : Prop where
  since : s.attachLostSince = s₀.attachLostSince ∨ s.attachLostSince = 0
  wait : s.attachLostWait = s₀.attachLostWait
  cycles : s.attachLostCycles = s₀.attachLostCycles
  goods : s.confirmedGood = s₀.confirmedGood
  cfun : s₀.lastCfun ≤ s.lastCfun

structure Still (c : Config) (s₀ s : State) : Prop where
  since : s.attachLostSince = s₀.attachLostSince ∨ s.attachLostSince = 0 ∨
    c.attachLostCfun ≠ 0 ∧ s₀.clock ≤ s.attachLostSince
  wait : (s.attachLostWait = s₀.attachLostWait ∧ s.attachLostCycles = s₀.attachLostCycles ∧
      s.confirmedGood = s₀.confirmedGood) ∨
    (s.attachLostWait = c.attachLostCfun ∧ s.attachLostCycles = 0 ∧
      s₀.confirmedGood < s.confirmedGood)
  cfun : s₀.lastCfun ≤ s.lastCfun

/-- A tick in which `attach_lost_watch` has started a cycle, at the time `last_cfun`. -/
structure Fired (c : Config) (s₀ : State) (t : Nat) (s : State) : Prop where
  on : c.attachLostCfun ≠ 0
  running : s₀.attachLostSince ≠ 0
  cycles : s.attachLostCycles = s₀.attachLostCycles + 1
  goods : s.confirmedGood = s₀.confirmedGood
  waited : s₀.attachLostSince + s₀.attachLostWait ≤ s.lastCfun
  cooled : s₀.lastCfun + c.cfunCooldown ≤ s.lastCfun
  restarted : s.lastCfun ≤ s.attachLostSince
  past : s.attachLostSince ≤ t
  wait : s.attachLostWait = min (s₀.attachLostWait * 3) attachLostCfunMax

def Ended (c : Config) (env : Nat → World) (s₀ : State) (i : Nat) (s : State) : Prop :=
  Still c s₀ s ∨ Fired c s₀ (env i).clock s

section
variable {c : Config} {env : Nat → World} {s₀ : State}

theorem confirmedGood_note {s : State} {e : Entry} (he : e ≠ .good) :
    ({ s with log := s.log ++ [e] } : State).confirmedGood = s.confirmedGood := by
  have hnot : e.isGood = false := by
    cases e <;> first | rfl | exact absurd rfl he
  simp [State.confirmedGood, hnot]

theorem lost_eq {s s' : State} (h : s'.lost = s.lost) :
    s'.attachLostSince = s.attachLostSince ∧ s'.attachLostWait = s.attachLostWait ∧
      s'.attachLostCycles = s.attachLostCycles ∧ s'.lastCfun = s.lastCfun ∧ s'.cpin = s.cpin := by
  simpa only [State.lost, Lost.mk.injEq] using h

theorem confirmedGood_eq {s s' : State} (h : s'.log = s.log) :
    s'.confirmedGood = s.confirmedGood := by
  rw [State.confirmedGood, State.confirmedGood, h]

theorem Quiet.still (h : Quiet s₀ s) : Still c s₀ s :=
  ⟨h.since.imp_right .inl, .inl ⟨h.wait, h.cycles, h.goods⟩, h.cfun⟩

theorem Quiet.beside (c : Config) (env : Nat → World) (s₀ : State) :
    Beside c env fun _ => Quiet s₀ where
  look _ _ h := h
  frame _ s s' hl hlog h := by
    obtain ⟨hsince, hwait, hcycles, hcfun, -⟩ := lost_eq hl
    exact ⟨hsince ▸ h.since, hwait ▸ h.wait, hcycles ▸ h.cycles, confirmedGood_eq hlog ▸ h.goods,
      hcfun ▸ h.cfun⟩
  note _ s e he h := { h with goods := (confirmedGood_note he).trans h.goods }
  query _ _ h := { h with }
  cfun i j s _ hready h := { h with
    cfun := Nat.le_trans h.cfun (Nat.le_trans (Nat.le_add_right _ _) hready) }
  clear _ _ h := { h with since := .inr rfl }

theorem Ended.idle (hmono : ∀ i j, i ≤ j → (env i).clock ≤ (env j).clock) :
    Idle (Ended c env s₀) where
  look i s h := h.imp_right fun h =>
    { h with past := Nat.le_trans h.past (hmono i (i + 1) (Nat.le_succ i)) }
  frame i s s' hl hlog h := by
    obtain ⟨hsince, hwait, hcycles, hcfun, -⟩ := lost_eq hl
    have hgoods := confirmedGood_eq hlog
    refine h.imp (fun h => ⟨?_, ?_, ?_⟩) fun h =>
      ⟨h.on, h.running, ?_, ?_, ?_, ?_, ?_, ?_, ?_⟩
    · rw [hsince]; exact h.since
    · rw [hwait, hcycles, hgoods]; exact h.wait
    · rw [hcfun]; exact h.cfun
    · rw [hcycles]; exact h.cycles
    · rw [hgoods]; exact h.goods
    · rw [hcfun]; exact h.waited
    · rw [hcfun]; exact h.cooled
    · rw [hcfun, hsince]; exact h.restarted
    · rw [hsince]; exact h.past
    · rw [hwait]; exact h.wait
  note i s e he h := by
    have hgoods := confirmedGood_note (s := s) he
    refine h.imp (fun h => { h with wait := ?_ }) fun h => { h with goods := hgoods.trans h.goods }
    rw [hgoods]
    exact h.wait

theorem fire (hmono : ∀ i j, i ≤ j → (env i).clock ≤ (env j).clock) (hon : c.attachLostCfun ≠ 0)
    (now : Nat) :
    Sat env (fun j s => (∃ i, i < j ∧ now = (env i).clock) ∧ s₀.attachLostSince ≠ 0 ∧
        s₀.attachLostSince + s₀.attachLostWait ≤ now ∧ s.lastCfun + c.cfunCooldown ≤ now ∧
        Quiet s₀ s)
      (do
        modify fun s => { s with attachLostCycles := s.attachLostCycles + 1 }
        let _ ← doCfunCycle c
        let now ← date
        modify (afterAttachLost now)) fun _ => Ended c env s₀ := by
  -- Between the count and the restart of the clock, with the cycle at the time of some look.
  let Counted (k : Nat) (s : State) : Prop :=
    s.attachLostCycles = s₀.attachLostCycles + 1 ∧ s.attachLostWait = s₀.attachLostWait ∧
      s.confirmedGood = s₀.confirmedGood ∧ s.lastCfun = (env k).clock
  have hidle : Idle fun j s => ∃ k, k < j ∧ now ≤ (env k).clock ∧ Counted k s :=
    { look := fun j s ⟨k, hk, h⟩ => ⟨k, Nat.lt_succ_of_lt hk, h⟩
      frame := fun j s s' hl hlog ⟨k, hk, hnow, hc, hw, hg, hf⟩ => by
        obtain ⟨-, hwait, hcycles, hcfun, -⟩ := lost_eq hl
        exact ⟨k, hk, hnow, hcycles.trans hc, hwait.trans hw, (confirmedGood_eq hlog).trans hg,
          hcfun.trans hf⟩
      note := fun j s e he ⟨k, hk, hnow, hc, hw, hg, hf⟩ =>
        ⟨k, hk, hnow, hc, hw, (confirmedGood_note he).trans hg, hf⟩ }
  refine Sat.assume (φ := s₀.attachLostSince ≠ 0 ∧ s₀.attachLostSince + s₀.attachLostWait ≤ now ∧
    s₀.lastCfun + c.cfunCooldown ≤ now) (fun i s hs => ?_) fun ⟨hrunning, hwaited, hcooled⟩ => ?_
  · obtain ⟨-, hrunning, hwaited, hcooled, hq⟩ := hs
    exact ⟨hrunning, hwaited, Nat.le_trans (Nat.add_le_add_right hq.cfun _) hcooled⟩
  refine Sat.bind (R := fun _ j s => (∃ i, i < j ∧ now = (env i).clock) ∧
    s.lastCfun + c.cfunCooldown ≤ now ∧ s.attachLostCycles = s₀.attachLostCycles + 1 ∧
    s.attachLostWait = s₀.attachLostWait ∧ s.confirmedGood = s₀.confirmedGood)
    (Sat.modify fun j s hs => ?_) fun _ => ?_
  · obtain ⟨hlook, -, -, hcfun, hq⟩ := hs
    exact ⟨hlook, hcfun, congrArg (· + 1) hq.cycles, hq.wait, hq.goods⟩
  refine Sat.bind (R := fun _ j s => ∃ k, k < j ∧ now ≤ (env k).clock ∧ Counted k s) ?_ fun _ => ?_
  · refine Sat.bind (R := fun now' j s => (∃ k, k < j ∧ now' = (env k).clock ∧ now ≤ now') ∧
      s.lastCfun + c.cfunCooldown ≤ now' ∧ s.attachLostCycles = s₀.attachLostCycles + 1 ∧
      s.attachLostWait = s₀.attachLostWait ∧ s.confirmedGood = s₀.confirmedGood) ?_ fun now' => ?_
    · rintro j s ⟨⟨i, hij, rfl⟩, hcfun, hrest⟩
      have hle := hmono i j (Nat.le_of_lt hij)
      exact ⟨⟨j, Nat.lt_succ_self j, rfl, hle⟩, Nat.le_trans hcfun hle, hrest⟩
    refine Sat.get_bind fun s₁ => Sat.ite (fun hlt i s hs => ?_) fun _ => ?_
    · obtain ⟨⟨-, hcfun, -⟩, rfl⟩ := hs
      exact absurd hlt (Nat.not_lt.mpr hcfun)
    refine Sat.bind (R := fun _ j s => ∃ k, k < j ∧ now ≤ (env k).clock ∧ Counted k s)
      (Sat.modify fun j s hs => ?_) fun _ => hidle.powerCycle now'
    obtain ⟨⟨⟨k, hk, rfl, hle⟩, -, hc, hw, hg⟩, -⟩ := hs
    exact ⟨k, hk, hle, hc, hw, hg, rfl⟩
  refine Sat.bind (R := fun now' j s => (∃ m, m < j ∧ now' = (env m).clock) ∧
    ∃ k, now ≤ (env k).clock ∧ (env k).clock ≤ now' ∧ Counted k s) ?_ fun now' => ?_
  · rintro j s ⟨k, hk, hnow, hc⟩
    exact ⟨⟨j, Nat.lt_succ_self j, rfl⟩, k, hnow, hmono k j (Nat.le_of_lt hk), hc⟩
  refine Sat.modify fun j s hs => .inr ?_
  obtain ⟨⟨m, hm, rfl⟩, k, hnow, hle, hc, hw, hg, hf⟩ := hs
  refine ⟨hon, hrunning, hc, hg, ?_, ?_, ?_, hmono m j (Nat.le_of_lt hm), ?_⟩
  · exact hf ▸ Nat.le_trans hwaited hnow
  · exact hf ▸ Nat.le_trans hcooled hnow
  · exact hf ▸ hle
  · exact congrArg (fun w => min (w * 3) attachLostCfunMax) hw

theorem Ended.lost (hclock : ClockMonotone s₀ env) :
    Sat env (fun _ => Quiet s₀) (attachLostWatch c) fun _ => Ended c env s₀ := by
  have hstay : Sat env (fun _ => Quiet s₀) (pure () : Prog Unit) fun _ => Ended c env s₀ :=
    Sat.pure fun _ _ h => .inl h.still
  refine Sat.ite (fun _ => hstay) fun hon => Sat.bind (R := fun _ _ => Quiet s₀)
    (Sat.observe fun _ _ h => h) fun _ => Sat.ite (fun _ => hstay) fun _ => ?_
  refine Sat.get_bind fun s₁ => Sat.ite (fun _ => ?_) fun _ => ?_
  · exact Sat.modify fun i s hs => .inl (Quiet.still { hs.1 with since := .inr rfl })
  refine Sat.bind (R := fun now j s => (∃ i, i < j ∧ now = (env i).clock) ∧ Quiet s₀ s ∧ s = s₁)
    (fun i s hs => ⟨⟨i, Nat.lt_succ_self i, rfl⟩, hs⟩) fun now => Sat.ite (fun _ => ?_) fun hset => ?_
  · refine Sat.modify fun j s hs => .inl ?_
    obtain ⟨⟨i, -, rfl⟩, hq, -⟩ := hs
    refine { hq.still (c := c) with since := .inr (.inr ⟨hon, ?_⟩) }
    exact Nat.le_trans hclock.2 (hclock.1 0 i (Nat.zero_le i))
  have hwait : Sat env (fun j s => (∃ i, i < j ∧ now = (env i).clock) ∧ Quiet s₀ s ∧ s = s₁)
      (pure () : Prog Unit) fun _ => Ended c env s₀ := hstay.pre fun _ _ hs => hs.2.1
  refine Sat.ite (fun _ => hwait) fun hlong => Sat.ite (fun _ => hwait) fun hcool => ?_
  refine Sat.bind (R := fun _ j s => (∃ i, i < j ∧ now = (env i).clock) ∧ Quiet s₀ s ∧ s = s₁) ?_
    fun full => Sat.ite (fun _ => ?_) fun _ => hwait
  · rintro j s ⟨⟨i, hij, hnow⟩, hs⟩
    exact ⟨⟨i, Nat.lt_succ_of_lt hij, hnow⟩, hs⟩
  refine (fire hclock.1 hon now).pre fun j s hs => ?_
  obtain ⟨hlook, hq, rfl⟩ := hs
  have hsince := hq.since.resolve_right hset
  refine ⟨hlook, hsince ▸ hset, ?_, Nat.not_lt.mp hcool, hq⟩
  rw [← hsince, ← hq.wait]
  exact Nat.not_lt.mp hlong

theorem Ended.ends (hclock : ClockMonotone s₀ env) :
    Ends c env (fun _ => Quiet s₀) (Ended c env s₀) where
  toIdle := Ended.idle hclock.1
  stay _ _ h := .inl h.still
  good i s h := by
    refine .inl ⟨h.since.imp_right .inl, .inr ⟨rfl, rfl, ?_⟩, h.cfun⟩
    have hgood : (confirmGood c s).confirmedGood = s.confirmedGood + 1 := by
      simp [State.confirmedGood, confirmGood, Entry.isGood]
    rw [hgood, h.goods]
    exact Nat.lt_succ_self _
  lost := Ended.lost hclock

theorem outcome_step (c : Config) (s : State) (env : Nat → World) (hclock : ClockMonotone s env) :
    Still c s (s.step c env) ∨ Fired c s (s.step c env).clock (s.step c env) := by
  have hstart : Quiet s s := ⟨.inl rfl, rfl, rfl, rfl, Nat.le_refl _⟩
  have hend := (Ended.ends hclock).tick (Quiet.beside c env s) 0 s hstart
  refine hend.imp (fun h => ?_) fun h => ?_
  · exact ⟨h.since, h.wait, h.cfun⟩
  · exact ⟨h.on, h.running, h.cycles, h.goods, h.waited, h.cooled, h.restarted, h.past, h.wait⟩

end

/-! ## The SIM -/

/-- The tick gets to the attach check: nothing ends it before, and no reconnect after a re-lock
starts in front of it. -/
structure Evaluated (s : State) (env : Nat → World) : Prop where
  notFlashing : ∀ i, (env i).flashing = false
  noRelock : NoRelock s env
  unblocked : ∀ i, s.blockedUntil ≤ (env i).clock
  settled : s.redialPending = false
  flat : ∀ i, (env i).up = false ∨ (env i).device = [] ∨
    ∀ j, (env j).rxBytes (env i).device = none ∨
      ((env i).device = s.lastDevice ∧ (env j).rxBytes (env i).device = s.lastRx)
  answers : ∀ i, ((env i).reply .at).isEmpty = false
  node : ∀ i, (env i).qmiNode = true

/-- While the attach-lost clock runs, a tick in which the SIM is not ready gets to the attach
check. -/
def SimSeen (s : State) (env : Nat → World) : Prop :=
  s.attachLostSince ≠ 0 →
    (∀ i, cpinReady ((env i).reply .cpin) = true) ∨ Evaluated s env

def ClockReady (s : State) : Prop := s.attachLostSince = 0 ∨ cpinReady s.cpin = true

section
variable {c : Config} {env : Nat → World} {s₀ : State}

theorem ClockReady.idle : Idle fun _ => ClockReady where
  look _ _ h := h
  frame _ s s' hl _ h := by
    obtain ⟨hsince, -, -, -, hcpin⟩ := lost_eq hl
    rw [ClockReady, hsince, hcpin]
    exact h
  note _ _ _ _ h := h

theorem idle_ready : Idle fun _ s => cpinReady s.cpin = true where
  look _ _ h := h
  frame _ s s' hl _ h := by rw [(lost_eq hl).2.2.2.2]; exact h
  note _ _ _ _ h := h

theorem keeps_ready (c : Config) (env : Nat → World) :
    Keeps env (fun _ s => cpinReady s.cpin = true) (attachLostWatch c) := by
  have hI := idle_ready
  have hcycle : Keeps env (fun _ s => cpinReady s.cpin = true) (doCfunCycle c) := by
    refine .bind (hI.observe _) fun now => .bind .get fun s => .ite (.pure _) ?_
    exact .bind (.modify fun _ _ h => h) fun _ => hI.powerCycle now
  refine .ite (.pure _) (.bind (hI.observe _) fun _ => .ite (.pure _) (.bind .get fun s => ?_))
  refine .ite (.modify fun _ _ h => h) (.bind (hI.observe _) fun now => ?_)
  refine .ite (.modify fun _ _ h => h) (.ite (.pure _) (.ite (.pure _) ?_))
  refine .bind hI.cfunIsFull fun _ => .ite (.bind (.modify fun _ _ h => h) fun _ => ?_) (.pure _)
  exact .bind hcycle fun _ => .bind (hI.observe _) fun now => .modify fun _ _ h => h

theorem clear_unready (c : Config) (env : Nat → World) :
    Sat env (fun _ s => cpinReady s.cpin = false ∧ (s.attachLostSince = 0 ∨
        c.attachLostCfun ≠ 0 ∧ ∀ i, (env i).flashing = false))
      (attachLostWatch c) fun _ _ s => s.attachLostSince = 0 := by
  refine Sat.ite (fun hoff => Sat.pure fun i s hs => hs.2.resolve_right fun h => h.1 hoff) fun _ => ?_
  refine Sat.bind (R := fun b _ s => cpinReady s.cpin = false ∧
    (s.attachLostSince = 0 ∨ b = false)) (Sat.observe fun i s hs => ?_) fun b => ?_
  · exact ⟨hs.1, hs.2.imp_right fun h => h.2 i⟩
  refine Sat.ite (fun hb => Sat.pure fun i s hs => hs.2.resolve_right fun h => ?_) fun _ => ?_
  · exact absurd hb (by simp [h])
  refine Sat.get_bind fun s₁ => Sat.ite (fun _ => Sat.modify fun _ _ _ => rfl) fun hready => ?_
  intro i s hs
  obtain ⟨⟨hunready, -⟩, rfl⟩ := hs
  exact absurd (by rw [hunready]; rfl) hready

theorem clockReady_lost (c : Config) (env : Nat → World) :
    Sat env (fun _ s => s.attachLostSince = 0 ∨
        c.attachLostCfun ≠ 0 ∧ ∀ i, (env i).flashing = false)
      (attachLostWatch c) fun _ _ => ClockReady := by
  intro i s hs
  cases hready : cpinReady s.cpin with
  | true => exact .inr (keeps_ready c env i s hready)
  | false => exact .inl (clear_unready c env i s ⟨hready, hs⟩)

theorem stopped_beside (c : Config) (env : Nat → World) :
    Beside c env fun _ s => s.attachLostSince = 0 where
  look _ _ h := h
  frame _ _ _ hl _ h := (lost_eq hl).1.trans h
  note _ _ _ _ h := h
  query _ _ h := h
  cfun _ _ _ _ _ h := h
  clear _ _ _ := rfl

theorem stopped_ends (c : Config) (env : Nat → World) :
    Ends c env (fun _ s => s.attachLostSince = 0) fun _ => ClockReady where
  toIdle := ClockReady.idle
  stay _ _ h := .inl h
  good _ _ h := .inl h
  lost := (clockReady_lost c env).pre fun _ _ hs => .inl hs

theorem clockReady_of_stopped (h : s₀.attachLostSince = 0) : ClockReady (s₀.step c env) :=
  (stopped_ends c env).tick (stopped_beside c env) 0 s₀ h

theorem clockReady_of_ready (h : ∀ i, cpinReady ((env i).reply .cpin) = true)
    (hcpin : cpinReady s₀.cpin = true) : ClockReady (s₀.step c env) := by
  have hI : Beside c env fun _ s => cpinReady s.cpin = true :=
    { idle_ready with
      query := fun i _ _ => h i
      cfun := fun _ _ _ _ _ h => h
      clear := fun _ _ h => h }
  have hQ : Ends c env (fun _ s => cpinReady s.cpin = true) fun _ s => cpinReady s.cpin = true :=
    { idle_ready with
      stay := fun _ _ h => h
      good := fun _ _ h => h
      lost := keeps_ready c env }
  exact .inr (hQ.tick hI 0 s₀ hcpin)

/-! The variables that decide whether a tick gets to the attach check. -/

structure Path where
  blockedUntil : Nat
  redialPending : Bool
  lastDevice : Text
  lastRx : Option Nat

def State.path (s : State) : Path := ⟨s.blockedUntil, s.redialPending, s.lastDevice, s.lastRx⟩

namespace Evaluated

theorem simLockWatch (h : Evaluated s₀ env) :
    Sat env (fun _ s => s.path = s₀.path ∧ s.simWasLocked = false ∧ s.cpinValid = false)
      (simLockWatch c) fun _ _ s => s.path = s₀.path := by
  -- What the check sees of the SIM: no PIN is asked for, or none is saved.
  let Seen (s : State) : Prop := s.path = s₀.path ∧ s.simWasLocked = false ∧ CpinSeen env s
  have hquery : Sat env (fun _ s => s.path = s₀.path ∧ s.simWasLocked = false) cpinQuery
      fun _ _ => Seen := fun i s hs =>
    ⟨hs.1, hs.2, h.noRelock.noPin.imp_right fun hno => hno i⟩
  have hreask : ∀ k, Keeps env (fun _ => Seen) (reaskCpin k) := by
    intro k
    induction k with
    | zero => exact .pure _
    | succ k ih =>
      refine .bind .get fun s => .ite (.bind (hquery.pre fun i s hs => ⟨hs.1, hs.2.1⟩) fun _ => ih) ?_
      exact .pure _
  refine Keeps.and_then (keeps_administrativelyEnabled (fun _ _ hs => hs) fun i s hs => hs)
    fun _ => Sat.ite (fun _ => ?_) fun _ => Sat.modify fun i s hs => hs.1
  refine Sat.bind (R := fun _ _ => Seen) ?_ fun _ => (hreask 3).and_then fun _ => ?_
  · refine Sat.get_bind fun s => Sat.ite (fun hv => ?_) fun _ => ?_
    · exact Sat.pure fun i s' hs => absurd hv (by rw [← hs.2, hs.1.2.2]; simp)
    · exact hquery.pre fun i s hs => ⟨hs.1.1, hs.1.2.1⟩
  refine Sat.get_bind fun s => Sat.ite (fun hpin => ?_) fun _ => Sat.ite (fun _ => ?_) fun _ => ?_
  · refine Sat.assume (φ := ∀ i, (env i).uci.pincode = []) (fun i s' hs => ?_) fun hempty => ?_
    · exact hs.1.2.2.resolve_right fun hno => by rw [← hs.2, hno] at hpin; cases hpin
    refine Sat.pre (P := fun _ s => s.path = s₀.path) ?_ fun i s' hs => hs.1.1
    refine Keeps.and_then (.modify fun _ _ hs => hs) fun _ => ?_
    have hgate : Keeps env (fun _ s => s.path = s₀.path) leftToGate :=
      .bind .get fun _ => .ite (.pure _) (.ite (.pure _)
        (.bind (.observe fun _ _ hs => hs) fun _ => .pure _))
    refine hgate.and_then fun _ => Sat.ite (fun _ => Sat.pure fun _ _ hs => hs) fun _ => ?_
    refine Keeps.and_then (.modify fun _ _ hs => hs) fun _ => ?_
    refine Sat.look (φ := (· = [])) hempty (fun _ _ hs => hs) fun pin hnone => ?_
    subst hnone
    exact Sat.pure fun _ _ hs => hs
  · refine Sat.assume (φ := s.simWasLocked = false) (fun i s' hs => hs.2 ▸ hs.1.2.1) fun hs₁ => ?_
    refine Sat.pre (P := fun _ s => s.path = s₀.path) ?_ fun i s' hs => hs.1.1
    refine Keeps.and_then (.modify fun _ _ hs => hs) fun _ => ?_
    rw [hs₁]
    exact Sat.pure fun _ _ hs => hs
  · exact Sat.pure fun i s' hs => hs.1.1

theorem simChecks (h : Evaluated s₀ env) :
    Sat env (fun _ s => s.path = s₀.path ∧ s.simWasLocked = false) (simChecks c)
      fun _ _ s => s.path = s₀.path := by
  refine Keeps.and_then (.observe fun _ _ hs => hs) fun up => ?_
  refine Keeps.and_then (.modify fun _ _ hs => hs) fun _ => ?_
  refine Keeps.and_then (.observe fun _ _ hs => hs) fun lost => ?_
  refine Keeps.and_then (.onlyIf (.modify fun _ _ hs => hs)) fun _ => Keeps.get.and_then fun s => ?_
  refine Sat.bind (R := fun _ _ s => s.path = s₀.path) (Sat.ite (fun _ => ?_) fun _ => ?_) fun _ => ?_
  · exact Sat.bind (Sat.modify fun i s hs => ⟨hs.1, hs.2, rfl⟩) fun _ => h.simLockWatch
  · exact Sat.pure fun _ _ hs => hs.1
  refine Keeps.and_then (.modify fun _ _ hs => hs) fun _ => ?_
  refine Sat.look (φ := (· = [])) h.noRelock.noReinit (fun _ _ hs => hs) fun marker hnone => ?_
  subst hnone
  exact Sat.pure fun _ _ hs => hs

theorem enabled (_ : Evaluated s₀ env) : Keeps env (fun _ s => s.path = s₀.path) enabled := by
  have hquery : Keeps env (fun _ s => s.path = s₀.path) cpinQuery :=
    .bind (.observe fun _ _ hs => hs) fun _ => .modify fun _ _ hs => hs
  refine .bind (keeps_administrativelyEnabled (fun _ _ hs => hs) fun i s hs => hs) fun b =>
    .ite ?_ (.pure _)
  refine .bind (.bind .get fun _ => .ite (.pure _) hquery) fun _ => ?_
  exact .bind (.observe fun _ _ hs => hs) fun _ => .bind .get fun s => .ite (.pure _) (.pure _)

theorem trafficAdvancing (hdev : ∀ j, (env j).rxBytes dev = none ∨
    (dev = s₀.lastDevice ∧ (env j).rxBytes dev = s₀.lastRx)) :
    Sat env (fun _ s => s.path = s₀.path) (trafficAdvancing dev) fun t _ _ => t = .flat := by
  refine Sat.look (φ := fun rx => rx = none ∨ (dev = s₀.lastDevice ∧ rx = s₀.lastRx)) hdev
    (fun _ _ hs => hs) fun rx hrx => Sat.get_bind fun s₁ => ?_
  cases rx with
  | none => exact Sat.pure fun _ _ _ => rfl
  | some now =>
    obtain ⟨hd, hnow⟩ := hrx.resolve_left (by simp)
    refine Sat.assume (φ := s₁.lastDevice = dev ∧ s₁.lastRx = some now) (fun i s hs => ?_)
      fun hs₁ => ?_
    · rw [← hs.2, hd, hnow]
      exact ⟨congrArg Path.lastDevice hs.1, congrArg Path.lastRx hs.1⟩
    refine Sat.ite (fun hnew => absurd hnew (by simp [hs₁.1, hs₁.2])) fun _ => ?_
    refine Sat.bind (R := fun _ _ _ => True) (Sat.modify fun _ _ _ => trivial) fun _ => ?_
    exact Sat.ite (fun hlt => absurd hlt (by simp [hs₁.2])) fun _ => Sat.pure fun _ _ _ => rfl

theorem suspect (h : Evaluated s₀ env) (hon : c.attachLostCfun ≠ 0) (up : Bool) (device : Text)
    (traffic : Traffic) :
    Sat env (fun _ _ => True) (suspect c up device traffic) fun _ _ => ClockReady := by
  have hany : ∀ {α : Type} {m : Prog α}, Keeps env (fun _ _ => True) m := fun _ _ _ => trivial
  have halive : Sat env (fun _ _ => True) (silentPort c) fun b _ _ => b = false := by
    refine Sat.bind (R := fun b _ _ => b = true) ?_ fun b i s hb => by subst hb; rfl
    refine Sat.look (φ := fun b : Text => b.isEmpty = false) h.answers (fun _ _ hs => hs)
      fun r hr => ?_
    rw [hr]
    exact Sat.pure fun _ _ _ => rfl
  have hnode : Sat env (fun _ _ => True) (missingNode c) fun b _ _ => b = false := by
    refine Sat.look (φ := (· = true)) h.node (fun _ _ hs => hs) fun b hb => ?_
    subst hb
    exact Sat.bind (R := fun _ _ _ => True) hany fun _ => Sat.pure fun _ _ _ => rfl
  refine Sat.bind halive fun b => Sat.ite (fun hb i s hs => absurd hb (by simp [hs])) fun _ => ?_
  refine Sat.pre (P := fun _ _ => True) ?_ fun _ _ _ => trivial
  refine Sat.bind hnode fun b => Sat.ite (fun hb i s hs => absurd hb (by simp [hs])) fun _ => ?_
  refine Sat.pre (P := fun _ _ => True) ?_ fun _ _ _ => trivial
  refine hany.and_then fun attach => Sat.ite (fun _ => ?_) fun _ => ?_
  · refine hany.and_then fun s => hany.and_then fun _ => hany.and_then fun _ => ?_
    refine Sat.bind (R := fun _ _ => ClockReady) ?_ fun _ => Sat.modify fun _ _ hs => hs
    exact (clockReady_lost c env).pre fun _ _ _ => .inr ⟨hon, h.notFlashing⟩
  · refine hany.and_then fun _ => Sat.bind (R := fun _ _ s => s.attachLostSince = 0)
      (Sat.modify fun _ _ _ => rfl) fun _ => ?_
    exact (stopped_ends c env).checkPath (stopped_beside c env) up device traffic

theorem clockReady (h : Evaluated s₀ env) (hon : c.attachLostCfun ≠ 0) :
    ClockReady (s₀.step c env) := by
  have hevaluate : Sat env (fun _ s => s.path = s₀.path) (evaluate c) fun _ _ => ClockReady := by
    refine Sat.look (φ := fun wwan : Bool × Text => wwan.1 = false ∨ wwan.2 = [] ∨
      ∀ j, (env j).rxBytes wwan.2 = none ∨
        (wwan.2 = s₀.lastDevice ∧ (env j).rxBytes wwan.2 = s₀.lastRx)) h.flat (fun _ _ hs => hs)
      fun wwan hflat => Sat.ite (fun hup => ?_) fun _ => ?_
    · have hdev := (hflat.resolve_left (by simp_all)).resolve_left (by rintro hnil; simp [hnil] at hup)
      refine Sat.bind (trafficAdvancing hdev) fun t => Sat.ite (fun _ => ?_) fun hne i s hs => ?_
      · exact (h.suspect hon _ _ _).pre fun _ _ _ => trivial
      · exact absurd hs hne
    · exact (h.suspect hon _ _ _).pre fun _ _ _ => trivial
  have hjudge : Sat env (fun _ s => s.path = s₀.path) (judge c) fun _ _ => ClockReady := by
    refine Sat.look (φ := fun now => s₀.blockedUntil ≤ now) h.unblocked (fun _ _ hs => hs)
      fun now hnow => Sat.get_bind fun s₁ => ?_
    refine Sat.assume (φ := s₁.path = s₀.path) (fun i s hs => hs.2 ▸ hs.1) fun hs₁ => ?_
    refine Sat.ite (fun hlt => ?_) fun _ => Sat.ite (fun hpending => ?_) fun _ => ?_
    · have hblocked : s₁.blockedUntil = s₀.blockedUntil := congrArg Path.blockedUntil hs₁
      exact absurd hlt (Nat.not_lt.mpr (hblocked ▸ hnow))
    · have hsame : s₁.redialPending = s₀.redialPending := congrArg Path.redialPending hs₁
      rw [hsame, h.settled] at hpending
      cases hpending
    · exact hevaluate.pre fun _ _ hs => hs.1
  have htick : Sat env (fun _ s => s.path = s₀.path ∧ s.simWasLocked = false) (tick c)
      fun _ _ => ClockReady := by
    refine Sat.look (φ := (· = false)) h.notFlashing (fun _ _ hs => hs) fun b hb => ?_
    subst hb
    refine Sat.bind h.simChecks fun _ => h.enabled.and_then fun _ => Sat.ite (fun _ => hjudge) ?_
    exact fun _ => Sat.modify fun _ _ _ => .inl rfl
  exact htick 0 s₀ ⟨rfl, h.noRelock.unlocked⟩

end Evaluated

theorem clockReady_step (hoff : c.attachLostCfun = 0 → s₀.attachLostSince = 0)
    (hseen : SimSeen s₀ env) (h : ClockReady s₀) : ClockReady (s₀.step c env) := by
  by_cases hstopped : s₀.attachLostSince = 0
  · exact clockReady_of_stopped hstopped
  rcases hseen hstopped with hready | heval
  · exact clockReady_of_ready hready (h.resolve_left hstopped)
  · exact heval.clockReady fun hzero => hstopped (hoff hzero)

end

/-! ## Runs -/

/-- A power cycle that `attach_lost_watch` started. -/
structure Cycle where
  /-- The time `do_cfun_cycle` read. -/
  time : Nat
  since : Nat
  wait : Nat
  goods : Nat
  readings : List Text
  deriving DecidableEq

/-- A state with what `attach_lost_watch` did so far. -/
structure History where
  state : State
  readings : List Text
  cycles : List Cycle

def History.step (c : Config) (h : History) (env : Nat → World) : History :=
  let s := h.state
  let s' := s.step c env
  let readings := h.readings ++ [s'.cpin]
  if s.attachLostCycles < s'.attachLostCycles then
    { state := s'
      readings := [s'.cpin]
      cycles := h.cycles ++
        [⟨s'.lastCfun, s.attachLostSince, s.attachLostWait, s.confirmedGood, readings⟩] }
  else
    { state := s'
      readings := if s'.attachLostSince = 0 then [] else readings
      cycles := h.cycles }

def watched (c : Config) : Machine History (Nat → World) := ⟨History.step c⟩

def History.start (c : Config) : History := ⟨initial c, [], []⟩

/-- The next cycle: the wait and the cooldown lie between, and the wait has not become shorter
unless a confirmed-good tick has reset it. -/
def Cycle.Follows (c : Config) (f g : Cycle) : Prop :=
  f.time + g.wait ≤ g.time ∧ f.time + c.cfunCooldown ≤ g.time ∧
    (f.goods = g.goods → f.wait ≤ g.wait)

/-- The wait was over, it was not longer than the limit and the SIM was ready throughout. -/
structure Cycle.Due (f : Cycle) : Prop where
  waited : f.since + f.wait ≤ f.time
  capped : f.wait ≤ attachLostCfunMax
  ready : ∀ r ∈ f.readings, cpinReady r = true

structure Cycle.Behind (f : Cycle) (s : State) : Prop where
  cfun : f.time ≤ s.lastCfun
  since : s.attachLostSince ≠ 0 → f.time ≤ s.attachLostSince
  clock : f.time ≤ s.clock
  goods : f.goods ≤ s.confirmedGood
  wait : f.goods = s.confirmedGood → f.wait ≤ s.attachLostWait

structure History.Kept (c : Config) (h : History) : Prop where
  spaced : h.cycles.IsChain (Cycle.Follows c)
  due : ∀ f ∈ h.cycles, f.Due
  last : ∀ f ∈ h.cycles.getLast?, f.Behind h.state
  capped : h.state.attachLostWait ≤ attachLostCfunMax
  off : c.attachLostCfun = 0 → h.state.attachLostSince = 0
  ready : ClockReady h.state
  readings : ∀ r ∈ h.readings, cpinReady r = true

theorem clock_le_step (c : Config) {s : State} {env : Nat → World} (h : ClockMonotone s env) :
    s.clock ≤ (s.step c env).clock := Nat.le_trans h.2 (h.1 0 _ (Nat.zero_le _))

namespace History
variable {c : Config} {h : History} {env : Nat → World}

theorem Kept.still (hk : Kept c h) (hmax : c.attachLostCfun ≤ attachLostCfunMax)
    (hclock : ClockMonotone h.state env) (hready : ClockReady (h.state.step c env))
    (hs : Still c h.state (h.state.step c env)) : Kept c (h.step c env) := by
  have hquiet : ¬h.state.attachLostCycles < (h.state.step c env).attachLostCycles := by
    rcases hs.wait with ⟨-, hsame, -⟩ | ⟨-, hzero, -⟩
    · exact hsame ▸ Nat.lt_irrefl _
    · exact hzero ▸ Nat.not_lt_zero _
  have hle := clock_le_step c hclock
  unfold History.step
  dsimp only
  rw [if_neg hquiet]
  refine ⟨hk.spaced, hk.due, fun f hf => ?_, ?_, fun hoff => ?_, hready, fun r hr => ?_⟩
  · have hb := hk.last f hf
    refine ⟨Nat.le_trans hb.cfun hs.cfun, fun hne => ?_, Nat.le_trans hb.clock hle, ?_, ?_⟩
    · rcases hs.since with hsame | hzero | ⟨-, hnew⟩
      · exact hsame ▸ hb.since (hsame ▸ hne)
      · exact absurd hzero hne
      · exact Nat.le_trans hb.clock hnew
    · rcases hs.wait with ⟨-, -, hsame⟩ | ⟨-, -, hmore⟩
      · exact hsame ▸ hb.goods
      · exact Nat.le_trans hb.goods (Nat.le_of_lt hmore)
    · intro hgoods
      rcases hs.wait with ⟨hwait, -, hsame⟩ | ⟨-, -, hmore⟩
      · exact hwait ▸ hb.wait (hgoods.trans hsame)
      · exact absurd hgoods (Nat.ne_of_lt (Nat.lt_of_le_of_lt hb.goods hmore))
  · rcases hs.wait with ⟨hwait, -⟩ | ⟨hwait, -⟩
    · exact hwait ▸ hk.capped
    · exact hwait ▸ hmax
  · rcases hs.since with hsame | hzero | ⟨hon, -⟩
    · exact hsame.trans (hk.off hoff)
    · exact hzero
    · exact absurd hoff hon
  · by_cases hzero : (h.state.step c env).attachLostSince = 0
    · rw [if_pos hzero] at hr
      cases hr
    · rw [if_neg hzero] at hr
      rcases List.mem_append.mp hr with hr | hr
      · exact hk.readings r hr
      · exact List.mem_singleton.mp hr ▸ hready.resolve_left hzero

theorem Kept.fired (hk : Kept c h) (hready : ClockReady (h.state.step c env))
    (hf : Fired c h.state (h.state.step c env).clock (h.state.step c env)) :
    Kept c (h.step c env) := by
  have hcount : h.state.attachLostCycles < (h.state.step c env).attachLostCycles :=
    hf.cycles ▸ Nat.lt_succ_self _
  have hrunning : (h.state.step c env).attachLostSince ≠ 0 := by
    have := hf.running
    have := hf.waited
    have := hf.restarted
    omega
  have hcpin := hready.resolve_left hrunning
  have hreadings : ∀ r ∈ h.readings ++ [(h.state.step c env).cpin], cpinReady r = true :=
    List.forall_mem_append.mpr ⟨hk.readings, List.forall_mem_singleton.mpr hcpin⟩
  unfold History.step
  dsimp only
  rw [if_pos hcount]
  refine ⟨List.isChain_append.mpr ⟨hk.spaced, List.isChain_singleton _, fun f hlast g hg => ?_⟩,
    List.forall_mem_append.mpr ⟨hk.due, List.forall_mem_singleton.mpr
      ⟨hf.waited, hk.capped, hreadings⟩⟩, fun f hlast => ?_, ?_, fun hoff => absurd hoff hf.on,
    hready, List.forall_mem_singleton.mpr hcpin⟩
  · obtain rfl := Option.some.inj hg
    have hb := hk.last f hlast
    refine ⟨?_, Nat.le_trans (Nat.add_le_add_right hb.cfun _) hf.cooled, hb.wait⟩
    exact Nat.le_trans (Nat.add_le_add_right (hb.since hf.running) _) hf.waited
  · rw [List.getLast?_append] at hlast
    obtain rfl := Option.some.inj hlast
    refine ⟨Nat.le_refl _, fun _ => hf.restarted, Nat.le_trans hf.restarted hf.past,
      Nat.le_of_eq hf.goods.symm, fun _ => ?_⟩
    have hcapped := hk.capped
    change h.state.attachLostWait ≤ (h.state.step c env).attachLostWait
    rw [hf.wait]
    omega
  · rw [hf.wait]
    exact Nat.min_le_right _ _

theorem Kept.step (hk : Kept c h) (hmax : c.attachLostCfun ≤ attachLostCfunMax)
    (hclock : ClockMonotone h.state env) (hseen : SimSeen h.state env) : Kept c (h.step c env) := by
  have hready := clockReady_step hk.off hseen hk.ready
  rcases outcome_step c h.state env hclock with hs | hf
  · exact hk.still hmax hclock hready hs
  · exact hk.fired hready hf

end History

def detached (now : Nat) : World :=
  { deadModem with
    clock := now
    uptime := now
    reply := fun
      | .at => "OK"
      | .cpin => "+CPIN: READY"
      | .cgatt => "+CGATT: 0"
      | .cfun => "+CFUN: 1"
      | _ => []
    qmiNode := true }

end GlXe3000.Cellular.Watchdog
