import GlXe3000.Cellular.Watchdog.Loop

/-! # What a tick can do to the limiters and the log

The script has forty variables and a long cascade of branches, but few of its steps matter to a
limit on how often something happens. `Audit` lists these steps; an invariant that is closed under
them is kept by every tick (`Audit.tick`), in whatever order the branches run them. `Plain` is the
part of the list that the checks between the rungs need. -/

namespace GlXe3000.Cellular.Watchdog
open Observer

structure Limits where
  redialCount : Nat
  windowStart : Nat
  resetCount : Nat
  resetWindowStart : Nat
  lastHardReset : Nat
  deriving DecidableEq

def State.limits (s : State) : Limits :=
  ⟨s.redialCount, s.windowStart, s.resetCount, s.resetWindowStart, s.lastHardReset⟩

structure Core where
  atDead : Nat
  qmiMissing : Nat
  deadPlaneTicks : Nat
  consecBad : Nat
  graceUntil : Nat
  attachLostSince : Nat
  redialPending : Bool
  simWasLocked : Bool
  relockHandled : Bool
  deriving DecidableEq

def State.core (s : State) : Core :=
  { atDead := s.atDead, qmiMissing := s.qmiMissing, deadPlaneTicks := s.deadPlaneTicks,
    consecBad := s.consecBad, graceUntil := s.graceUntil, attachLostSince := s.attachLostSince,
    redialPending := s.redialPending, simWasLocked := s.simWasLocked,
    relockHandled := s.relockHandled }

def Entry.isNote : Entry → Bool
  | .start .. | .backOff | .resetDone | .standDown | .good | .setCfun _ => false
  | _ => true

/-- Closed under what the checks between the rungs do: looks at the world, notes in the log, and
changes of variables that are neither a limiter's nor tested before a rung. -/
structure Plain (I : Nat → State → Prop) : Prop where
  look : ∀ i s, I i s → I (i + 1) s
  frame : ∀ i s s', s'.limits = s.limits → s'.core = s.core → s'.log = s.log → I i s → I i s'
  note : ∀ i s e, e.isNote = true → I i s → I i { s with log := s.log ++ [e] }

structure Loose (I : Nat → State → Prop) : Prop where
  look : ∀ i s, I i s → I (i + 1) s
  frame : ∀ i s s', s'.limits = s.limits → s'.log = s.log → I i s → I i s'
  note : ∀ i s e, e.isNote = true → I i s → I i { s with log := s.log ++ [e] }

theorem keeps_administrativelyEnabled {I : Nat → State → Prop} {env : Nat → World}
    (look : ∀ i s, I i s → I (i + 1) s)
    (note : ∀ i s, I i s → I i { s with log := s.log ++ [.clearScan] }) :
    Keeps env I administrativelyEnabled := by
  refine .bind (.observe look) fun net => .ite (.pure _) (.bind (.observe look) fun state => ?_)
  refine .ite (.pure _) (.ite (.pure _) (.bind (.observe look) fun started => ?_))
  refine .bind (.observe look) fun now => .ite (.pure _) (.bind (.modify note) fun _ => .pure _)

theorem keeps_reachable {I : Nat → State → Prop} {env : Nat → World}
    (look : ∀ i s, I i s → I (i + 1) s) (dev : Text) : Keeps env I (reachable dev) := by
  have hping : Keeps env I (pingConfirms dev) :=
    .bind (.observe look) fun dns => .anyOf (fun _ => .observe look) _
  have hhttps : Keeps env I (httpsConfirms dev) :=
    .bind (.observe look) fun curl => .ite (.anyOf (fun _ => .observe look) _) (.pure _)
  exact .bind hping fun _ => .ite (.pure _) hhttps

namespace Plain
variable {I : Nat → State → Prop} {env : Nat → World}

theorem observe (hI : Plain I) {α : Type} (f : World → α) :
    Keeps env I (Watchdog.observe f : Prog α) := Keeps.observe hI.look

theorem modify (hI : Plain I) {f : State → State}
    (hf : ∀ s, ((f s).limits, (f s).core, (f s).log) = (s.limits, s.core, s.log)) :
    Keeps env I (Watchdog.modify f : Prog Unit) := by
  refine Keeps.modify fun i s hs => ?_
  obtain ⟨hl, hrest⟩ := Prod.mk.inj (hf s)
  obtain ⟨hc, hlog⟩ := Prod.mk.inj hrest
  exact hI.frame i s (f s) hl hc hlog hs

theorem set (hI : Plain I) {f : State → State}
    (hf : ∀ s, ((f s).limits, (f s).core, (f s).log) = (s.limits, s.core, s.log)) (hm : Keeps env I m) :
    Keeps env I (do Watchdog.modify f; m) :=
  .bind (hI.modify hf) fun _ => hm

theorem act (hI : Plain I) {e : Entry} (he : e.isNote = true) : Keeps env I (Watchdog.act e) :=
  Keeps.modify fun i s => hI.note i s e he

theorem query (hI : Plain I) (cmd : AtCommand) : Keeps env I (Watchdog.query cmd) := hI.observe _

theorem administrativelyEnabled (hI : Plain I) : Keeps env I administrativelyEnabled :=
  keeps_administrativelyEnabled hI.look fun i s => hI.note i s _ rfl

theorem cpinQuery (hI : Plain I) : Keeps env I cpinQuery :=
  .bind (hI.query _) fun _ => (hI.modify fun _ => rfl)

theorem cpinRefresh (hI : Plain I) : Keeps env I cpinRefresh :=
  .bind .get fun _ => .ite (.pure _) hI.cpinQuery

theorem enabled (hI : Plain I) : Keeps env I enabled := by
  refine .bind hI.administrativelyEnabled fun b => .ite ?_ (.pure _)
  refine .bind hI.cpinRefresh fun _ => .bind (hI.observe _) fun pending => ?_
  exact .bind .get fun s => .ite (.pure _) (.pure _)

theorem modemAttached (hI : Plain I) : Keeps env I modemAttached :=
  .bind (hI.query _) fun _ => .pure _

theorem atAlive (hI : Plain I) : Keeps env I atAlive :=
  .bind (hI.query _) fun _ => .ite (.pure _) (.bind (hI.query _) fun _ => .pure _)

theorem cfunState (hI : Plain I) : Keeps env I cfunState :=
  .bind (hI.query _) fun _ => .pure _

theorem cfunIsFull (hI : Plain I) : Keeps env I cfunIsFull :=
  .bind hI.cfunState fun _ => .pure _

theorem trafficAdvancing (hI : Plain I) (dev : Text) : Keeps env I (trafficAdvancing dev) := by
  refine .bind (hI.observe _) fun rx => .bind .get fun s => ?_
  cases rx with
  | none => exact .pure _
  | some now =>
    refine .ite (hI.set (fun _ => rfl) (.pure _))
      (hI.set (fun _ => rfl) ?_)
    exact .ite (hI.set (fun _ => rfl) (.pure _)) (.pure _)

theorem reachable (hI : Plain I) (dev : Text) : Keeps env I (reachable dev) :=
  keeps_reachable hI.look dev

theorem checkSimSwap (hI : Plain I) : Keeps env I checkSimSwap := by
  refine .bind (hI.query _) fun r => .ite (.pure _) (.bind (hI.observe _) fun last => ?_)
  exact .ite (.pure _) (.bind (.onlyIf (hI.act rfl)) fun _ => hI.act rfl)

theorem acquire (hI : Plain I) (n : Nat) : Keeps env I (acquire n) := by
  induction n with
  | zero => exact .pure _
  | succ n ih => exact .bind (hI.observe _) fun _ => .ite (.pure _) ih

theorem waitAttached (hI : Plain I) (n : Nat) : Keeps env I (waitAttached n) := by
  induction n with
  | zero => exact .pure _
  | succ n ih => exact .bind hI.modemAttached fun _ => .ite (.pure _) ih

theorem redialSession (hI : Plain I) : Keeps env I redialSession := by
  refine .bind (hI.acquire 10) fun _ => .ite ?_ (.pure _)
  refine .bind (hI.act rfl) fun _ => .bind (hI.waitAttached 20) fun _ => .bind .get fun outer => ?_
  refine hI.set (fun _ => rfl) ?_
  refine .bind hI.enabled fun _ => .bind (.onlyIf (hI.act rfl)) fun _ => ?_
  exact hI.set (fun _ => rfl) (.pure _)

theorem lteFallbackEnter (hI : Plain I) (c : Config) : Keeps env I (lteFallbackEnter c) := by
  refine .ite (.pure _) (hI.set (fun _ => rfl) ?_)
  refine .bind .get fun s => .ite (.pure _) (.bind (hI.observe _) fun _ => .ite (.pure _) ?_)
  refine .bind (hI.act rfl) fun _ => .bind (hI.observe _) fun _ => .ite ?_ (.pure _)
  refine .bind (hI.observe _) fun now => ?_
  exact hI.set (fun _ => rfl) (.pure _)

theorem lteFallbackRelease (hI : Plain I) (c : Config) : Keeps env I (lteFallbackRelease c) := by
  refine .bind .get fun s => .ite (.pure _) (.bind (hI.observe _) fun _ => .ite ?_ ?_)
  · refine .bind (hI.observe _) fun now => .ite (.pure _) (.bind (hI.act rfl) fun _ => ?_)
    exact hI.modify fun _ => rfl
  · exact hI.modify fun _ => rfl

theorem detachNote (hI : Plain I) : Keeps env I detachNote :=
  .bind (hI.observe _) fun _ => (hI.modify fun _ => rfl)

theorem attachReturned (hI : Plain I) : Keeps env I attachReturned :=
  .bind .get fun _ => .ite (.bind (hI.observe _) fun _ =>
    (hI.modify fun _ => rfl)) (.pure _)

theorem reaskCpin (hI : Plain I) (n : Nat) : Keeps env I (reaskCpin n) := by
  induction n with
  | zero => exact .pure _
  | succ n ih => exact .bind .get fun _ => .ite (.bind hI.cpinQuery fun _ => ih) (.pure _)

theorem leftToGate (hI : Plain I) : Keeps env I leftToGate :=
  .bind .get fun _ => .ite (.pure _) (.ite (.pure _) (.bind (hI.observe _) fun _ => .pure _))

end Plain

namespace Loose
variable {c : Config} {I : Nat → State → Prop} {env : Nat → World}

theorem plain (hI : Loose I) : Plain I :=
  ⟨hI.look, fun i s s' hl _ hlog => hI.frame i s s' hl hlog, hI.note⟩

theorem modify (hI : Loose I) {f : State → State}
    (hf : ∀ s, ((f s).limits, (f s).log) = (s.limits, s.log)) :
    Keeps env I (Watchdog.modify f : Prog Unit) := by
  refine Keeps.modify fun i s hs => ?_
  obtain ⟨hl, hlog⟩ := Prod.mk.inj (hf s)
  exact hI.frame i s (f s) hl hlog hs

theorem set (hI : Loose I) {f : State → State}
    (hf : ∀ s, ((f s).limits, (f s).log) = (s.limits, s.log)) (hm : Keeps env I m) :
    Keeps env I (do Watchdog.modify f; m) :=
  .bind (hI.modify hf) fun _ => hm

/-! The checks in front of a tick keep what a reconnect after a re-lock keeps. -/

theorem simLockWatch (hI : Loose I) (hrel : Keeps env I (relockReconnect c)) :
    Keeps env I (simLockWatch c) := by
  have hreconnect : Keeps env I (do let _ ← relockReconnect c; pure () : Prog Unit) :=
    .bind hrel fun _ => .pure _
  have hrelocked : Keeps env I (relocked c) := by
    refine hI.set (fun _ => rfl) ?_
    refine .bind hI.plain.leftToGate fun _ => .ite (.pure _) ?_
    refine hI.set (fun _ => rfl) ?_
    refine .bind (hI.plain.observe _) fun pin => .ite (.pure _) ?_
    refine .bind (hI.plain.observe _) fun failed => .ite (.pure _) ?_
    refine .bind (hI.plain.observe _) fun now => .bind .get fun s => .ite (.pure _) ?_
    refine .bind (hI.plain.act rfl) fun _ => .bind (hI.plain.observe _) fun _ => .ite ?_ ?_
    · refine hI.set (fun _ => rfl) ?_
      refine .bind hI.plain.administrativelyEnabled fun _ => .ite ?_ (.pure _)
      exact .bind (hI.modify fun _ => rfl) fun _ => hreconnect
    · exact hI.modify fun _ => rfl
  refine .bind hI.plain.administrativelyEnabled fun _ => .ite ?_ ?_
  · refine .bind hI.plain.cpinRefresh fun _ => .bind (hI.plain.reaskCpin 3) fun _ => ?_
    refine .bind .get fun s => .ite hrelocked (.ite ?_ (.pure _))
    refine .bind (hI.modify fun _ => rfl) fun _ => .ite ?_ (.pure _)
    exact .bind (hI.modify fun _ => rfl) fun _ => hreconnect
  · exact hI.modify fun _ => rfl

theorem simReinitWatch (hI : Loose I) (hrel : Keeps env I (relockReconnect c)) :
    Keeps env I (simReinitWatch c) := by
  refine .bind (hI.plain.observe _) fun marker => .ite (.pure _) ?_
  refine .bind hI.plain.administrativelyEnabled fun _ => .ite ?_ (.pure _)
  refine .bind hI.plain.cpinQuery fun _ => .bind .get fun s => ?_
  refine .ite (.pure _) (.ite (.pure _) (.ite (.pure _) (.bind (hI.plain.observe _) fun up => ?_)))
  refine .ite (.pure _) (hI.set (fun _ => rfl) ?_)
  exact .bind hrel fun _ => .pure _

theorem simChecks (hI : Loose I) (hrel : Keeps env I (relockReconnect c)) :
    Keeps env I (simChecks c) := by
  refine .bind (hI.plain.observe _) fun up => hI.set (fun _ => rfl) ?_
  refine .bind (hI.plain.observe _) fun lost => .bind (.onlyIf ?_) fun _ => .bind .get fun s => ?_
  · exact hI.modify fun _ => rfl
  refine .bind (.onlyIf (hI.set (fun _ => rfl) ?_)) fun _ => ?_
  · exact hI.simLockWatch hrel
  · exact .bind (hI.modify fun _ => rfl) fun _ => hI.simReinitWatch hrel

end Loose

/-! ## Every step of a tick -/

/-- Closed under everything a tick does in the world `env`. -/
structure Audit (c : Config) (env : Nat → World) (I : Nat → State → Prop) : Prop
    extends Loose I where
  setCfun : ∀ i s n, I i s → I i { s with log := s.log ++ [.setCfun n] }
  rung : ∀ i s r, (∀ now, r ≠ .redial now ∧ r ≠ .hardReset now) → I i s →
    I i { s with log := s.log ++ [.start r false] }
  redial : ∀ i s nested, I i s →
    let s' := countRedial c (env i).clock s
    I (i + 1) { s' with
      log := s'.log ++ [if c.triggerMax < s'.redialCount then .backOff
        else .start (.redial (env i).clock) nested] }
  reset : ∀ i s nested, I i s →
    let s' := rollResetWindow c (env i).clock s
    I (i + 1) (if resetRefused c (env i).clock s' then s'
      else { countReset (env i).clock s' with
        log := s'.log ++ [.start (.hardReset (env i).clock) nested] })
  resetDone : ∀ i s, I i s →
    I i { s with redialCount := 0, windowStart := 0, log := s.log ++ [.resetDone] }
  standDown : ∀ i s, I i s →
    I i { s with redialCount := 0, windowStart := 0, log := s.log ++ [.standDown] }
  good : ∀ i s, I i s → I i { s with resetCount := 0, log := s.log ++ [.good] }

theorem countRedial_log (c : Config) (now : Nat) (s : State) :
    (countRedial c now s).log = s.log := by
  unfold countRedial
  split_ifs <;> rfl

theorem rollResetWindow_log (c : Config) (now : Nat) (s : State) :
    (rollResetWindow c now s).log = s.log := by
  unfold rollResetWindow
  split_ifs <;> rfl

namespace Audit
variable {c : Config} {env : Nat → World} {I : Nat → State → Prop}

theorem plain (hI : Audit c env I) : Plain I := hI.toLoose.plain

theorem date :
    Sat env I Watchdog.date fun now j s => ∃ i, j = i + 1 ∧ now = (env i).clock ∧ I i s :=
  fun i _ hs => ⟨i, rfl, rfl, hs⟩

theorem doRedial (hI : Audit c env I) (nested : Bool) : Keeps env I (doRedial c nested) := by
  refine Sat.bind date fun now => Sat.bind
    (R := fun _ j s => I j { s with
      log := s.log ++ [if c.triggerMax < s.redialCount then .backOff
        else .start (.redial now) nested] }) ?_ fun _ => ?_
  · rintro _ s ⟨i, rfl, rfl, hs⟩
    exact hI.redial i s nested hs
  refine Sat.get_bind fun s₀ => Sat.ite (fun hmax => ?_) (fun hmax => ?_)
  · refine Sat.bind (R := fun _ => I) ?_ fun _ => ?_
    · rintro j s ⟨hs, rfl⟩
      rw [if_pos hmax] at hs
      exact hs
    · exact hI.set (fun _ => rfl) (.pure _)
  · refine Sat.bind (R := fun _ => I) ?_ fun _ => ?_
    · rintro j s ⟨hs, rfl⟩
      rw [if_neg hmax] at hs
      exact hs
    · refine Keeps.bind hI.plain.checkSimSwap fun _ => .bind hI.plain.redialSession fun _ => ?_
      exact .ite (hI.set (fun _ => rfl) (.pure _)) (.pure _)

theorem modemHardReset (hI : Audit c env I) (nested : Bool) :
    Keeps env I (modemHardReset c nested) := by
  refine Keeps.bind hI.plain.administrativelyEnabled fun _ => .ite ?_ (.pure _)
  refine Sat.bind date fun now => Sat.bind
    (R := fun _ j s => I j (if resetRefused c now s then s
      else { countReset now s with log := s.log ++ [.start (.hardReset now) nested] }))
    ?_ fun _ => ?_
  · rintro _ s ⟨i, rfl, rfl, hs⟩
    exact hI.reset i s nested hs
  refine Sat.get_bind fun s₀ => Sat.ite (fun href => ?_) (fun href => ?_)
  · refine Sat.bind (R := fun _ => I) ?_ fun _ => ?_
    · rintro j s ⟨hs, rfl⟩
      rw [if_pos href] at hs
      exact hI.frame j s _ rfl rfl hs
    · exact Keeps.bind (.onlyIf (hI.plain.act rfl)) fun _ => .pure _
  · refine Sat.bind
      (R := fun _ j s => I j { s with log := s.log ++ [.start (.hardReset now) nested] })
      ?_ fun _ => Sat.bind (R := fun _ => I) (fun _ _ hs => hs) fun _ => ?_
    · rintro j s ⟨hs, rfl⟩
      rw [if_neg href] at hs
      exact hs
    · refine Keeps.bind (hI.plain.observe _) fun _ => .ite ?_ (.pure _)
      refine .bind (hI.plain.observe _) fun up => .bind (hI.plain.observe _) fun now => ?_
      refine .bind (.modify fun j s hs => ?_) fun _ => .pure _
      refine hI.frame j _ _ ?_ ?_ (hI.resetDone j s hs) <;> rfl

theorem radioOn (hI : Audit c env I) (n : Nat) : Keeps env I (radioOn n) := by
  induction n with
  | zero => exact .pure _
  | succ n ih =>
    refine .bind hI.plain.cfunIsFull fun _ => .ite (.pure _) (.bind ?_ fun _ => ih)
    exact .modify fun j s => hI.setCfun j s 1

theorem doCfunCycle (hI : Audit c env I) : Keeps env I (doCfunCycle c) := by
  refine .bind (hI.plain.observe _) fun now => .bind .get fun s => .ite (.pure _) ?_
  refine hI.set (fun _ => rfl) ?_
  refine .bind (.modify fun j s => hI.rung j s _ (fun _ => ⟨by simp, by simp⟩)) fun _ => ?_
  refine .bind (.modify fun j s => hI.setCfun j s 4) fun _ => .bind (hI.radioOn 5) fun _ => ?_
  refine .bind hI.plain.cfunIsFull fun _ => .ite ?_ ?_
  · refine hI.set (fun _ => rfl) ?_
    exact .bind (hI.doRedial true) fun _ => .pure _
  · exact .bind (hI.modemHardReset true) fun _ => .pure _

theorem mhiPathReset (hI : Audit c env I) : Keeps env I (mhiPathReset c) := by
  have hgrace : ∀ now, Keeps env I (Watchdog.modify (graceAfter c now) : Prog Unit) := fun now =>
    hI.modify fun _ => rfl
  refine .bind (hI.plain.observe _) fun now => .bind (hI.modify ?_) fun _ => ?_
  · intro s; split <;> rfl
  refine .bind .get fun s => .ite (.pure _) ?_
  refine hI.set (fun _ => rfl) ?_
  refine .bind (.modify fun j s => hI.rung j s _ (fun _ => ⟨by simp, by simp⟩)) fun _ => ?_
  refine .bind (hI.plain.observe _) fun _ => .ite ?_ ?_
  · refine hI.set (fun _ => rfl) ?_
    exact .bind (hI.plain.observe _) fun now => .bind (hgrace now) fun _ => .pure _
  · exact .bind (hI.plain.observe _) fun now => .bind (hgrace now) fun _ => .pure _

theorem redialRung (hI : Audit c env I) : Keeps env I (redialRung c) :=
  .bind (hI.doRedial false) fun _ => .ite (hI.modify fun _ => rfl) (.pure _)

theorem escalate (hI : Audit c env I) : Keeps env I (escalate c) := by
  have hclimb : Keeps env I (climb c) := by
    refine .bind .get fun s => .ite (.bind (hI.modemHardReset false) fun _ => .pure _) ?_
    exact .bind hI.doCfunCycle fun _ => .ite (hI.modify fun _ => rfl) hI.redialRung
  refine .bind .get fun s => .ite hI.redialRung ?_
  refine .bind (hI.plain.lteFallbackEnter c) fun _ => .ite hI.redialRung ?_
  exact .bind hI.mhiPathReset fun _ => .ite hclimb (.pure _)

theorem deadPlaneRecover (hI : Audit c env I) : Keeps env I (deadPlaneRecover c) := by
  refine .bind (hI.plain.observe _) fun now => .bind .get fun s => .ite ?_ (hI.modemHardReset false)
  exact .bind (hI.modify fun _ => rfl) fun _ =>
    .bind hI.doCfunCycle fun _ => .pure _

theorem attachLostWatch (hI : Audit c env I) : Keeps env I (attachLostWatch c) := by
  refine .ite (.pure _) (.bind (hI.plain.observe _) fun _ => .ite (.pure _) ?_)
  refine .bind .get fun s => ?_
  refine .ite (hI.modify fun _ => rfl) (.bind (hI.plain.observe _) fun now => ?_)
  refine .ite (hI.modify fun _ => rfl) (.ite (.pure _) (.ite (.pure _) ?_))
  refine .bind hI.plain.cfunIsFull fun _ => .ite ?_ (.pure _)
  refine .bind (hI.modify fun _ => rfl) fun _ => .bind hI.doCfunCycle fun _ => ?_
  exact .bind (hI.plain.observe _) fun now => (hI.modify fun _ => rfl)

theorem relockWait (hI : Audit c env I) (start n : Nat) : Keeps env I (relockWait c start n) := by
  induction n with
  | zero => exact .pure _
  | succ n ih =>
    refine .bind (hI.plain.observe _) fun up => .ite (.pure _) ?_
    refine .bind hI.plain.administrativelyEnabled fun _ => .ite ?_ (.pure _)
    refine .bind hI.plain.cpinQuery fun _ => .bind .get fun s => .ite (.pure _) ?_
    refine .bind (hI.plain.observe _) fun wwan => .ite ?_ ?_
    · exact .bind (hI.plain.reachable _) fun _ => .ite (.pure _) ih
    · refine .bind (hI.plain.observe _) fun up => .ite ih (.bind hI.plain.modemAttached fun _ => ?_)
      refine .ite ih (.bind (hI.plain.observe _) fun _ => .ite ?_ ih)
      exact .bind (hI.modemHardReset true) fun _ => .pure _

theorem relockReconnect (hI : Audit c env I) : Keeps env I (relockReconnect c) := by
  refine .bind hI.plain.administrativelyEnabled fun _ => .ite ?_ (.pure _)
  refine .bind hI.plain.cpinQuery fun _ => .bind .get fun s => .ite (.pure _) ?_
  refine .bind (.modify fun j s => hI.rung j s _ (fun _ => ⟨by simp, by simp⟩)) fun _ => ?_
  refine .bind (hI.plain.observe _) fun _ => .ite ?_ (.pure _)
  refine hI.set (fun _ => rfl) ?_
  refine .bind (hI.plain.observe _) fun start => .bind (hI.relockWait start 18) fun r => ?_
  cases r with
  | some r => exact .pure _
  | none =>
    exact .bind hI.plain.administrativelyEnabled fun _ => .ite (hI.modemHardReset true) (.pure _)

theorem goodTick (hI : Audit c env I) (traffic : Traffic) : Keeps env I (goodTick c traffic) := by
  refine hI.set (fun _ => rfl) ?_
  refine .bind hI.plain.attachReturned fun _ => ?_
  refine .bind (.onlyIf (.modify fun j s hs => ?_)) fun _ => ?_
  · refine hI.frame j _ _ ?_ ?_ (hI.good j s hs) <;> rfl
  · exact .bind (hI.plain.lteFallbackRelease c) fun _ => (hI.modify fun _ => rfl)

theorem badTick (hI : Audit c env I) : Keeps env I (badTick c) :=
  .bind (hI.modify fun _ => rfl) fun _ =>
    .bind .get fun _ => .ite (.pure _) hI.escalate

theorem silentPort (hI : Audit c env I) : Keeps env I (silentPort c) := by
  refine .bind hI.plain.atAlive fun _ => .ite ?_ ?_
  · exact hI.set (fun _ => rfl) (.pure _)
  · refine .bind (hI.modify fun _ => rfl) fun _ => .bind .get fun _ => ?_
    exact .ite (.pure _) (hI.modemHardReset false)

theorem missingNode (hI : Audit c env I) : Keeps env I (missingNode c) := by
  refine .bind (hI.plain.observe _) fun _ => .ite ?_ ?_
  · exact hI.set (fun _ => rfl) (.pure _)
  · refine .bind (hI.modify fun _ => rfl) fun _ => .bind .get fun _ => ?_
    refine .ite (.pure _) (.bind (hI.modemHardReset false) fun _ => .ite ?_ (.pure _))
    exact hI.set (fun _ => rfl) (.pure _)

theorem noAttach (hI : Audit c env I) : Keeps env I (noAttach c) := by
  have hrecheck : Keeps env I (cfunRecheck c) := by
    refine .bind (hI.modify fun _ => rfl) fun _ => .bind .get fun s => ?_
    refine .ite (.pure _) (hI.set (fun _ => rfl) ?_)
    refine .bind (hI.plain.observe _) fun now => .ite (.pure _) ?_
    refine .bind hI.plain.cfunState fun n => .ite ?_ (.pure _)
    refine hI.set (fun _ => rfl) ?_
    exact .modify fun j s => hI.setCfun j s 1
  refine .bind .get fun s => .bind (.onlyIf (.bind hI.plain.detachNote fun _ => ?_)) fun _ => ?_
  · exact hI.modify fun _ => rfl
  · refine .bind hrecheck fun _ => .bind hI.attachLostWatch fun _ => ?_
    exact hI.modify fun _ => rfl

theorem deadPlane (hI : Audit c env I) : Keeps env I (deadPlane c) := by
  refine .ite (.pure _) (.bind (hI.plain.observe _) fun _ => .ite ?_ (.pure _))
  refine .bind (hI.modify fun _ => rfl) fun _ => .bind .get fun _ => ?_
  refine .ite (.pure _) (hI.set (fun _ => rfl) ?_)
  exact hI.deadPlaneRecover

theorem evaluate (hI : Audit c env I) : Keeps env I (evaluate c) := by
  have hattached : ∀ up device traffic, Keeps env I (attached c up device traffic) := by
    intro up device traffic
    refine .bind hI.plain.attachReturned fun _ => ?_
    refine .bind (hI.modify fun _ => rfl) fun _ => .ite ?_ hI.badTick
    refine .bind (hI.plain.reachable _) fun _ => .ite (hI.goodTick _) ?_
    exact .bind hI.deadPlane fun _ => .ite (.pure _) hI.badTick
  have hsuspect : ∀ up device traffic, Keeps env I (suspect c up device traffic) := by
    intro up device traffic
    refine .bind hI.silentPort fun _ => .ite (.pure _) ?_
    refine .bind hI.missingNode fun _ => .ite (.pure _) ?_
    exact .bind hI.plain.modemAttached fun _ => .ite hI.noAttach (hattached _ _ _)
  refine .bind (hI.plain.observe _) fun wwan => .ite ?_ (hsuspect _ _ _)
  exact .bind (hI.plain.trafficAdvancing _) fun _ => .ite (hsuspect _ _ _) (hI.goodTick _)

theorem judge (hI : Audit c env I) : Keeps env I (judge c) := by
  have hpending : ∀ now, Keeps env I (pending c now) := by
    intro now
    refine .bind (hI.plain.observe _) fun _ => .ite ?_ ?_
    · exact .bind (hI.modify fun _ => rfl) fun _ => hI.evaluate
    · refine .bind .get fun s => .ite (.pure _) ?_
      refine hI.set (fun _ => rfl) ?_
      exact .bind hI.plain.modemAttached fun _ => .ite (.pure _) hI.escalate
  refine .bind (hI.plain.observe _) fun now => .bind .get fun s => ?_
  exact .ite (.pure _) (.ite (hpending now) hI.evaluate)

theorem tick (hI : Audit c env I) : Keeps env I (tick c) := by
  refine .bind (hI.plain.observe _) fun _ => .ite (.pure _) ?_
  refine .bind (hI.toLoose.simChecks hI.relockReconnect) fun _ => ?_
  refine .bind hI.plain.enabled fun _ => .ite hI.judge (.modify fun j s hs => ?_)
  refine hI.frame j _ _ ?_ ?_ (hI.standDown j s hs) <;> rfl

theorem of_log (c : Config) (env : Nat → World) {J : List Entry → Prop}
    (hJ : ∀ l e, J l → J (l ++ [e])) : Audit c env fun _ s => J s.log where
  look _ _ h := h
  frame _ _ _ _ hlog h := hlog ▸ h
  note _ _ _ _ h := hJ _ _ h
  setCfun _ _ _ h := hJ _ _ h
  rung _ _ _ _ h := hJ _ _ h
  redial i s nested h := hJ _ _ (by rwa [countRedial_log])
  reset i s nested h := by
    have hroll : J (rollResetWindow c (env i).clock s).log := by rwa [rollResetWindow_log]
    dsimp only
    split_ifs
    · exact hroll
    · exact hJ _ _ hroll
  resetDone _ _ h := hJ _ _ h
  standDown _ _ h := hJ _ _ h
  good _ _ h := hJ _ _ h

end Audit

theorem grows_append (e : Entry) (h : ∃ l', l = l₀ ++ l') : ∃ l', l ++ [e] = l₀ ++ l' := by
  obtain ⟨l', rfl⟩ := h
  exact ⟨l' ++ [e], List.append_assoc ..⟩

theorem log_step (c : Config) (s : State) (env : Nat → World) :
    ∃ l, (s.step c env).log = s.log ++ l :=
  (Audit.of_log c env (J := fun l => ∃ l', l = s.log ++ l') fun _ e => grows_append e).tick 0 s
    ⟨[], by simp⟩

end GlXe3000.Cellular.Watchdog
