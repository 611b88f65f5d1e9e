import GlXe3000.Cellular.Watchdog.Audit

/-! # What a tick does beside `attach_lost_watch`

The attach-lost clock, its wait and its count, the time of the last power cycle and the SIM reply
are the variables `attach_lost_watch` goes by. The rest of the loop does little to them: `Beside`
lists it, and a tick keeps what is closed under that list up to the call of `attach_lost_watch`
(`Ends.tick`). -/

namespace GlXe3000.Cellular.Watchdog
open Observer Text

/-- The variables of `attach_lost_watch`. -/
structure Lost where
  since : Nat
  wait : Nat
  cycles : Nat
  lastCfun : Nat
  cpin : Text

def State.lost (s : State) : Lost :=
  ⟨s.attachLostSince, s.attachLostWait, s.attachLostCycles, s.lastCfun, s.cpin⟩

/-- Closed under looks, entries in the log and changes of other variables. -/
structure Idle (I : Nat → State → Prop) : Prop where
  look : ∀ i s, I i s → I (i + 1) s
  frame : ∀ i s s', s'.lost = s.lost → s'.log = s.log → I i s → I i s'
  note : ∀ i s e, e ≠ .good → I i s → I i { s with log := s.log ++ [e] }

/-- And under `AT+CPIN?`. -/
structure Asks (env : Nat → World) (I : Nat → State → Prop) : Prop extends Idle I where
  query : ∀ i s, I i s → I (i + 1) { s with cpin := (env i).reply .cpin }

/-- And under the rest of what a tick does in the world `env`, a confirmed-good tick apart. -/
structure Beside (c : Config) (env : Nat → World) (I : Nat → State → Prop) : Prop
    extends Asks env I where
  /-- A power cycle, or an `AT+CFUN=1` to a radio that is off, with the time `date` said earlier. -/
  cfun : ∀ i j s, i < j → s.lastCfun + c.cfunCooldown ≤ (env i).clock → I j s →
    I j { s with lastCfun := (env i).clock }
  clear : ∀ i s, I i s → I i { s with attachLostSince := 0 }

def checkPath (c : Config) (up : Bool) (device : Text) (traffic : Traffic) : Prog Unit := do
  if up && !device.isEmpty then
    if ← reachable device then goodTick c traffic
    else if ← deadPlane c then pure ()
    else badTick c
  else badTick c

/-- The part of `do_cfun_cycle` behind the cooldown. -/
def powerCycle (c : Config) (now : Nat) : Prog Bool := do
  act (.start (.cfunCycle now) false)
  act (.setCfun 4)
  radioOn 5
  if ← cfunIsFull then do
    modify fun s => { s with failedCycles := 0 }
    let _ ← doRedial c true
    pure true
  else do
    let _ ← modemHardReset c true
    pure true

namespace Idle
variable {c : Config} {env : Nat → World} {I : Nat → State → Prop}

theorem observe (hI : Idle I) {α : Type} (f : World → α) :
    Keeps env I (Watchdog.observe f : Prog α) := Keeps.observe hI.look

theorem modify (hI : Idle I) {f : State → State}
    (hf : ∀ s, ((f s).lost, (f s).log) = (s.lost, s.log)) :
    Keeps env I (Watchdog.modify f : Prog Unit) := by
  refine Keeps.modify fun i s hs => ?_
  obtain ⟨hl, hlog⟩ := Prod.mk.inj (hf s)
  exact hI.frame i s (f s) hl hlog hs

theorem set (hI : Idle I) {f : State → State}
    (hf : ∀ s, ((f s).lost, (f s).log) = (s.lost, s.log)) (hm : Keeps env I m) :
    Keeps env I (do Watchdog.modify f; m) :=
  .bind (hI.modify hf) fun _ => hm

theorem act (hI : Idle I) (he : e ≠ .good) : Keeps env I (Watchdog.act e) :=
  Keeps.modify fun i s => hI.note i s e he

theorem frame_of (hI : Idle I) {s s' : State} (hs : I i s)
    (h : (s'.lost, s'.log) = (s.lost, s.log)) : I i s' :=
  hI.frame i s s' (Prod.mk.inj h).1 (Prod.mk.inj h).2 hs

/-! ## Checks and rungs -/

theorem administrativelyEnabled (hI : Idle I) : Keeps env I administrativelyEnabled :=
  keeps_administrativelyEnabled hI.look fun i s => hI.note i s _ nofun

theorem modemAttached (hI : Idle I) : Keeps env I modemAttached :=
  .bind (hI.observe _) fun _ => .pure _

theorem atAlive (hI : Idle I) : Keeps env I atAlive :=
  .bind (hI.observe _) fun _ => .ite (.pure _) (.bind (hI.observe _) fun _ => .pure _)

theorem cfunIsFull (hI : Idle I) : Keeps env I cfunIsFull :=
  .bind (.bind (hI.observe _) fun _ => .pure _) fun _ => .pure _

theorem trafficAdvancing (hI : Idle I) (dev : Text) : Keeps env I (trafficAdvancing dev) := by
  refine .bind (hI.observe _) fun rx => .bind .get fun s => ?_
  cases rx with
  | none => exact .pure _
  | some now =>
    refine .ite (hI.set (fun _ => rfl) (.pure _))
      (hI.set (fun _ => rfl) ?_)
    exact .ite (hI.set (fun _ => rfl) (.pure _)) (.pure _)

theorem reachable (hI : Idle I) (dev : Text) : Keeps env I (reachable dev) :=
  keeps_reachable hI.look dev

theorem attachReturned (hI : Idle I) : Keeps env I attachReturned :=
  .bind .get fun _ => .ite (.bind (hI.observe _) fun _ => (hI.modify fun _ => rfl)) (.pure _)

end Idle

namespace Asks
variable {c : Config} {env : Nat → World} {I : Nat → State → Prop}

theorem cpinQuery (hI : Asks env I) : Keeps env I cpinQuery := by
  intro i s hs
  exact hI.frame_of (hI.query i s hs) rfl

theorem cpinRefresh (hI : Asks env I) : Keeps env I cpinRefresh :=
  .bind .get fun _ => .ite (.pure _) hI.cpinQuery

theorem enabled (hI : Asks env I) : Keeps env I enabled := by
  refine .bind hI.administrativelyEnabled fun b => .ite ?_ (.pure _)
  refine .bind hI.cpinRefresh fun _ => .bind (hI.observe _) fun pending => ?_
  exact .bind .get fun s => .ite (.pure _) (.pure _)

end Asks

namespace Idle
variable {c : Config} {env : Nat → World} {I : Nat → State → Prop}

theorem redialSession (hI : Idle I) : Keeps env I redialSession := by
  have hacquire : ∀ n, Keeps env I (acquire n) := fun n => by
    induction n with
    | zero => exact .pure _
    | succ n ih => exact .bind (hI.observe _) fun _ => .ite (.pure _) ih
  have hattached : ∀ n, Keeps env I (waitAttached n) := fun n => by
    induction n with
    | zero => exact .pure _
    | succ n ih => exact .bind hI.modemAttached fun _ => .ite (.pure _) ih
  refine .bind (hacquire 10) fun _ => .ite ?_ (.pure _)
  refine .bind (hI.act nofun) fun _ => .bind (hattached 20) fun _ => Sat.get_bind fun outer => ?_
  -- What the subshell hears of the SIM is forgotten: `hI'` looks past it.
  have hI' : Asks env fun i s => I i { s with cpin := outer.cpin } :=
    { look := fun i s => hI.look i _
      frame := fun i s s' hl hlog => hI.frame i _ _ (by simp_all [State.lost]) hlog
      note := fun i s e he => hI.note i _ e he
      query := fun i s => hI.look i _ }
  refine Sat.pre (P := fun i s => I i { s with cpin := outer.cpin }) ?_ fun i s hs => ?_
  · refine Keeps.and_then (hI'.modify fun _ => rfl) fun _ => hI'.enabled.and_then fun _ => ?_
    refine Keeps.and_then (.onlyIf (hI'.act nofun)) fun _ => Sat.bind (R := fun _ => I) ?_ fun _ =>
      Keeps.pure _
    exact Sat.modify fun i s hs => hI.frame_of hs rfl
  · rw [← hs.2]
    exact hs.1

theorem doRedial (hI : Idle I) (nested : Bool) : Keeps env I (doRedial c nested) := by
  have hswap : Keeps env I checkSimSwap := by
    refine .bind (hI.observe _) fun r => .ite (.pure _) (.bind (hI.observe _) fun last => ?_)
    exact .ite (.pure _) (.bind (.onlyIf (hI.act nofun)) fun _ => hI.act nofun)
  refine .bind (hI.observe _) fun now => .bind (hI.modify fun s => ?_) fun _ => ?_
  · unfold countRedial
    split_ifs <;> rfl
  refine .bind .get fun s => .ite ?_ ?_
  · refine .bind (hI.act nofun) fun _ => hI.set (fun _ => rfl) (.pure _)
  · refine .bind (hI.act nofun) fun _ => .bind hswap fun _ => .bind hI.redialSession fun _ => ?_
    exact .ite (hI.set (fun _ => rfl) (.pure _)) (.pure _)

theorem modemHardReset (hI : Idle I) (nested : Bool) : Keeps env I (modemHardReset c nested) := by
  refine .bind hI.administrativelyEnabled fun _ => .ite ?_ (.pure _)
  refine .bind (hI.observe _) fun now => .bind (hI.modify fun s => ?_) fun _ => ?_
  · unfold rollResetWindow
    split_ifs <;> rfl
  refine .bind .get fun s => .ite ?_ ?_
  · refine hI.set (fun _ => rfl) ?_
    exact .bind (.onlyIf (hI.act nofun)) fun _ => .pure _
  · refine .bind (hI.modify fun _ => rfl) fun _ => .bind (hI.act nofun) fun _ => ?_
    refine .bind (hI.observe _) fun _ => .ite ?_ (.pure _)
    refine .bind (hI.observe _) fun up => .bind (hI.observe _) fun now => ?_
    refine .bind (.modify fun i s hs => ?_) fun _ => .pure _
    exact hI.frame_of (hI.note i s .resetDone nofun hs) rfl

theorem powerCycle (hI : Idle I) (now : Nat) : Keeps env I (powerCycle c now) := by
  have hradio : ∀ n, Keeps env I (radioOn n) := fun n => by
    induction n with
    | zero => exact .pure _
    | succ n ih =>
      exact .bind hI.cfunIsFull fun _ => .ite (.pure _) (.bind (hI.act nofun) fun _ => ih)
  refine .bind (hI.act nofun) fun _ => .bind (hI.act nofun) fun _ => .bind (hradio 5) fun _ => ?_
  refine .bind hI.cfunIsFull fun _ => .ite ?_ ?_
  · refine hI.set (fun _ => rfl) ?_
    exact .bind (hI.doRedial true) fun _ => .pure _
  · exact .bind (hI.modemHardReset true) fun _ => .pure _

theorem silentPort (hI : Idle I) : Keeps env I (silentPort c) := by
  refine .bind hI.atAlive fun _ => .ite ?_ ?_
  · exact hI.set (fun _ => rfl) (.pure _)
  · refine .bind (hI.modify fun _ => rfl) fun _ => .bind .get fun _ => ?_
    exact .ite (.pure _) (hI.modemHardReset false)

theorem missingNode (hI : Idle I) : Keeps env I (missingNode c) := by
  refine .bind (hI.observe _) fun _ => .ite ?_ ?_
  · exact hI.set (fun _ => rfl) (.pure _)
  · refine .bind (hI.modify fun _ => rfl) fun _ => .bind .get fun _ => ?_
    refine .ite (.pure _) (.bind (hI.modemHardReset false) fun _ => .ite ?_ (.pure _))
    exact hI.set (fun _ => rfl) (.pure _)

end Idle

/-! ## In front of the evaluation -/

namespace Asks
variable {c : Config} {env : Nat → World} {I : Nat → State → Prop}

theorem relockReconnect (hI : Asks env I) : Keeps env I (relockReconnect c) := by
  have hwait : ∀ start n, Keeps env I (relockWait c start n) := fun start n => by
    induction n with
    | zero => exact .pure _
    | succ n ih =>
      refine .bind (hI.observe _) fun up => .ite (.pure _) ?_
      refine .bind hI.administrativelyEnabled fun _ => .ite ?_ (.pure _)
      refine .bind hI.cpinQuery fun _ => .bind .get fun s => .ite (.pure _) ?_
      refine .bind (hI.observe _) fun wwan => .ite ?_ ?_
      · exact .bind (hI.reachable _) fun _ => .ite (.pure _) ih
      · refine .bind (hI.observe _) fun up => .ite ih (.bind hI.modemAttached fun _ => ?_)
        refine .ite ih (.bind (hI.observe _) fun _ => .ite ?_ ih)
        exact .bind (hI.modemHardReset true) fun _ => .pure _
  refine .bind hI.administrativelyEnabled fun _ => .ite ?_ (.pure _)
  refine .bind hI.cpinQuery fun _ => .bind .get fun s => .ite (.pure _) ?_
  refine .bind (hI.act nofun) fun _ => .bind (hI.observe _) fun _ => .ite ?_ (.pure _)
  refine .bind (hI.modify fun _ => rfl) fun _ => .bind (hI.observe _) fun start => ?_
  refine .bind (hwait start 18) fun r => ?_
  cases r with
  | some r => exact .pure _
  | none =>
    exact .bind hI.administrativelyEnabled fun _ => .ite (hI.modemHardReset true) (.pure _)

theorem simChecks (hI : Asks env I) : Keeps env I (simChecks c) := by
  have hreconnect : Keeps env I (do let _ ← Watchdog.relockReconnect c; pure () : Prog Unit) :=
    .bind hI.relockReconnect fun _ => .pure _
  have hreask : ∀ n, Keeps env I (reaskCpin n) := fun n => by
    induction n with
    | zero => exact .pure _
    | succ n ih => exact .bind .get fun _ => .ite (.bind hI.cpinQuery fun _ => ih) (.pure _)
  have hgate : Keeps env I leftToGate :=
    .bind .get fun _ => .ite (.pure _) (.ite (.pure _) (.bind (hI.observe _) fun _ => .pure _))
  have hrelocked : Keeps env I (relocked c) := by
    refine .bind (hI.modify fun _ => rfl) fun _ => .bind hgate fun _ => .ite (.pure _) ?_
    refine hI.set (fun _ => rfl) ?_
    refine .bind (hI.observe _) fun pin => .ite (.pure _) ?_
    refine .bind (hI.observe _) fun failed => .ite (.pure _) ?_
    refine .bind (hI.observe _) fun now => .bind .get fun s => .ite (.pure _) ?_
    refine .bind (hI.act nofun) fun _ => .bind (hI.observe _) fun _ => .ite ?_ ?_
    · refine hI.set (fun _ => rfl) ?_
      refine .bind hI.administrativelyEnabled fun _ => .ite ?_ (.pure _)
      exact .bind (hI.modify fun _ => rfl) fun _ => hreconnect
    · exact hI.modify fun _ => rfl
  have hlock : Keeps env I (simLockWatch c) := by
    refine .bind hI.administrativelyEnabled fun _ => .ite ?_ (hI.modify fun _ => rfl)
    refine .bind hI.cpinRefresh fun _ => .bind (hreask 3) fun _ => .bind .get fun s => ?_
    refine .ite hrelocked (.ite (hI.set (fun _ => rfl) ?_) (.pure _))
    exact .ite (.bind (hI.modify fun _ => rfl) fun _ => hreconnect) (.pure _)
  have hreinit : Keeps env I (simReinitWatch c) := by
    refine .bind (hI.observe _) fun marker => .ite (.pure _) ?_
    refine .bind hI.administrativelyEnabled fun _ => .ite ?_ (.pure _)
    refine .bind hI.cpinQuery fun _ => .bind .get fun s => .ite (.pure _) (.ite (.pure _) ?_)
    refine .ite (.pure _) (.bind (hI.observe _) fun up => .ite (.pure _) ?_)
    exact .bind (hI.modify fun _ => rfl) fun _ => hreconnect
  refine .bind (hI.observe _) fun up => hI.set (fun _ => rfl) ?_
  refine .bind (hI.observe _) fun lost => .bind (.onlyIf (hI.modify fun _ => rfl)) fun _ => ?_
  refine .bind .get fun s => .bind (.onlyIf (.bind (hI.modify fun _ => rfl) fun _ => hlock)) fun _ =>
    ?_
  exact .bind (hI.modify fun _ => rfl) fun _ => hreinit

end Asks

/-! ## The evaluation -/

namespace Beside
variable {c : Config} {env : Nat → World} {I Q : Nat → State → Prop}

theorem doCfunCycle (hI : Beside c env I) : Keeps env I (doCfunCycle c) := by
  refine Sat.bind (R := fun now j s => ∃ i, i < j ∧ now = (env i).clock ∧ I j s)
    (fun i s hs => ⟨i, Nat.lt_succ_self i, rfl, hI.look i s hs⟩) fun now => ?_
  refine Sat.get_bind fun s₀ => Sat.ite (fun _ => ?_) fun hready => ?_
  · exact Sat.pure fun i s ⟨⟨_, _, _, hs⟩, _⟩ => hs
  refine Sat.bind (R := fun _ => I) (Sat.modify fun j s hs => ?_) fun _ => hI.powerCycle now
  obtain ⟨⟨i, hij, rfl, hs⟩, rfl⟩ := hs
  exact hI.cfun i j s hij (Nat.not_lt.mp hready) hs

theorem escalate (hI : Beside c env I) : Keeps env I (escalate c) := by
  have hredial : Keeps env I (redialRung c) :=
    .bind (hI.doRedial false) fun _ => .ite (hI.modify fun _ => rfl) (.pure _)
  have hclimb : Keeps env I (climb c) := by
    refine .bind .get fun s => .ite (.bind (hI.modemHardReset false) fun _ => .pure _) ?_
    exact .bind hI.doCfunCycle fun _ => .ite (hI.modify fun _ => rfl) hredial
  have hlte : Keeps env I (lteFallbackEnter c) := by
    refine .ite (.pure _) (hI.set (fun _ => rfl) ?_)
    refine .bind .get fun s => .ite (.pure _) (.bind (hI.observe _) fun _ => .ite (.pure _) ?_)
    refine .bind (hI.act nofun) fun _ => .bind (hI.observe _) fun _ => .ite ?_ (.pure _)
    refine .bind (hI.observe _) fun now => ?_
    exact hI.set (fun _ => rfl) (.pure _)
  have hmhi : Keeps env I (mhiPathReset c) := by
    have hgrace : ∀ now, Keeps env I (Watchdog.modify (graceAfter c now) : Prog Unit) := fun now =>
      hI.modify fun _ => rfl
    refine .bind (hI.observe _) fun now => .bind (hI.modify fun s => ?_) fun _ => ?_
    · split <;> rfl
    refine .bind .get fun s => .ite (.pure _) (hI.set (fun _ => rfl) ?_)
    refine .bind (hI.act nofun) fun _ => .bind (hI.observe _) fun _ => .ite ?_ ?_
    · refine hI.set (fun _ => rfl) ?_
      exact .bind (hI.observe _) fun now => .bind (hgrace now) fun _ => .pure _
    · exact .bind (hI.observe _) fun now => .bind (hgrace now) fun _ => .pure _
  refine .bind .get fun s => .ite hredial (.bind hlte fun _ => .ite hredial ?_)
  exact .bind hmhi fun _ => .ite hclimb (.pure _)

theorem badTick (hI : Beside c env I) : Keeps env I (badTick c) :=
  .bind (hI.modify fun _ => rfl) fun _ => .bind .get fun _ => .ite (.pure _) hI.escalate

theorem cfunRecheck (hI : Beside c env I) : Keeps env I (cfunRecheck c) := by
  refine .bind (hI.modify fun _ => rfl) fun _ => Sat.get_bind fun s₀ => ?_
  refine Sat.ite (fun _ => Sat.pure fun i s hs => hs.1) fun _ => ?_
  refine Sat.bind (R := fun _ i s => I i s ∧ s.lastCfun = s₀.lastCfun) (Sat.modify fun i s hs => ?_)
    fun _ => ?_
  · exact ⟨hI.frame_of hs.1 rfl, show s.lastCfun = s₀.lastCfun from hs.2 ▸ rfl⟩
  refine Sat.bind (R := fun now j s => ∃ i, i < j ∧ now = (env i).clock ∧ I j s ∧
    s.lastCfun = s₀.lastCfun) (fun i s hs => ⟨i, Nat.lt_succ_self i, rfl, hI.look i s hs.1, hs.2⟩)
    fun now => Sat.ite (fun _ => ?_) fun hready => ?_
  · exact Sat.pure fun i s ⟨_, _, _, hs, _⟩ => hs
  refine Sat.bind (R := fun _ j s => ∃ i, i < j ∧ now = (env i).clock ∧ I j s ∧
    s.lastCfun = s₀.lastCfun) ?_ fun n => Sat.ite (fun _ => ?_) fun _ => ?_
  · intro j s ⟨i, hij, hnow, hs, hlast⟩
    exact ⟨i, Nat.lt_succ_of_lt hij, hnow, hI.look j s hs, hlast⟩
  · refine Sat.bind (R := fun _ => I) (Sat.modify fun j s hs => ?_) fun _ => hI.act nofun
    obtain ⟨i, hij, rfl, hs, hlast⟩ := hs
    exact hI.cfun i j s hij (hlast ▸ Nat.not_lt.mp hready) hs
  · exact Sat.pure fun i s ⟨_, _, _, hs, _⟩ => hs

end Beside

/-- What the end of a tick may be: the tick began with it, a good tick makes it so, or
`attach_lost_watch` does. -/
structure Ends (c : Config) (env : Nat → World) (I Q : Nat → State → Prop) : Prop
    extends Idle Q where
  stay : ∀ i s, I i s → Q i s
  good : ∀ i s, I i s → Q i (confirmGood c s)
  lost : Sat env I (attachLostWatch c) fun _ => Q

namespace Ends
variable {c : Config} {env : Nat → World} {I Q : Nat → State → Prop}

theorem of_keeps (hQ : Ends c env I Q) {α : Type} {m : Prog α} (h : Keeps env I m) :
    Sat env I m fun _ => Q := h.mono (fun _ _ hs => hs) fun _ => hQ.stay

theorem goodTick (hQ : Ends c env I Q) (hI : Beside c env I) (traffic : Traffic) :
    Sat env I (goodTick c traffic) fun _ => Q := by
  have hrelease : Keeps env Q (lteFallbackRelease c) := by
    refine .bind .get fun s => .ite (.pure _) (.bind (hQ.observe _) fun _ => .ite ?_ ?_)
    · refine .bind (hQ.observe _) fun now => .ite (.pure _) (.bind (hQ.act nofun) fun _ => ?_)
      exact hQ.modify fun _ => rfl
    · exact hQ.modify fun _ => rfl
  refine Keeps.and_then (hI.modify fun _ => rfl) fun _ => hI.attachReturned.and_then fun _ => ?_
  refine Sat.bind (R := fun _ => Q) (Sat.ite (fun _ => Sat.modify hQ.good) fun _ =>
    Sat.pure hQ.stay) fun _ => ?_
  exact Keeps.bind hrelease fun _ => (hQ.modify fun _ => rfl)

theorem checkPath (hQ : Ends c env I Q) (hI : Beside c env I) (up : Bool) (device : Text)
    (traffic : Traffic) : Sat env I (checkPath c up device traffic) fun _ => Q := by
  have hplane : Keeps env I (deadPlane c) := by
    refine .ite (.pure _) (.bind (hI.observe _) fun _ => .ite ?_ (.pure _))
    refine .bind (hI.modify fun _ => rfl) fun _ => .bind .get fun _ => .ite (.pure _) ?_
    refine .bind (hI.modify fun _ => rfl) fun _ => .bind (hI.observe _) fun now => ?_
    refine .bind .get fun s => .ite ?_ (hI.modemHardReset false)
    exact .bind (hI.modify fun _ => rfl) fun _ => .bind hI.doCfunCycle fun _ => .pure _
  have hbad := hQ.of_keeps hI.badTick
  refine Sat.ite (fun _ => (hI.reachable _).and_then fun _ => ?_) fun _ => hbad
  refine Sat.ite (fun _ => hQ.goodTick hI traffic) fun _ => hplane.and_then fun _ => ?_
  exact Sat.ite (fun _ => Sat.pure hQ.stay) fun _ => hbad

theorem noAttach (hQ : Ends c env I Q) (hI : Beside c env I) :
    Sat env I (noAttach c) fun _ => Q := by
  have hnote : Keeps env I detachNote := .bind (hI.observe _) fun _ => (hI.modify fun _ => rfl)
  refine Keeps.get.and_then fun s => Keeps.and_then (.onlyIf (.bind hnote fun _ => ?_)) fun _ => ?_
  · exact hI.modify fun _ => rfl
  refine hI.cfunRecheck.and_then fun _ => Sat.bind hQ.lost fun _ => ?_
  exact hQ.modify fun _ => rfl

theorem evaluate (hQ : Ends c env I Q) (hI : Beside c env I) :
    Sat env I (evaluate c) fun _ => Q := by
  have hsuspect : ∀ up device traffic, Sat env I (suspect c up device traffic) fun _ => Q := by
    intro up device traffic
    refine hI.silentPort.and_then fun _ => Sat.ite (fun _ => Sat.pure hQ.stay) fun _ => ?_
    refine hI.missingNode.and_then fun _ => Sat.ite (fun _ => Sat.pure hQ.stay) fun _ => ?_
    refine hI.modemAttached.and_then fun _ => Sat.ite (fun _ => hQ.noAttach hI) fun _ => ?_
    refine hI.attachReturned.and_then fun _ => Keeps.and_then (.modify fun i s hs => ?_) fun _ =>
      hQ.checkPath hI up device traffic
    exact hI.frame_of (hI.clear i s hs) rfl
  refine (hI.observe _).and_then fun wwan => Sat.ite (fun _ => ?_) fun _ => hsuspect _ _ _
  refine (hI.trafficAdvancing _).and_then fun t => ?_
  exact Sat.ite (fun _ => hsuspect _ _ _) fun _ => hQ.goodTick hI t

theorem tick (hQ : Ends c env I Q) (hI : Beside c env I) : Sat env I (tick c) fun _ => Q := by
  have hpending : ∀ now, Sat env I (pending c now) fun _ => Q := by
    intro now
    refine (hI.observe _).and_then fun _ => Sat.ite (fun _ => ?_) fun _ => ?_
    · exact Keeps.and_then (hI.modify fun _ => rfl) fun _ => hQ.evaluate hI
    · refine Keeps.get.and_then fun s => Sat.ite (fun _ => Sat.pure hQ.stay) fun _ => ?_
      refine Keeps.and_then (hI.modify fun _ => rfl) fun _ => hI.modemAttached.and_then fun _ => ?_
      exact Sat.ite (fun _ => Sat.pure hQ.stay) fun _ => hQ.of_keeps hI.escalate
  have hjudge : Sat env I (judge c) fun _ => Q := by
    refine (hI.observe _).and_then fun now => Keeps.get.and_then fun s => ?_
    refine Sat.ite (fun _ => Sat.pure hQ.stay) fun _ => ?_
    exact Sat.ite (fun _ => hpending now) fun _ => hQ.evaluate hI
  refine (hI.observe _).and_then fun _ => Sat.ite (fun _ => Sat.pure hQ.stay) fun _ => ?_
  refine hI.simChecks.and_then fun _ => hI.enabled.and_then fun _ => Sat.ite (fun _ => hjudge) ?_
  refine fun _ => Sat.modify fun i s hs => hQ.stay i _ ?_
  exact hI.frame_of (hI.clear i _ (hI.note i s .standDown nofun hs)) rfl

end Ends
end GlXe3000.Cellular.Watchdog
