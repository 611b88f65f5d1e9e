import GlXe3000.Cellular.Watchdog.RedialWindow

/-! # The wait for a signal with the radio off

`do_cfun_cycle` switches the radio off with `AT+CFUN=4`. If it cannot confirm that the radio is back
on and the hard reset is refused, it leaves the rest to the no-signal wait of the main loop. That
wait switches the radio on again only if `AT+CFUN?` reports 0; a radio that reports 4 stays off
unless a missing QMI node leads to a hard reset. -/

namespace GlXe3000.Cellular.Watchdog
open Observer Text

namespace Entry

/-- `AT+CFUN=1` or a hard reset. -/
def isWake : Entry → Bool
  | .setCfun 1 | .start (.hardReset _) _ => true
  | _ => false

end Entry

def State.wakes (s : State) : Nat := s.log.countP Entry.isWake

/-- `AT+CPIN?` says that the SIM is unlocked. -/
def Ready (cpin : Text) : Prop := cpinReady cpin = true ∧ cpinLocked cpin = false

theorem Ready.no_pin {cpin : Text} (h : Ready cpin) : cpin.has "SIM PIN" = false := by
  have := h.2
  rw [cpinLocked, Bool.or_eq_false_iff] at this
  exact this.1

/-- A tick of the no-signal wait: the connection is switched on, the SIM ready, the AT port answers,
the modem is not attached, no traffic comes in, nothing is pending and every cooldown is over.
`AT+CFUN?` reports `r`, and `node` says whether the QMI node is there. -/
structure RadioOff (c : Config) (node : Bool) (r : Text) (s : State) (env : Nat → World) :
    Prop where
  notFlashing : ∀ i, (env i).flashing = false
  enabled : ∀ i g, Gate.isOpen g (env i).uci = true
  ready : ∀ i, Ready ((env i).reply .cpin)
  cached : s.cpinValid = true → Ready s.cpin
  unlocked : s.simWasLocked = false
  noReinit : ∀ i, (env i).reinit = []
  answers : ∀ i, ((env i).reply .at).isEmpty = false
  detached : ∀ i, tagNumber "+CGATT:" ((env i).reply .cgatt) = "0"
  radio : ∀ i, tagNumber "+CFUN:" ((env i).reply .cfun) = r
  node : ∀ i, (env i).qmiNode = node
  flat : ∀ i, (env i).up = false ∨ (env i).device = [] ∨
    ∀ j, (env j).rxBytes (env i).device = none ∨
      ((env i).device = s.lastDevice ∧ (env j).rxBytes (env i).device = s.lastRx)
  settled : s.redialPending = false
  cooldown : ∀ i, s.lastCfun + c.cfunCooldown ≤ (env i).clock
  unblocked : ∀ i, s.blockedUntil ≤ (env i).clock
  budget : ∀ i, s.resetCount < c.modemResetMax ∨
    s.lastHardReset + c.modemResetBackoff ≤ (env i).clock

structure Vars where
  nosignalTicks : Nat
  qmiMissing : Nat
  lastCfun : Nat
  blockedUntil : Nat
  resetCount : Nat
  lastHardReset : Nat
  redialPending : Bool
  simWasLocked : Bool
  lastDevice : Text
  lastRx : Option Nat
  wakes : Nat

def State.vars (s : State) : Vars :=
  { nosignalTicks := s.nosignalTicks, qmiMissing := s.qmiMissing, lastCfun := s.lastCfun,
    blockedUntil := s.blockedUntil, resetCount := s.resetCount, lastHardReset := s.lastHardReset,
    redialPending := s.redialPending, simWasLocked := s.simWasLocked, lastDevice := s.lastDevice,
    lastRx := s.lastRx, wakes := s.wakes }

/-- The variables are `v`, and the SIM reply that is kept is a good one. -/
def At (v : Vars) : Nat → State → Prop :=
  fun _ s => s.vars = v ∧ (s.cpinValid = true → Ready s.cpin)

theorem At.set {s s' : State} (h : At v i s)
    (hvars : s.vars = v → s'.vars = v') (hvalid : s'.cpinValid = s.cpinValid)
    (hcpin : s'.cpin = s.cpin) : At v' j s' :=
  ⟨hvars h.1, by rw [hvalid, hcpin]; exact h.2⟩

/-! ## In front of the evaluation -/

namespace RadioOff
variable {c : Config} {node : Bool} {r : Text} {s₀ : State} {env : Nat → World} {v : Vars}
  {P : Nat → State → Prop}

theorem administrativelyEnabled (h : RadioOff c node r s₀ env)
    (hlook : ∀ i s, P i s → P (i + 1) s) :
    Sat env P administrativelyEnabled fun b i s => b = true ∧ P i s := by
  refine Sat.look (φ := fun u => ∀ g, Gate.isOpen g u = true) h.enabled hlook fun net hnet => ?_
  rw [hnet, hnet]
  refine Sat.look (φ := fun u => ∀ g, Gate.isOpen g u = true) h.enabled hlook fun u hu => ?_
  rw [hu, hu]
  exact Sat.pure fun i s hs => ⟨rfl, hs⟩

theorem cpinQuery (h : RadioOff c node r s₀ env) :
    Sat env (At v) cpinQuery fun _ i s => At v i s ∧ Ready s.cpin :=
  Sat.look (φ := Ready) h.ready (fun _ _ hs => hs) fun _ hb =>
    Sat.modify fun _ _ hs => ⟨⟨hs.1, fun _ => hb⟩, hb⟩

theorem cpinRefresh (h : RadioOff c node r s₀ env) :
    Sat env (At v) cpinRefresh fun _ i s => At v i s ∧ Ready s.cpin := by
  refine Sat.get_bind fun s₁ => ?_
  refine Sat.ite (fun hvalid => ?_) fun _ => h.cpinQuery.pre fun i s hs => hs.1
  refine Sat.pure fun i s hs => ⟨hs.1, hs.1.2 ?_⟩
  rw [hs.2, hvalid]

theorem reaskCpin (h : RadioOff c node r s₀ env) (k : Nat) :
    Keeps env (fun i s => At v i s ∧ Ready s.cpin) (reaskCpin k) := by
  induction k with
  | zero => exact .pure _
  | succ k ih =>
    exact .bind .get fun _ => .ite (.bind (h.cpinQuery.pre fun i s hs => hs.1) fun _ => ih)
      (.pure _)

theorem simLockWatch (h : RadioOff c node r s₀ env) (hv : v.simWasLocked = false) :
    Keeps env (At v) (simLockWatch c) := by
  refine Sat.known (h.administrativelyEnabled fun _ _ hs => hs) ?_
  refine Sat.bind h.cpinRefresh fun _ => (h.reaskCpin 3).and_then fun _ => Sat.get_bind fun s₁ => ?_
  refine Sat.assume (φ := Ready s₁.cpin ∧ s₁.simWasLocked = false) (fun i s hs => ?_) fun hs₁ => ?_
  · rw [← hs.2]
    exact ⟨hs.1.2, (congrArg Vars.simWasLocked hs.1.1.1).trans hv⟩
  rw [hs₁.1.no_pin, hs₁.1.1, hs₁.2]
  refine Sat.pre (P := At v) ?_ fun i s hs => hs.1.1
  exact Keeps.bind (.modify fun i s hs => hs.set id rfl rfl) fun _ => .pure _

theorem simChecks (h : RadioOff c node r s₀ env) (hv : v.simWasLocked = false) :
    Keeps env (At v) (simChecks c) := by
  refine .bind (.observe fun _ _ hs => hs) fun up => ?_
  refine .bind (.modify fun i s hs => hs.set id rfl rfl) fun _ => ?_
  refine .bind (.observe fun _ _ hs => hs) fun lost => ?_
  refine .bind (.onlyIf (.modify fun i s hs => hs.set id rfl rfl)) fun _ => .bind .get fun s => ?_
  refine .bind (.onlyIf (.bind (.modify fun i s hs => ⟨hs.1, fun hvalid => ?_⟩) fun _ => ?_))
    fun _ => ?_
  · exact absurd hvalid (by simp)
  · exact h.simLockWatch hv
  refine .bind (.modify fun i s hs => hs.set id rfl rfl) fun _ => ?_
  exact Sat.look (φ := (· = [])) h.noReinit (fun _ _ hs => hs) fun _ hm => by
    subst hm
    exact Keeps.pure ()

theorem enabled_eq (h : RadioOff c node r s₀ env) :
    Sat env (At v) Watchdog.enabled fun b i s => b = true ∧ At v i s := by
  refine Sat.known (h.administrativelyEnabled fun _ _ hs => hs) ?_
  refine Sat.bind h.cpinRefresh fun _ => Sat.bind (R := fun _ i s => At v i s ∧ Ready s.cpin)
    (Sat.observe fun _ _ hs => hs) fun pending => Sat.get_bind fun s₁ => ?_
  refine Sat.assume (φ := Ready s₁.cpin) (fun i s hs => hs.2 ▸ hs.1.2) fun hready => ?_
  rw [hready.1, hready.2, Bool.not_true, Bool.and_false]
  exact Sat.pure fun i s hs => ⟨rfl, hs.1.1⟩

/-! ## The evaluation -/

theorem modemAttached (h : RadioOff c node r s₀ env) (hlook : ∀ i s, P i s → P (i + 1) s) :
    Sat env P modemAttached fun a i s => a = "0" ∧ P i s :=
  Sat.look (φ := fun b => tagNumber "+CGATT:" b = "0") h.detached hlook
    fun _ hb => Sat.pure fun _ _ hs => ⟨hb, hs⟩

theorem cfunState (h : RadioOff c node r s₀ env) (hlook : ∀ i s, P i s → P (i + 1) s) :
    Sat env P cfunState fun a i s => a = r ∧ P i s :=
  Sat.look (φ := fun b => tagNumber "+CFUN:" b = r) h.radio hlook
    fun _ hb => Sat.pure fun _ _ hs => ⟨hb, hs⟩

theorem trafficAdvancing (hdevice : v.lastDevice = s₀.lastDevice)
    (hrx : v.lastRx = s₀.lastRx) (hdev : ∀ j, (env j).rxBytes dev = none ∨
      (dev = s₀.lastDevice ∧ (env j).rxBytes dev = s₀.lastRx)) :
    Sat env (At v) (trafficAdvancing dev) fun t i s => t = .flat ∧ At v i s := by
  refine Sat.look (φ := fun rx => rx = none ∨ (dev = v.lastDevice ∧ rx = v.lastRx))
    (fun j => by rw [hdevice, hrx]; exact hdev j) (fun _ _ hs => hs) fun rx hrx => ?_
  refine Sat.get_bind fun s₁ => ?_
  cases rx with
  | none => exact Sat.pure fun i s hs => ⟨rfl, hs.1⟩
  | some now =>
    obtain ⟨hd, hnow⟩ := hrx.resolve_left (by simp)
    refine Sat.assume (φ := s₁.lastDevice = dev ∧ s₁.lastRx = some now) (fun i s hs => ?_)
      fun hs₁ => ?_
    · rw [← hs.2, hd, hnow]
      exact ⟨congrArg Vars.lastDevice hs.1.1, congrArg Vars.lastRx hs.1.1⟩
    refine Sat.ite (fun hnew => absurd hnew (by simp [hs₁.1, hs₁.2])) fun _ => ?_
    refine Sat.bind (R := fun _ => At v) (Sat.modify fun i s hs => ?_) fun _ => ?_
    · refine hs.1.set (fun hvars => ?_) rfl rfl
      rw [← hvars, ← hs₁.1, ← hs.2]
    · refine Sat.ite (fun hlt => absurd hlt (by simp [hs₁.2])) fun _ => ?_
      exact Sat.pure fun i s hs => ⟨rfl, hs⟩

theorem silentPort (h : RadioOff c node r s₀ env) :
    Sat env (At v) (silentPort c) fun b i s => b = false ∧ At v i s := by
  have halive : Sat env (At v) atAlive fun b i s => b = true ∧ At v i s := by
    refine Sat.look (φ := fun b : Text => b.isEmpty = false) h.answers (fun _ _ hs => hs)
      fun b hb => ?_
    rw [hb]
    exact Sat.pure fun i s hs => ⟨rfl, hs⟩
  refine Sat.known halive (Keeps.and_then (.modify fun i s hs => hs.set id rfl rfl) fun _ => ?_)
  exact Sat.pure fun i s hs => ⟨rfl, hs⟩

end RadioOff

theorem Audit.woken (c : Config) (env : Nat → World) (w : Nat) :
    Audit c env fun _ s => w < s.wakes :=
  Audit.of_log c env fun _ _ h => Nat.lt_of_lt_of_le h (by simp)

theorem rollResetWindow_not_refused {c : Config} {s : State}
    (h : s.resetCount < c.modemResetMax ∨ s.lastHardReset + c.modemResetBackoff ≤ now) :
    resetRefused c now (rollResetWindow c now s) = false := by
  unfold rollResetWindow
  split_ifs <;> simp only [resetRefused, Bool.and_eq_false_iff, decide_eq_false_iff_not] <;> omega

namespace RadioOff
variable {c : Config} {node : Bool} {r : Text} {s₀ : State} {env : Nat → World} {v : Vars}

theorem modemHardReset (h : RadioOff c node r s₀ env) (hcount : v.resetCount = s₀.resetCount)
    (hlast : v.lastHardReset = s₀.lastHardReset) :
    Sat env (At v) (modemHardReset c false) fun _ _ s => v.wakes < s.wakes := by
  refine Sat.known (h.administrativelyEnabled fun _ _ hs => hs) ?_
  refine Sat.look (φ := fun now => v.resetCount < c.modemResetMax ∨
    v.lastHardReset + c.modemResetBackoff ≤ now) (fun i => by rw [hcount, hlast]; exact h.budget i)
    (fun _ _ hs => hs) fun now hnow => ?_
  refine Sat.bind (R := fun _ _ s => s.wakes = v.wakes ∧ resetRefused c now s = false)
    (Sat.modify fun i s hs => ?_) fun _ => ?_
  · refine ⟨?_, ?_⟩
    · rw [State.wakes, rollResetWindow_log]
      exact congrArg Vars.wakes hs.1
    · refine rollResetWindow_not_refused ?_
      rw [← hs.1] at hnow
      exact hnow
  refine Sat.get_bind fun s₁ => Sat.assume (φ := resetRefused c now s₁ = false)
    (fun i s hs => hs.2 ▸ hs.1.2) fun hs₁ => ?_
  rw [hs₁]
  refine Sat.bind (R := fun _ _ s => s.wakes = v.wakes) (Sat.modify fun i s hs => hs.1.1)
    fun _ => ?_
  refine Sat.bind (R := fun _ _ s => v.wakes < s.wakes) (Sat.modify fun i s hs => ?_) fun _ => ?_
  · simpa [State.wakes, Entry.isWake] using Nat.lt_succ_of_le (Nat.le_of_eq hs.symm)
  have hW := Audit.woken c env v.wakes
  refine Keeps.bind (hW.plain.observe _) fun _ => .ite ?_ (.pure _)
  refine .bind (hW.plain.observe _) fun up => .bind (hW.plain.observe _) fun now => ?_
  refine .bind (.modify fun j s hs => ?_) fun _ => .pure _
  refine hW.frame j _ _ ?_ ?_ (hW.resetDone j s hs) <;> rfl

theorem missingNode (h : RadioOff c node r s₀ env) (hcount : v.resetCount = s₀.resetCount)
    (hlast : v.lastHardReset = s₀.lastHardReset) :
    Sat env (At v) (missingNode c) fun b i s =>
      (node = false ∧ c.atDeadTicks ≤ v.qmiMissing + 1 → v.wakes < s.wakes) ∧
      (¬(node = false ∧ c.atDeadTicks ≤ v.qmiMissing + 1) →
        b = false ∧ At { v with qmiMissing := if node then 0 else v.qmiMissing + 1 } i s) := by
  refine Sat.look (φ := (· = node)) h.node (fun _ _ hs => hs) fun b hb => ?_
  subst hb
  cases b with
  | true =>
    refine Sat.bind (R := fun _ => At { v with qmiMissing := 0 }) (Sat.modify fun i s hs => ?_)
      fun _ => ?_
    · exact hs.set (fun hvars => by rw [← hvars]; rfl) rfl rfl
    · exact Sat.pure fun i s hs => ⟨fun hno => absurd hno.1 (by simp), fun _ => ⟨rfl, hs⟩⟩
  | false =>
    refine Sat.bind (R := fun _ => At { v with qmiMissing := v.qmiMissing + 1 })
      (Sat.modify fun i s hs => ?_) fun _ => Sat.get_bind fun s₁ => ?_
    · exact hs.set (fun hvars => by rw [← hvars]; rfl) rfl rfl
    refine Sat.assume (φ := s₁.qmiMissing = v.qmiMissing + 1)
      (fun i s hs => hs.2 ▸ congrArg Vars.qmiMissing hs.1.1) fun hs₁ => ?_
    rw [hs₁]
    refine Sat.ite (fun hlt => ?_) fun hge => ?_
    · exact Sat.pure fun i s hs => ⟨fun hno => by omega, fun _ => ⟨rfl, hs.1⟩⟩
    · have hW := Audit.woken c env v.wakes
      have hreset := h.modemHardReset (v := { v with qmiMissing := v.qmiMissing + 1 }) hcount hlast
      refine Sat.bind (R := fun _ _ s => v.wakes < s.wakes) (hreset.pre fun i s hs => hs.1)
        fun b => ?_
      refine Sat.ite (fun _ => Keeps.and_then (hW.toLoose.modify fun _ => rfl) fun _ => ?_)
        fun _ => ?_
      all_goals exact Sat.pure fun i s hs => ⟨fun _ => hs, fun hno => absurd ⟨rfl, by omega⟩ hno⟩

theorem cfunRecheck (h : RadioOff c node r s₀ env) (hcfun : v.lastCfun = s₀.lastCfun) :
    Sat env (At v) (cfunRecheck c) fun _ i s =>
      (r = "0" ∧ c.cfunRecheckTicks ≤ v.nosignalTicks + 1 → v.wakes < s.wakes) ∧
      (¬(r = "0" ∧ c.cfunRecheckTicks ≤ v.nosignalTicks + 1) → At { v with nosignalTicks :=
        if v.nosignalTicks + 1 < c.cfunRecheckTicks then v.nosignalTicks + 1 else 0 } i s) := by
  refine Sat.bind (R := fun _ => At { v with nosignalTicks := v.nosignalTicks + 1 })
    (Sat.modify fun i s hs => ?_) fun _ => Sat.get_bind fun s₁ => ?_
  · exact hs.set (fun hvars => by rw [← hvars]; rfl) rfl rfl
  refine Sat.assume (φ := s₁.nosignalTicks = v.nosignalTicks + 1 ∧ s₁.lastCfun = v.lastCfun)
    (fun i s hs => ?_) fun hs₁ => ?_
  · rw [← hs.2]
    exact ⟨congrArg Vars.nosignalTicks hs.1.1, congrArg Vars.lastCfun hs.1.1⟩
  rw [hs₁.1, hs₁.2]
  refine Sat.ite (fun hlt => ?_) fun hge => ?_
  · refine Sat.pure fun i s hs => ⟨fun hno => by omega, fun _ => ?_⟩
    rw [if_pos hlt]
    exact hs.1
  rw [if_neg hge]
  refine Sat.bind (R := fun _ => At { v with nosignalTicks := 0 }) (Sat.modify fun i s hs => ?_)
    fun _ => ?_
  · refine hs.1.set (fun hvars => ?_) rfl rfl
    exact congrArg (fun v : Vars => { v with nosignalTicks := 0 }) hvars
  refine Sat.look (φ := fun now => v.lastCfun + c.cfunCooldown ≤ now)
    (fun i => by rw [hcfun]; exact h.cooldown i) (fun _ _ hs => hs) fun now hnow => ?_
  refine Sat.ite (fun hlt => absurd hlt (Nat.not_lt.mpr hnow)) fun _ => ?_
  refine Sat.known (h.cfunState fun _ _ hs => hs) (Sat.ite (fun hr => ?_) fun hr => ?_)
  · refine Sat.bind (R := fun _ _ s => s.wakes = v.wakes) (Sat.modify fun i s hs => ?_) fun _ => ?_
    · exact congrArg Vars.wakes hs.1
    · refine Sat.modify fun i s hs => ⟨fun _ => ?_, fun hno => absurd ⟨hr, by omega⟩ hno⟩
      simpa [State.wakes, Entry.isWake] using Nat.lt_succ_of_le (Nat.le_of_eq hs.symm)
  · exact Sat.pure fun i s hs => ⟨fun hyes => absurd hyes.1 hr, fun _ => hs⟩

theorem attachLostWatch (h : RadioOff c node r s₀ env) (hr : r ≠ "1") :
    Keeps env (At v) (attachLostWatch c) := by
  have hfull : Sat env (At v) cfunIsFull fun b i s => b = false ∧ At v i s :=
    Sat.known (h.cfunState fun _ _ hs => hs) (Sat.pure fun i s hs => ⟨decide_eq_false hr, hs⟩)
  refine .ite (.pure _) (.bind (.observe fun _ _ hs => hs) fun _ => .ite (.pure _) ?_)
  refine .bind .get fun s => .ite (.modify fun i s hs => hs.set id rfl rfl) ?_
  refine .bind (.observe fun _ _ hs => hs) fun now => ?_
  refine .ite (.modify fun i s hs => hs.set id rfl rfl) (.ite (.pure _) (.ite (.pure _) ?_))
  exact Sat.known hfull (Keeps.pure ())

theorem noAttach (h : RadioOff c node r s₀ env) (hr : r ≠ "1") (hcfun : v.lastCfun = s₀.lastCfun) :
    Sat env (At v) (noAttach c) fun _ _ s =>
      (r = "0" ∧ c.cfunRecheckTicks ≤ v.nosignalTicks + 1 → v.wakes < s.wakes) ∧
      (¬(r = "0" ∧ c.cfunRecheckTicks ≤ v.nosignalTicks + 1) → s.vars = { v with
        nosignalTicks :=
          if v.nosignalTicks + 1 < c.cfunRecheckTicks then v.nosignalTicks + 1 else 0 }) := by
  refine Keeps.get.and_then fun s => Keeps.and_then (.onlyIf (.bind ?_ fun _ => ?_)) fun _ => ?_
  · exact .bind (.observe fun _ _ hs => hs) fun _ => .modify fun i s hs => hs.set id rfl rfl
  · exact .modify fun i s hs => hs.set id rfl rfl
  refine Sat.bind (h.cfunRecheck hcfun) fun _ => ?_
  by_cases hfire : r = "0" ∧ c.cfunRecheckTicks ≤ v.nosignalTicks + 1
  · have hW := Audit.woken c env v.wakes
    refine Sat.pre (P := fun _ s => v.wakes < s.wakes) ?_ fun i s hs => hs.1 hfire
    refine hW.attachLostWatch.and_then fun _ => Sat.modify fun i s hs => ?_
    exact ⟨fun _ => hs, fun hno => absurd hfire hno⟩
  · refine Sat.pre (P := At _) ?_ fun i s hs => hs.2 hfire
    refine (h.attachLostWatch hr).and_then fun _ => Sat.modify fun i s hs => ?_
    exact ⟨fun hyes => absurd hyes hfire, fun _ => hs.1⟩

end RadioOff

/-! ## The tick -/

def Fires (c : Config) (node : Bool) (r : Text) (v : Vars) : Prop :=
  (node = false ∧ c.atDeadTicks ≤ v.qmiMissing + 1) ∨
    (r = "0" ∧ c.cfunRecheckTicks ≤ v.nosignalTicks + 1)

def Vars.next (c : Config) (node : Bool) (v : Vars) : Vars :=
  { v with
    qmiMissing := if node then 0 else v.qmiMissing + 1
    nosignalTicks := if v.nosignalTicks + 1 < c.cfunRecheckTicks then v.nosignalTicks + 1 else 0 }

structure Outcome (c : Config) (node : Bool) (r : Text) (s₀ s : State) : Prop where
  fired : Fires c node r s₀.vars → s₀.wakes < s.wakes
  quiet : ¬Fires c node r s₀.vars → s.vars = s₀.vars.next c node

namespace Outcome
variable {c : Config} {node : Bool} {r : Text} {s₀ s : State}

theorem wakes (h : Outcome c node r s₀ s) (hno : ¬Fires c node r s₀.vars) : s.wakes = s₀.wakes :=
  congrArg Vars.wakes (h.quiet hno)

theorem qmiMissing (h : Outcome c node r s₀ s) (hno : ¬Fires c node r s₀.vars) :
    s.qmiMissing = if node then 0 else s₀.qmiMissing + 1 :=
  congrArg Vars.qmiMissing (h.quiet hno)

theorem nosignalTicks (h : Outcome c node r s₀ s) (hno : ¬Fires c node r s₀.vars) :
    s.nosignalTicks =
      if s₀.nosignalTicks + 1 < c.cfunRecheckTicks then s₀.nosignalTicks + 1 else 0 :=
  congrArg Vars.nosignalTicks (h.quiet hno)

end Outcome

namespace RadioOff
variable {c : Config} {node : Bool} {r : Text} {s₀ : State} {env : Nat → World}

theorem suspect (h : RadioOff c node r s₀ env) (hr : r ≠ "1") (up : Bool) (device : Text)
    (traffic : Traffic) :
    Sat env (At s₀.vars) (suspect c up device traffic) fun _ _ => Outcome c node r s₀ := by
  refine Sat.known h.silentPort (Sat.bind (h.missingNode rfl rfl) fun b => ?_)
  by_cases hnode : node = false ∧ c.atDeadTicks ≤ s₀.vars.qmiMissing + 1
  · have hW := Audit.woken c env s₀.wakes
    have hfired : ∀ (_ : Nat) (s : State), s₀.wakes < s.wakes → Outcome c node r s₀ s :=
      fun _ _ hs => ⟨fun _ => hs, fun hno => absurd (.inl hnode) hno⟩
    refine Sat.pre (P := fun _ s => s₀.wakes < s.wakes) ?_ fun i s hs => hs.1 hnode
    refine Sat.ite (fun _ => Sat.pure hfired) fun _ => ?_
    refine Sat.known (h.modemAttached fun _ _ hs => hs) ?_
    exact Sat.mono hW.noAttach (fun _ _ hs => hs) fun _ => hfired
  · refine Sat.assume (φ := b = false) (fun i s hs => (hs.2 hnode).1) fun hb => ?_
    subst hb
    refine Sat.pre (P := At _) ?_ fun i s hs => (hs.2 hnode).2
    refine Sat.known (h.modemAttached fun _ _ hs => hs)
      ((h.noAttach hr rfl).mono (fun _ _ hs => hs) ?_)
    refine fun _ i s hs => ⟨fun hfires => hs.1 (hfires.resolve_left hnode), fun hno => ?_⟩
    exact hs.2 fun hrecheck => hno (.inr hrecheck)

theorem evaluate (h : RadioOff c node r s₀ env) (hr : r ≠ "1") :
    Sat env (At s₀.vars) (evaluate c) fun _ _ => Outcome c node r s₀ := by
  refine Sat.look (φ := fun wwan => wwan.1 = false ∨ wwan.2 = [] ∨ ∀ j,
    (env j).rxBytes wwan.2 = none ∨ (wwan.2 = s₀.lastDevice ∧ (env j).rxBytes wwan.2 = s₀.lastRx))
    h.flat (fun _ _ hs => hs) fun wwan hwwan => Sat.ite (fun hup => ?_) fun _ => h.suspect hr _ _ _
  obtain ⟨hup, hdevice⟩ : wwan.1 = true ∧ wwan.2 ≠ [] := by simpa using hup
  have hflat := (hwwan.resolve_left (by simp [hup])).resolve_left hdevice
  exact Sat.known (trafficAdvancing rfl rfl hflat) (h.suspect hr _ _ _)

theorem step (h : RadioOff c node r s₀ env) (hr : r ≠ "1") :
    Outcome c node r s₀ (s₀.step c env) := by
  have htick : Sat env (At s₀.vars) (tick c) fun _ _ => Outcome c node r s₀ := by
    refine Sat.look (φ := (· = false)) h.notFlashing (fun _ _ hs => hs) fun b hb => ?_
    subst hb
    refine (h.simChecks h.unlocked).and_then fun _ => Sat.known h.enabled_eq ?_
    refine Sat.look (φ := fun now => s₀.blockedUntil ≤ now) h.unblocked (fun _ _ hs => hs)
      fun now hnow => Sat.get_bind fun s₁ => ?_
    refine Sat.assume (φ := s₁.blockedUntil = s₀.blockedUntil ∧ s₁.redialPending = false)
      (fun i s hs => ?_) fun hs₁ => ?_
    · rw [← hs.2]
      exact ⟨congrArg Vars.blockedUntil hs.1.1,
        (congrArg Vars.redialPending hs.1.1).trans h.settled⟩
    rw [hs₁.1, hs₁.2, if_neg (Nat.not_lt.mpr hnow)]
    exact (h.evaluate hr).pre fun i s hs => hs.1
  have hend := htick 0 s₀ ⟨rfl, h.cached⟩
  exact ⟨hend.fired, hend.quiet⟩

end RadioOff

/-! ## The wait -/

theorem wakes_le_run (c : Config) (s : State) (es : List (Nat → World)) :
    s.wakes ≤ ((machine c).run s es).wakes := by
  induction es generalizing s with
  | nil => exact Nat.le_refl _
  | cons env es ih =>
    obtain ⟨l, hl⟩ := log_step c s env
    exact Nat.le_trans (by simp [State.wakes, hl]) (ih (s.step c env))

section
variable {c : Config} {node : Bool} {r : Text} {s : State} {es : List (Nat → World)}

theorem counters_of_unwoken (hr : r ≠ "1")
    (hoff : (machine c).Admits (fun t env => t.wakes = s.wakes → RadioOff c node r t env) s es)
    (hquiet : ((machine c).run s es).wakes = s.wakes) :
    (node = false → es = [] ∨ s.qmiMissing + es.length < c.atDeadTicks) ∧
      (r = "0" → es = [] ∨ s.nosignalTicks + es.length < c.cfunRecheckTicks) := by
  induction es generalizing s with
  | nil => exact ⟨fun _ => .inl rfl, fun _ => .inl rfl⟩
  | cons env es ih =>
    have hstep : Outcome c node r s ((machine c).step s env) := (hoff.1 rfl).step hr
    have hle := wakes_le_run c ((machine c).step s env) es
    rw [Machine.run_cons] at hquiet
    by_cases hfires : Fires c node r s.vars
    · exact absurd (hstep.fired hfires) (by omega)
    have hwakes := hstep.wakes hfires
    obtain ⟨hnode, hticks⟩ := ih (hwakes ▸ hoff.2) (hwakes ▸ hquiet)
    refine ⟨fun hno => .inr ?_, fun hzero => .inr ?_⟩
    · have hlt : s.qmiMissing + 1 < c.atDeadTicks :=
        Nat.lt_of_not_le fun hge => hfires (.inl ⟨hno, hge⟩)
      have hq := hstep.qmiMissing hfires
      rw [hno, if_neg (by simp)] at hq
      rcases hnode hno with rfl | hlate
      · exact hlt
      · simp only [List.length_cons]
        omega
    · have hlt : s.nosignalTicks + 1 < c.cfunRecheckTicks :=
        Nat.lt_of_not_le fun hge => hfires (.inr ⟨hzero, hge⟩)
      have ha := hstep.nosignalTicks hfires
      rw [if_pos hlt] at ha
      rcases hticks hzero with rfl | hlate
      · exact hlt
      · simp only [List.length_cons]
        omega

/-- A radio that does not report 0 stays off for as long as the QMI node is there, or has not been
missing long enough. -/
theorem radio_stays_off (hr : r ≠ "1") (hzero : r ≠ "0")
    (hnode : node = true ∨ s.qmiMissing + es.length < c.atDeadTicks)
    (hoff : (machine c).Admits (fun t env => t.wakes = s.wakes → RadioOff c node r t env) s es) :
    ((machine c).run s es).wakes = s.wakes := by
  induction es generalizing s with
  | nil => rfl
  | cons env es ih =>
    have hstep : Outcome c node r s ((machine c).step s env) := (hoff.1 rfl).step hr
    simp only [List.length_cons] at hnode
    have hfires : ¬Fires c node r s.vars := by
      rintro (⟨hno, hge⟩ | ⟨heq, -⟩)
      · have : c.atDeadTicks ≤ s.qmiMissing + 1 := hge
        rcases hnode with hyes | hlt
        · exact absurd (hno.symm.trans hyes) (by simp)
        · omega
      · exact hzero heq
    have hwakes := hstep.wakes hfires
    refine (ih (hnode.imp_right fun hlt => ?_) (hwakes ▸ hoff.2)).trans hwakes
    have hq := hstep.qmiMissing hfires
    split_ifs at hq <;> omega

end

/-- `CFUN_RECHECK_TICKS` ticks of the no-signal wait with the radio off and every cooldown over, for
as long as nothing has happened: the loop sends `AT+CFUN=1` or starts a hard reset in them if and
only if `AT+CFUN?` reports 0 or the QMI node has been missing for `AT_DEAD_TICKS` ticks by then. -/
theorem radio_woken_iff (c : Config) (node : Bool) (r : Text) (s : State) (es : List (Nat → World))
    (hr : r ≠ "1") (hpos : 0 < c.cfunRecheckTicks) (hlength : es.length = c.cfunRecheckTicks)
    (hoff : (machine c).Admits (fun t env => t.wakes = s.wakes → RadioOff c node r t env) s es) :
    s.wakes < ((machine c).run s es).wakes ↔
      r = "0" ∨ (node = false ∧ c.atDeadTicks ≤ s.qmiMissing + c.cfunRecheckTicks) := by
  have hne : es ≠ [] := fun hnil => by simp [hnil] at hlength; omega
  constructor
  · intro hlt
    by_contra hcon
    rw [not_or] at hcon
    refine absurd (radio_stays_off hr hcon.1 ?_ hoff) (Nat.ne_of_gt hlt)
    cases node with
    | true => exact .inl rfl
    | false => exact .inr (by rw [hlength]; exact Nat.lt_of_not_le fun hge => hcon.2 ⟨rfl, hge⟩)
  · intro hwake
    refine Nat.lt_of_le_of_ne (wakes_le_run c s es) fun heq => ?_
    obtain ⟨hnode, hticks⟩ := counters_of_unwoken hr hoff heq.symm
    rw [hlength] at hnode hticks
    rcases hwake with hzero | ⟨hno, hge⟩
    · have := (hticks hzero).resolve_left hne
      omega
    · have := (hnode hno).resolve_left hne
      omega

def flightMode (now : Nat) (cgatt : Text) : World :=
  { deadModem with
    clock := now
    uptime := now
    reply := fun
      | .at => "OK"
      | .cpin => "+CPIN: READY"
      | .cgatt => cgatt
      | .cfun => "+CFUN: 4"
      | _ => []
    qmiNode := true }

/-- The one tick of a short wait, with the QMI node missing. -/
theorem radio_woken_iff_missing_node :
    let c : Config := { cfunRecheckTicks := 1, atDeadTicks := 1 }
    let env : Nat → World := fun _ =>
      { flightMode 102000 "+CGATT: 0" with qmiNode := false }
    (initial c).wakes < ((machine c).run (initial c) [env]).wakes := by
  intro c env
  have hoff : RadioOff c false "4" (initial c) env :=
    { notFlashing := fun _ => rfl
      enabled := fun _ g => by cases g <;> rfl
      ready := fun _ => ⟨by decide, by decide⟩
      cached := fun hvalid => absurd hvalid (by decide)
      unlocked := rfl
      noReinit := fun _ => rfl
      answers := fun _ => rfl
      detached := fun _ => by decide
      radio := fun _ => by decide
      node := fun _ => rfl
      flat := fun _ => .inl rfl
      settled := rfl
      cooldown := fun _ => by decide
      unblocked := fun _ => by decide
      budget := fun _ => .inl (by decide) }
  exact (radio_woken_iff c false "4" (initial c) [env] (by decide) (by decide) rfl
    ⟨fun _ => hoff, trivial⟩).mpr (.inr ⟨rfl, by decide⟩)

/-- The default settings. Three hard resets of a silent modem fail; it answers again, but no redial
helps and the power cycle at 100200 ends with the radio off, `AT+CFUN=1` not confirmed and the next
hard reset refused. Twenty ticks without attach, all of them after the cooldowns, do nothing. -/
theorem radio_left_in_flight_mode :
    let es : List (Nat → World) := List.replicate 4 (fun _ => deadModem) ++
      [fun _ => flightMode 100010 "+CGATT: 1", fun _ => flightMode 100200 "+CGATT: 1"]
    let wait : List (Nat → World) :=
      (List.range 20).map fun k _ => flightMode (102000 + 10 * k) "+CGATT: 0"
    let trap := (machine {}).run (initial {}) es
    trap.log.drop 6 = Entry.start (.cfunCycle 100200) false :: .setCfun 4 ::
        List.replicate 5 (.setCfun 1) ∧
      trap.lastCfun + 1800 ≤ 102000 ∧ trap.lastHardReset + 900 ≤ 102000 ∧
      ((machine {}).run trap wait).wakes = trap.wakes := by
  decide +kernel

end GlXe3000.Cellular.Watchdog
