import GlXe3000.Lib.Machine
import GlXe3000.Lib.Text

/-! # The uplink watchdog: `gl-wan-health`

A pass probes every tracked uplink and compares what it finds with what mwan3 says. Passes that
contradict mwan3 are counted, and enough of them in a row make the daemon rebuild mwan3. An event of
mwan3 wakes the daemon early, but only from the sleeps that follow a pass that was not counted.

The environment of a pass says what each look finds, how long each stage takes, and when a wake
signal comes. The clock only moves forward. -/

namespace GlXe3000.WanHealth
open Text

structure Settings where
  checkPeriod : Nat
  failThreshold : Nat
  resetMax : Nat
  resetWindow : Nat
  resetGrace : Nat
  startupGrace : Nat

/-- The defaults that `opt` falls back to. -/
def defaults : Settings where
  checkPeriod := 15
  failThreshold := 4
  resetMax := 5
  resetWindow := 1800
  resetGrace := 90
  startupGrace := 120

/-! ## Probing -/

inductive Status
  | online
  | offline
  /-- `connecting`, any other word, or none. -/
  | other
  deriving DecidableEq

/-- What the commands of `conn_ok` find. -/
structure Reach where
  pings : List Bool
  hasCurl : Bool
  fetches : List Bool

structure Iface where
  name : Text
  /-- `enabled` is not `0`. -/
  enabled : Bool
  /-- There is a `track_ip`. -/
  tracked : Bool
  up : Bool
  status : Status
  device : Text
  /-- Its `rx_bytes`, if they can be read. -/
  rxBytes : Option Nat
  reach : Reach

/-- The variables `rx_*`, `rxdev_*`, `okprev_*` and `skips_*` of an interface. -/
structure Gate where
  rx : Option Nat := none
  device : Option Text := none
  okPrev : Option Bool := none
  skips : Nat := 0

def mwan3TrackedIfaces (ifaces : List Iface) : List Iface :=
  ifaces.filter fun ifc => ifc.enabled && ifc.tracked

/-- `wwan|wwan_*|modem*`. -/
def rxGated (name : Text) : Bool :=
  name = "wwan" || "wwan_".toList.isPrefixOf name || "modem".toList.isPrefixOf name

/-- `wwan|wwan_4|modem*`. -/
def isModemIface (name : Text) : Bool :=
  name = "wwan" || name = "wwan_4" || "modem".toList.isPrefixOf name

def rxMaxSkip : Nat := 2

/-- The probe can be skipped: the last one passed, on this device, and bytes have come in since. -/
def Gate.isOpen (g : Gate) (device : Text) (now : Nat) : Bool :=
  g.okPrev = some true && g.device = some device && g.rx.any (fun prev => prev < now) &&
    g.skips < rxMaxSkip

/-- The counter cannot be read: nothing is noted, and the probe is not skipped. -/
def rxSkipProbe (g : Gate) (ifc : Iface) : Bool × Gate :=
  match ifc.rxBytes with
  | none => (false, g)
  | some now =>
    let skip := g.isOpen ifc.device now
    (skip, { g with
      rx := some now
      device := some ifc.device
      skips := if skip then g.skips + 1 else 0 })

def connOk (ifc : Iface) : Bool :=
  !ifc.device.isEmpty &&
    (ifc.reach.pings.any id || (ifc.reach.hasCurl && ifc.reach.fetches.any id))

def checkIface (g : Gate) (ifc : Iface) : Bool × Gate :=
  if rxGated ifc.name then
    let gate := if ifc.device.isEmpty then (false, g) else rxSkipProbe g ifc
    let ok := gate.1 || connOk ifc
    (ok, { gate.2 with okPrev := some ok })
  else (connOk ifc, g)

structure Findings where
  onlineAny : Bool := false
  onlineGood : Bool := false
  upGood : Bool := false
  upWedged : Bool := false
  bestIface : Option Text := none

def Findings.note (f : Findings) (ifc : Iface) (ok : Bool) : Findings where
  onlineAny := f.onlineAny || ifc.status = .online
  onlineGood := f.onlineGood || (ifc.status = .online && ok)
  upGood := f.upGood || (ifc.up && ok)
  upWedged := f.upWedged || (ifc.up && ok && ifc.status = .other)
  bestIface :=
    if ifc.up && f.bestIface.isNone && !isModemIface ifc.name then some ifc.name else f.bestIface

abbrev Gates : Type := Text → Gate

def probeIface (acc : Gates × Findings) (ifc : Iface) : Gates × Findings :=
  -- only what could plausibly carry traffic is probed
  if ifc.up || ifc.status = .online then
    let checked := checkIface (acc.1 ifc.name) ifc
    (Function.update acc.1 ifc.name checked.2, acc.2.note ifc checked.1)
  else acc

def probe (gates : Gates) (ifaces : List Iface) : Gates × Findings :=
  (mwan3TrackedIfaces ifaces).foldl probeIface (gates, {})

/-! ## A pass -/

inductive Verdict
  | healthy
  | leftAlone
  | outage
  | contradiction
  deriving DecidableEq

def judge (f : Findings) : Verdict :=
  if f.onlineGood then .healthy
  else if (f.onlineAny && !f.onlineGood) || (!f.onlineAny && f.upWedged) then .contradiction
  else if f.upGood then .leftAlone
  else .outage

structure State where
  now : Nat
  failCount : Nat
  resetCount : Nat
  resetWindowStart : Nat
  graceUntil : Nat
  gates : Gates
  online : Bool
  brightness : Bool

structure Pass where
  ifaces : List Iface
  hasLed : Bool
  /-- `led_enable` is not `0`. -/
  ledEnable : Bool
  probing : Nat
  logging : Nat
  repairing : Nat
  wake : Option Nat
  late : Nat

inductive Repair
  | resetMwan3
  | refreshUplink (iface : Text)
  deriving DecidableEq

structure Recovery where
  startedAt : Nat
  finishedAt : Nat
  repair : Option Repair
  deriving DecidableEq

structure Record where
  verdict : Verdict
  checkedAt : Nat
  counted : Bool
  recovery : Option Recovery
  deriving DecidableEq

def publish (p : Pass) (want : Bool) (s : State) : State :=
  { s with online := want, brightness := if p.hasLed then want && p.ledEnable else s.brightness }

section
variable (cfg : Settings) (p : Pass)

/-- How long `do_sleep` takes. A signal ends only a sleep in the background. -/
def sleepTime (background : Bool) : Nat :=
  if background then min cfg.checkPeriod (p.wake.getD cfg.checkPeriod) else cfg.checkPeriod

def doSleep (background : Bool) (s : State) : State :=
  { s with now := s.now + sleepTime cfg p background + p.late }

/-- The window of the recoveries starts anew when it is over, and this one is counted. -/
def countReset (s : State) : State :=
  if s.now - s.resetWindowStart > cfg.resetWindow then
    { s with resetWindowStart := s.now, resetCount := 1 }
  else { s with resetCount := s.resetCount + 1 }

def chooseRepair (f : Findings) (resetCount : Nat) : Repair :=
  match f.bestIface with
  | some iface => if 3 ≤ resetCount then .refreshUplink iface else .resetMwan3
  | none => .resetMwan3

def recover (f : Findings) (s : State) : State × Recovery :=
  let s' := countReset cfg s
  if s'.resetCount > cfg.resetMax then (s', ⟨s.now, s.now, none⟩)
  else
    ({ s' with now := s.now + p.repairing, graceUntil := s.now + p.repairing + cfg.resetGrace },
      ⟨s.now, s.now + p.repairing, some (chooseRepair f s'.resetCount)⟩)

def contradicted (f : Findings) (s : State) : State × Record :=
  if s.now < s.graceUntil then
    (doSleep cfg p true s, ⟨.contradiction, s.now, false, none⟩)
  else if s.failCount + 1 < cfg.failThreshold then
    (doSleep cfg p false { s with failCount := s.failCount + 1 },
      ⟨.contradiction, s.now, true, none⟩)
  else
    let r := recover cfg p f { s with failCount := 0, now := s.now + p.logging }
    (doSleep cfg p false r.1, ⟨.contradiction, s.now, true, some r.2⟩)

def probed (s : State) : State :=
  let found := probe s.gates p.ifaces
  publish p (if found.2.onlineGood then true else found.2.upGood)
    { s with gates := found.1, now := s.now + p.probing }

def pass (s : State) : State × Record :=
  let f := (probe s.gates p.ifaces).2
  match judge f with
  | .contradiction => contradicted cfg p f (probed p s)
  | verdict =>
    (doSleep cfg p true { probed p s with failCount := 0 },
      ⟨verdict, (probed p s).now, false, none⟩)

end

/-! ## A run -/

structure Run where
  state : State
  records : List Record

def start (cfg : Settings) (now : Nat) : Run where
  state :=
    { now := now
      failCount := 0
      resetCount := 0
      resetWindowStart := 0
      graceUntil := now + cfg.startupGrace
      gates := fun _ => {}
      online := false
      brightness := false }
  records := []

def machine (cfg : Settings) : Machine Run Pass where
  step run p := ⟨(pass cfg p run.state).1, run.records ++ [(pass cfg p run.state).2]⟩

/-! ## What a pass can do -/

section
variable {cfg : Settings} {p : Pass} {f : Findings} {s : State}

theorem checkPeriod_le_doSleep (s : State) :
    s.now + cfg.checkPeriod ≤ (doSleep cfg p false s).now :=
  Nat.le_add_right _ _

theorem le_doSleep (background : Bool) (s : State) : s.now ≤ (doSleep cfg p background s).now := by
  unfold doSleep
  dsimp only
  omega

@[simp] theorem countReset_now : (countReset cfg s).now = s.now := by
  unfold countReset
  split <;> rfl

@[simp] theorem countReset_failCount : (countReset cfg s).failCount = s.failCount := by
  unfold countReset
  split <;> rfl

@[simp] theorem countReset_graceUntil : (countReset cfg s).graceUntil = s.graceUntil := by
  unfold countReset
  split <;> rfl

structure Recovers (cfg : Settings) (s s' : State) (r : Recovery) : Prop where
  startedAt : r.startedAt = s.now
  le_finishedAt : r.startedAt ≤ r.finishedAt
  failCount : s'.failCount = s.failCount
  le_now : r.finishedAt ≤ s'.now
  graceUntil : s'.graceUntil =
    if r.repair.isSome then r.finishedAt + cfg.resetGrace else s.graceUntil

theorem recover_recovers : Recovers cfg s (recover cfg p f s).1 (recover cfg p f s).2 := by
  unfold recover
  dsimp only
  split
  · exact ⟨rfl, Nat.le_refl _, countReset_failCount, Nat.le_of_eq countReset_now.symm,
      countReset_graceUntil⟩
  · exact ⟨rfl, Nat.le_add_right _ _, countReset_failCount, Nat.le_refl _, rfl⟩

/-- What a pass from `s` to `s'` can do. -/
inductive Effect (cfg : Settings) (s s' : State) (r : Record) : Prop
  | agreed (hcounted : r.counted = false) (hrecovery : r.recovery = none)
      (hverdict : r.verdict ≠ .contradiction) (hfail : s'.failCount = 0)
      (hgrace : s'.graceUntil = s.graceUntil)
  | graced (hcounted : r.counted = false) (hrecovery : r.recovery = none)
      (hlt : r.checkedAt < s.graceUntil) (hfail : s'.failCount = s.failCount)
      (hgrace : s'.graceUntil = s.graceUntil)
  | counted (hcounted : r.counted = true) (hrecovery : r.recovery = none)
      (hverdict : r.verdict = .contradiction) (hle : s.graceUntil ≤ r.checkedAt)
      (hlt : s.failCount + 1 < cfg.failThreshold) (hfail : s'.failCount = s.failCount + 1)
      (hsleep : r.checkedAt + cfg.checkPeriod ≤ s'.now) (hgrace : s'.graceUntil = s.graceUntil)
  | recovered {v : Recovery} (hcounted : r.counted = true) (hrecovery : r.recovery = some v)
      (hverdict : r.verdict = .contradiction) (hle : s.graceUntil ≤ r.checkedAt)
      (hge : cfg.failThreshold ≤ s.failCount + 1) (hfail : s'.failCount = 0)
      (hstart : r.checkedAt ≤ v.startedAt) (hfinish : v.startedAt ≤ v.finishedAt)
      (hgrace : s'.graceUntil =
        if v.repair.isSome then v.finishedAt + cfg.resetGrace else s.graceUntil)

theorem contradicted_effect : Effect cfg s (contradicted cfg p f (probed p s)).1
    (contradicted cfg p f (probed p s)).2 := by
  unfold contradicted
  split
  · rename_i hlt
    exact .graced rfl rfl hlt rfl rfl
  · rename_i hge
    split
    · rename_i hlt
      exact .counted rfl rfl rfl (Nat.le_of_not_lt hge) hlt rfl (checkPeriod_le_doSleep _) rfl
    · rename_i hthreshold
      have hrecover : Recovers cfg
          { probed p s with failCount := 0, now := (probed p s).now + p.logging } _ _ :=
        recover_recovers (p := p) (f := f)
      refine .recovered rfl rfl rfl (Nat.le_of_not_lt hge) (Nat.le_of_not_lt hthreshold)
        hrecover.failCount ?_ hrecover.le_finishedAt hrecover.graceUntil
      rw [hrecover.startedAt]
      exact Nat.le_add_right _ _

theorem pass_effect (cfg : Settings) (p : Pass) (s : State) :
    Effect cfg s (pass cfg p s).1 (pass cfg p s).2 := by
  unfold pass
  dsimp only
  split
  · exact contradicted_effect
  · rename_i hverdict
    exact .agreed rfl rfl hverdict rfl rfl

theorem contradicted_checkedAt (cfg : Settings) (p : Pass) (f : Findings) (s : State) :
    (contradicted cfg p f s).2.checkedAt = s.now ∧
    s.now ≤ (contradicted cfg p f s).1.now := by
  unfold contradicted
  split
  · exact ⟨rfl, le_doSleep true s⟩
  · split
    · exact ⟨rfl, le_doSleep false _⟩
    · have hrecover : Recovers cfg { s with failCount := 0, now := s.now + p.logging } _ _ :=
        recover_recovers (p := p) (f := f)
      refine ⟨rfl, ?_⟩
      calc s.now
        _ ≤ s.now + p.logging := Nat.le_add_right _ _
        _ = _ := hrecover.startedAt.symm
        _ ≤ _ := hrecover.le_finishedAt
        _ ≤ _ := hrecover.le_now
        _ ≤ _ := le_doSleep false _

theorem le_checkedAt (cfg : Settings) (p : Pass) (s : State) : s.now ≤ (pass cfg p s).2.checkedAt ∧
    (pass cfg p s).2.checkedAt ≤ (pass cfg p s).1.now := by
  have hprobed : s.now ≤ (probed p s).now := Nat.le_add_right _ _
  unfold pass
  dsimp only
  split
  · obtain ⟨hchecked, hle⟩ := contradicted_checkedAt cfg p (probe s.gates p.ifaces).2 (probed p s)
    rw [hchecked]
    exact ⟨hprobed, hle⟩
  · exact ⟨hprobed, le_doSleep true _⟩

end

end GlXe3000.WanHealth
