import GlXe3000.Lib.Machine
import GlXe3000.Cellular.Watchdog.Rungs

/-! # The main loop

One tick is one pass through the loop up to its `do_sleep`; `continue` is the end of a function
here. The event of the machine is what the world looks like during the tick and the sleep behind
it. -/

namespace GlXe3000.Cellular.Watchdog
open Text

def confirmGood (c : Config) (s : State) : State :=
  { s with
    log := s.log ++ [.good], failedCycles := 0, cfunCycles := 0, mhiResetCount := 0,
    mhiResetWindowStart := 0, lteFallbackCount := 0, resetCount := 0, deadPlaneTicks := 0,
    deadPlaneCfun := false, attachLostWait := c.attachLostCfun, attachLostCycles := 0 }

def goodTick (c : Config) (traffic : Traffic) : Prog Unit := do
  modify fun s => { s with consecBad := 0 }
  attachReturned
  onlyIf (traffic ≠ .noBaseline) (modify (confirmGood c))
  lteFallbackRelease c
  modify fun s => { s with recheckCpin := false }

def badTick (c : Config) : Prog Unit := do
  modify fun s => { s with consecBad := s.consecBad + 1 }
  let s ← get
  if s.consecBad < c.offlineThreshold then pure () else escalate c

/-- The AT port is silent; `true` ends the tick. -/
def silentPort (c : Config) : Prog Bool := do
  if ← atAlive then do
    modify fun s => { s with atDead := 0 }
    pure false
  else do
    modify fun s => { s with atDead := s.atDead + 1 }
    let s ← get
    if s.atDead < c.atDeadTicks then pure false else modemHardReset c false

/-- The QMI node is missing; `true` ends the tick. -/
def missingNode (c : Config) : Prog Bool := do
  if ← observe World.qmiNode then do
    modify fun s => { s with qmiMissing := 0 }
    pure false
  else do
    modify fun s => { s with qmiMissing := s.qmiMissing + 1 }
    let s ← get
    if s.qmiMissing < c.atDeadTicks then pure false
    else if ← modemHardReset c false then do
      modify fun s => { s with qmiMissing := 0 }
      pure true
    else pure false

/-- Every `CFUN_RECHECK_TICKS` ticks without attach: is the radio off? -/
def cfunRecheck (c : Config) : Prog Unit := do
  modify fun s => { s with nosignalTicks := s.nosignalTicks + 1 }
  let s ← get
  if s.nosignalTicks < c.cfunRecheckTicks then pure ()
  else do
    modify fun s => { s with nosignalTicks := 0 }
    let now ← date
    if now < s.lastCfun + c.cfunCooldown then pure ()
    else do
      let n ← cfunState
      if n = "0" then do
        modify fun s => { s with lastCfun := now }
        act (.setCfun 1)
      else pure ()

def noAttach (c : Config) : Prog Unit := do
  let s ← get
  onlyIf (!s.nosignalLogged) do
    detachNote
    modify fun s => { s with nosignalLogged := true }
  cfunRecheck c
  attachLostWatch c
  modify fun s => { s with consecBad := 0 }

/-- Attached, but no probe gets through; `true` ends the tick. -/
def deadPlane (c : Config) : Prog Bool := do
  if c.deadPlaneTicks = 0 then pure false
  else if ← observe World.qmiIpv4 then do
    modify fun s => { s with deadPlaneTicks := s.deadPlaneTicks + 1 }
    let s ← get
    if s.deadPlaneTicks < c.deadPlaneTicks then pure false
    else do
      modify fun s => { s with deadPlaneTicks := 0 }
      deadPlaneRecover c
  else pure false

def attached (c : Config) (up : Bool) (device : Text) (traffic : Traffic) : Prog Unit := do
  attachReturned
  modify fun s => { s with nosignalTicks := 0, attachLostSince := 0 }
  if up && !device.isEmpty then
    if ← reachable device then goodTick c traffic
    else if ← deadPlane c then pure ()
    else badTick c
  else badTick c

def suspect (c : Config) (up : Bool) (device : Text) (traffic : Traffic) : Prog Unit := do
  if ← silentPort c then pure ()
  else if ← missingNode c then pure ()
  else do
    let attach ← modemAttached
    if attach = "0" then noAttach c else attached c up device traffic

/-- The evaluation of a tick. Of an interface that is down nothing is known about traffic; the
value stands for the empty `traffic_state`, which is not `2` either. -/
def evaluate (c : Config) : Prog Unit := do
  let wwan ← observe fun w => (w.up, w.device)
  if wwan.1 && !wwan.2.isEmpty then do
    let traffic ← trafficAdvancing wwan.2
    if traffic = .flat then suspect c wwan.1 wwan.2 traffic else goodTick c traffic
  else suspect c wwan.1 wwan.2 .flat

def pending (c : Config) (now : Nat) : Prog Unit := do
  if ← observe World.up then do
    modify fun s => { s with redialPending := false, graceUntil := 0 }
    evaluate c
  else do
    let s ← get
    if now < s.graceUntil then pure ()
    else do
      modify fun s => { s with redialPending := false }
      let attach ← modemAttached
      if attach = "0" then pure () else escalate c

/-- The part of a tick behind `enabled`. -/
def judge (c : Config) : Prog Unit := do
  let now ← date
  let s ← get
  if now < s.blockedUntil then pure ()
  else if s.redialPending then pending c now
  else evaluate c

/-- Is a fresh `AT+CPIN?` due? -/
def cpinDue (s : State) : Bool :=
  s.recheckCpin || s.simWasLocked || 0 < s.simLockedTicks || s.cpinAt + cpinEvery ≤ s.tickUp

/-- The part of a tick before `enabled`. -/
def simChecks (c : Config) : Prog Unit := do
  let up ← observe World.uptime
  modify fun s => { s with tickUp := up, relockHandled := false, svcNudged := false }
  let lost ← observe World.svcLost
  onlyIf lost (modify fun s => { s with cpinAt := 0, svcNudged := true })
  let s ← get
  onlyIf (cpinDue s) do
    modify fun s => { s with cpinAt := s.tickUp, cpinValid := false }
    simLockWatch c
  modify fun s => { s with recheckCpin := false }
  simReinitWatch c

def tick (c : Config) : Prog Unit := do
  if ← observe World.flashing then pure ()
  else do
    simChecks c
    if ← enabled then judge c else modify resetState

/-- A tick in the world `env`. -/
def State.step (c : Config) (s : State) (env : Nat → World) : State :=
  let r := tick c env 0 s
  { r.2.2 with clock := (env r.2.1).clock }

def machine (c : Config) : Machine State (Nat → World) := ⟨State.step c⟩

def deadModem : World where
  clock := 100000
  uptime := 1000
  flashing := false
  svcLost := false
  reinit := []
  uci := {}
  scanStartedAt := []
  lastIccid := []
  up := false
  device := []
  rxBytes _ := none
  reply _ := []
  bearerDns := []
  ping _ _ := false
  curl := true
  fetch _ _ := false
  qmiNode := false
  qmiIpv4 := false
  ratState := false
  netLock := true
  wwanReconnect := true
  mhiReset := false
  modemReset := false
  simUnlock := false

end GlXe3000.Cellular.Watchdog
