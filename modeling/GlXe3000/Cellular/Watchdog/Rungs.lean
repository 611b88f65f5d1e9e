import GlXe3000.Cellular.Watchdog.State

/-! # Checks and recovery rungs

The functions of the script up to the main loop. `sleep` has no step of its own: time passes between
two looks at the clock. -/

namespace GlXe3000.Cellular.Watchdog
open Text

/-! ## Checks -/

def administrativelyEnabled : Prog Bool := do
  let net ← observe World.uci
  if !(Gate.auto.isOpen net && Gate.disabled.isOpen net) then pure false
  else do
    let state ← observe World.uci
    if !Gate.dialEnabled.isOpen state then pure false
    else if Gate.scanInProgress.isOpen state then pure true
    else do
      let started ← observe World.scanStartedAt
      let now ← date
      if started.isEmpty || now < toNumber started + 900 then pure false
      else do
        act .clearScan
        pure true

def cpinQuery : Prog Unit := do
  let r ← query .cpin
  modify fun s => { s with cpin := r, cpinValid := true }

def cpinReady (cpin : Text) : Bool := cpin.has "+CPIN: READY"
def cpinLocked (cpin : Text) : Bool := cpin.has "SIM PIN" || cpin.has "SIM PUK"

/-- `[ "$cpin_valid" = 1 ] || cpin_query`. -/
def cpinRefresh : Prog Unit := do
  let s ← get
  if s.cpinValid then pure () else cpinQuery

def enabled : Prog Bool := do
  if ← administrativelyEnabled then do
    cpinRefresh
    let pending ← observe (·.uci.pinPending)
    let s ← get
    if !pending.isEmpty && !cpinReady s.cpin then pure false
    else pure (!cpinLocked s.cpin)
  else pure false

def resetState (s : State) : State :=
  { s with
    log := s.log ++ [.standDown], consecBad := 0, redialCount := 0, windowStart := 0,
    blockedUntil := 0, graceUntil := 0, redialPending := false,
    failedCycles := 0, cfunCycles := 0, lastRx := none, nosignalTicks := 0,
    deadPlaneTicks := 0, deadPlaneCfun := false, attachLostSince := 0 }

def modemAttached : Prog Text := do
  let r ← query .cgatt
  pure (tagNumber "+CGATT:" r)

def atAlive : Prog Bool := do
  let r ← query .at
  if !r.isEmpty then pure true
  else do
    let r ← query .at
    pure (!r.isEmpty)

/-- The number `AT+CFUN?` reports. -/
def cfunState : Prog Text := do
  let r ← query .cfun
  pure (tagNumber "+CFUN:" r)

def cfunIsFull : Prog Bool := do
  let n ← cfunState
  pure (n = "1")

inductive Traffic
  | grew | flat | noBaseline
  deriving DecidableEq

def trafficAdvancing (dev : Text) : Prog Traffic := do
  let rx ← observe (·.rxBytes dev)
  let s ← get
  match rx with
  | none => pure .flat
  | some now =>
    if dev ≠ s.lastDevice || s.lastRx.isNone || now < s.lastRx.getD 0 then do
      modify fun s => { s with lastDevice := dev, lastRx := some now }
      pure .noBaseline
    else do
      modify fun s => { s with lastDevice := dev }
      if s.lastRx.getD 0 < now then do
        modify fun s => { s with lastRx := some now }
        pure .grew
      else pure .flat

def pingConfirms (dev : Text) : Prog Bool := do
  let dns ← observe World.bearerDns
  anyOf (fun target => observe (·.ping dev target))
    (dns ++ ["9.9.9.9".toList, "208.67.222.222".toList])

def probeUrls : List Text :=
  ["http://www.msftconnecttest.com/connecttest.txt",
    "https://cp.cloudflare.com/generate_204",
    "https://captive.apple.com/hotspot-detect.html"]

def httpsConfirms (dev : Text) : Prog Bool := do
  if ← observe World.curl then anyOf (fun url => observe (·.fetch dev url)) probeUrls
  else pure false

/-- `ping_confirms "$device" || https_confirms "$device"`. -/
def reachable (dev : Text) : Prog Bool := do
  if ← pingConfirms dev then pure true else httpsConfirms dev

/-! ## Redial -/

def checkSimSwap : Prog Unit := do
  let r ← query .qccid
  let iccid := List.intercalate ['\n'] (hexMatches 18 20 r.length r)
  if iccid.isEmpty then pure ()
  else do
    let last ← observe World.lastIccid
    if last = iccid then pure ()
    else do
      onlyIf (!last.isEmpty) (act .setPdpType)
      act (.setLastIccid iccid)

/-- `until flock -n 9`, up to `n` times. -/
def acquire : Nat → Prog Bool
  | 0 => pure false
  | n + 1 => do
    if ← observe World.netLock then pure true else acquire n

def waitAttached : Nat → Prog Unit
  | 0 => pure ()
  | n + 1 => do
    let attach ← modemAttached
    if attach = "1" then pure () else waitAttached n

/-- The subshell of `do_redial`: what it does to the SIM cache stays in it. -/
def redialSession : Prog Bool := do
  if ← acquire 10 then do
    act .ifdown
    waitAttached 20
    let outer ← get
    modify fun s => { s with cpinValid := false }
    let on ← enabled
    onlyIf on (act .ifup)
    modify fun s => { s with cpin := outer.cpin, cpinValid := outer.cpinValid }
    pure true
  else pure false

/-- The redial limiter: a window that starts anew once it has run out, and a count in it. -/
def countRedial (c : Config) (now : Nat) (s : State) : State :=
  if s.windowStart + c.triggerWindow < now then { s with windowStart := now, redialCount := 1 }
  else { s with redialCount := s.redialCount + 1 }

def doRedial (c : Config) (nested : Bool) : Prog Bool := do
  let now ← date
  modify (countRedial c now)
  let s ← get
  if c.triggerMax < s.redialCount then do
    act .backOff
    modify fun s => { s with blockedUntil := now + c.blockSec }
    pure false
  else do
    act (.start (.redial now) nested)
    checkSimSwap
    if ← redialSession then do
      modify fun s =>
        { s with
          graceUntil := now + c.graceSec, redialPending := true, consecBad := 0, lastRx := none }
      pure true
    else pure false

/-! ## LTE fallback -/

def lteFallbackEnter (c : Config) : Prog Bool := do
  if !c.lteFallback then pure false
  else do
    modify fun s => { s with lteFallbackCount := s.lteFallbackCount + 1 }
    let s ← get
    if s.lteFallbackCount < c.lteFallbackAfter then pure false
    else if ← observe World.ratState then pure false
    else do
      act .ratFallback
      if ← observe World.ratState then do
        let now ← date
        modify fun s => { s with lteFallbackSince := now }
        pure true
      else pure false

def lteFallbackRelease (c : Config) : Prog Unit := do
  let s ← get
  if !c.lteFallback || s.lteFallbackSince = 0 then pure ()
  else if ← observe World.ratState then do
    let now ← date
    if now < s.lteFallbackSince + c.lteFallbackHold then pure ()
    else do
      act .ratRestore
      modify fun s => { s with lteFallbackSince := 0, lteFallbackCount := 0 }
  else modify fun s => { s with lteFallbackSince := 0 }

/-! ## MHI reset -/

inductive MhiOutcome
  | restored | failed
  | notRun
  deriving DecidableEq

def graceAfter (c : Config) (now : Nat) (s : State) : State :=
  { s with lastRx := none, redialPending := true, graceUntil := now + c.graceSec }

def mhiPathReset (c : Config) : Prog MhiOutcome := do
  let now ← date
  modify fun s =>
    if s.mhiResetWindowStart + c.mhiResetWindow < now then
      { s with mhiResetWindowStart := now, mhiResetCount := 0 }
    else s
  let s ← get
  if c.mhiResetMax ≤ s.mhiResetCount then pure .notRun
  else do
    modify fun s => { s with mhiResetCount := s.mhiResetCount + 1 }
    act (.start (.mhiReset now) false)
    if ← observe World.mhiReset then do
      modify fun s =>
        { s with
          mhiResetCount := 0, mhiResetWindowStart := 0, consecBad := 0, failedCycles := 0,
          cfunCycles := 0 }
      let now ← date
      modify (graceAfter c now)
      pure .restored
    else do
      let now ← date
      modify (graceAfter c now)
      pure .failed

/-! ## Hard reset -/

def rollResetWindow (c : Config) (now : Nat) (s : State) : State :=
  if s.resetWindowStart + c.modemResetWindow < now then
    { s with resetWindowStart := now, resetCount := 0 }
  else s

def resetRefused (c : Config) (now : Nat) (s : State) : Bool :=
  c.modemResetMax ≤ s.resetCount && now < s.lastHardReset + c.modemResetBackoff

def countReset (now : Nat) (s : State) : State :=
  { s with resetCount := s.resetCount + 1, lastHardReset := now, resetRefusedLogged := false }

/-- The variables after `gl-cellular-modem-reset` has succeeded. -/
def afterReset (c : Config) (uptime now : Nat) (s : State) : State :=
  graceAfter c now
    { s with
      simWasLocked := false, simLockedTicks := 0, cpinValid := false, atDead := 0, consecBad := 0,
      deadPlaneTicks := 0, failedCycles := 0, cfunCycles := 0, mhiResetCount := 0,
      mhiResetWindowStart := 0, redialCount := 0, windowStart := 0,
      relockQuietUntil := uptime + relockQuiet, log := s.log ++ [.resetDone] }

def modemHardReset (c : Config) (nested : Bool) : Prog Bool := do
  if ← administrativelyEnabled then do
    let now ← date
    modify (rollResetWindow c now)
    let s ← get
    if resetRefused c now s then do
      modify fun s => { s with resetRefusedLogged := true }
      onlyIf c.modemResetReboot (act .reboot)
      pure false
    else do
      modify (countReset now)
      act (.start (.hardReset now) nested)
      if ← observe World.modemReset then do
        let up ← observe World.uptime
        let now ← date
        modify (afterReset c up now)
        pure true
      else pure false
  else pure false

/-! ## Radio power cycle -/

/-- `AT+CFUN=1` until `AT+CFUN?` reports it, up to `n` times. -/
def radioOn : Nat → Prog Unit
  | 0 => pure ()
  | n + 1 => do
    if ← cfunIsFull then pure ()
    else do
      act (.setCfun 1)
      radioOn n

/-- `false` is a refusal: the cooldown is not over. -/
def doCfunCycle (c : Config) : Prog Bool := do
  let now ← date
  let s ← get
  if now < s.lastCfun + c.cfunCooldown then pure false
  else do
    modify fun s => { s with lastCfun := now }
    act (.start (.cfunCycle now) false)
    act (.setCfun 4)
    radioOn 5
    if ← cfunIsFull then do
      modify fun s => { s with failedCycles := 0 }
      let _ ← doRedial c true
      pure true
    else do
      let _ ← modemHardReset c true
      pure true

/-! ## Ladder -/

/-- `do_redial && failed_cycles=$((failed_cycles + 1))`. -/
def redialRung (c : Config) : Prog Unit := do
  if ← doRedial c false then modify fun s => { s with failedCycles := s.failedCycles + 1 }
  else pure ()

def climb (c : Config) : Prog Unit := do
  let s ← get
  if c.cfunBeforeReset ≤ s.cfunCycles then do
    let _ ← modemHardReset c false
    pure ()
  else if ← doCfunCycle c then modify fun s => { s with cfunCycles := s.cfunCycles + 1 }
  else redialRung c

def escalate (c : Config) : Prog Unit := do
  let s ← get
  if s.failedCycles + 1 < c.cfunAfterCycles then redialRung c
  else if ← lteFallbackEnter c then redialRung c
  else do
    let outcome ← mhiPathReset c
    if outcome = .notRun then climb c else pure ()

/-- `false` is a hard reset that did not work out. -/
def deadPlaneRecover (c : Config) : Prog Bool := do
  let now ← date
  let s ← get
  if c.deadPlaneCfun && !s.deadPlaneCfun && s.lastCfun + c.cfunCooldown ≤ now then do
    modify fun s => { s with deadPlaneCfun := true }
    let _ ← doCfunCycle c
    pure true
  else modemHardReset c false

/-! ## Loss of attach -/

def detachNote : Prog Unit := do
  let now ← date
  modify fun s =>
    { s with
      detachTimes := (s.detachTimes ++ [now]).filter fun t => now < t + 3600
      detachGaps :=
        if 0 < s.attachedAt then
          let gaps := s.detachGaps ++ [now - s.attachedAt]
          gaps.drop (gaps.length - 10)
        else s.detachGaps
      attachedAt := 0 }

def attachReturned : Prog Unit := do
  let s ← get
  if s.nosignalLogged then do
    let now ← date
    modify fun s => { s with nosignalLogged := false, attachedAt := now }
  else pure ()

def afterAttachLost (now : Nat) (s : State) : State :=
  { s with
    attachLostSince := now, attachLostWait := min (s.attachLostWait * 3) attachLostCfunMax }

def attachLostWatch (c : Config) : Prog Unit := do
  if c.attachLostCfun = 0 then pure ()
  else if ← observe World.flashing then pure ()
  else do
    let s ← get
    if !cpinReady s.cpin then modify fun s => { s with attachLostSince := 0 }
    else do
      let now ← date
      if s.attachLostSince = 0 then modify fun s => { s with attachLostSince := now }
      else if now < s.attachLostSince + s.attachLostWait then pure ()
      else if now < s.lastCfun + c.cfunCooldown then pure ()
      else if ← cfunIsFull then do
        modify fun s => { s with attachLostCycles := s.attachLostCycles + 1 }
        let _ ← doCfunCycle c
        let now ← date
        modify (afterAttachLost now)
      else pure ()

/-! ## SIM re-locks -/

/-- The wait for a data path after a re-lock. Each round sleeps five seconds of the ninety it has;
`none` is the end of the wait. -/
def relockWait (c : Config) (start : Nat) : Nat → Prog (Option Bool)
  | 0 => pure none
  | n + 1 => do
    let up ← observe World.uptime
    if start + 90 ≤ up then pure none
    else if ← administrativelyEnabled then do
      cpinQuery
      let s ← get
      if !cpinReady s.cpin then pure (some false)
      else do
        let wwan ← observe fun w => (w.up, w.device)
        if wwan.1 && !wwan.2.isEmpty then do
          if ← reachable wwan.2 then pure (some true) else relockWait c start n
        else do
          let up ← observe World.uptime
          if up < start + 30 then relockWait c start n
          else do
            let attach ← modemAttached
            if attach ≠ "1" then relockWait c start n
            else if ← observe World.qmiIpv4 then do
              let r ← modemHardReset c true
              pure (some r)
            else relockWait c start n
    else pure (some false)

def relockReconnect (c : Config) : Prog Bool := do
  if ← administrativelyEnabled then do
    cpinQuery
    let s ← get
    if !cpinReady s.cpin then pure false
    else do
      act (.start .reconnect false)
      if ← observe World.wwanReconnect then do
        modify fun s => { s with simWasLocked := false, simLockedTicks := 0, cpinValid := false }
        let start ← observe World.uptime
        match ← relockWait c start 18 with
        | some r => pure r
        | none =>
          if ← administrativelyEnabled then modemHardReset c true else pure false
      else pure false
  else pure false

/-- `AT+CPIN?` again, up to `n` times, after a nudge that found the modem silent. -/
def reaskCpin : Nat → Prog Unit
  | 0 => pure ()
  | n + 1 => do
    let s ← get
    if s.cpin.isEmpty && s.svcNudged then do
      cpinQuery
      reaskCpin n
    else pure ()

/-- After boot or a reset, `qcm.sh` enters the PIN at the first sighting of the lock. -/
def leftToGate : Prog Bool := do
  let s ← get
  if 2 ≤ s.simLockedTicks then pure false
  else if s.tickUp < 180 then pure true
  else do
    let up ← observe World.uptime
    pure (up < s.relockQuietUntil)

def relocked (c : Config) : Prog Unit := do
  modify fun s => { s with simLockedTicks := s.simLockedTicks + 1 }
  if ← leftToGate then pure ()
  else do
    modify fun s => { s with simWasLocked := true }
    let pin ← observe (·.uci.pincode)
    if pin.isEmpty then pure ()
    else do
      let failed ← observe (·.uci.pinFailed)
      if failed = "1" then pure ()
      else do
        let now ← observe World.uptime
        let s ← get
        if now < s.lastPinBounce + c.relockMinGap then pure ()
        else do
          act .simUnlock
          if ← observe World.simUnlock then do
            modify fun s => { s with lastPinBounce := now }
            if ← administrativelyEnabled then do
              modify fun s => { s with relockHandled := true }
              let _ ← relockReconnect c
              pure ()
            else pure ()
          else modify fun s => { s with cpinValid := false, recheckCpin := true }

def simLockWatch (c : Config) : Prog Unit := do
  if ← administrativelyEnabled then do
    cpinRefresh
    reaskCpin 3
    let s ← get
    if s.cpin.has "SIM PIN" then relocked c
    else if cpinReady s.cpin then do
      modify fun s => { s with simLockedTicks := 0 }
      if s.simWasLocked then do
        modify fun s => { s with simWasLocked := false, relockHandled := true }
        let _ ← relockReconnect c
        pure ()
      else pure ()
    else pure ()
  else modify fun s => { s with simWasLocked := false, simLockedTicks := 0 }

def simReinitWatch (c : Config) : Prog Unit := do
  let marker ← observe World.reinit
  if marker.isEmpty then pure ()
  else if ← administrativelyEnabled then do
    cpinQuery
    let s ← get
    if cpinLocked s.cpin then pure ()
    else if s.relockHandled then pure ()
    else if s.tickUp < 180 then pure ()
    else do
      let up ← observe World.uptime
      if up < s.relockQuietUntil then pure ()
      else do
        modify fun s => { s with simWasLocked := false, simLockedTicks := 0 }
        let _ ← relockReconnect c
        pure ()
  else pure ()

end GlXe3000.Cellular.Watchdog
