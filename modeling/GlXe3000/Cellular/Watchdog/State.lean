import GlXe3000.Lib.Observer
import GlXe3000.Cellular.Uci

/-! # `gl-cellular-boot-redial`: settings, variables and what the script looks at

The variables are the script's globals under its own names. A comparison `a - b -gt c` of the script
is written `b + c < a`: its variables never go below zero, but its differences do. What the script
only writes to the system log is left out, and with it `log_diag`, `modem_ip` and the text of
`detach_note`; `sync_mtu` runs once before the loop and is off by default. -/

namespace GlXe3000.Cellular.Watchdog

/-- The options of `gl-cellular.watchdog`, with their defaults. -/
structure Config where
  offlineThreshold : Nat := 5
  triggerWindow : Nat := 300
  triggerMax : Nat := 3
  blockSec : Nat := 300
  graceSec : Nat := 180
  cfunAfterCycles : Nat := 2
  cfunCooldown : Nat := 1800
  cfunRecheckTicks : Nat := 20
  atDeadTicks : Nat := 3
  cfunBeforeReset : Nat := 1
  mhiResetMax : Nat := 0
  mhiResetWindow : Nat := 1800
  lteFallback : Bool := false
  lteFallbackAfter : Nat := 2
  lteFallbackHold : Nat := 900
  modemResetMax : Nat := 3
  modemResetWindow : Nat := 3600
  modemResetBackoff : Nat := 900
  deadPlaneTicks : Nat := 3
  deadPlaneCfun : Bool := true
  attachLostCfun : Nat := 600
  modemResetReboot : Bool := false
  relockMinGap : Nat := 45

def attachLostCfunMax : Nat := 3600
def cpinEvery : Nat := 30
def relockQuiet : Nat := 120

inductive AtCommand
  | at | cpin | cgatt | cfun | qccid
  /-- `AT+CFUN=n`. -/
  | setCfun (n : Nat)
  deriving DecidableEq

/-- One look at everything the script does not own. Of a command it is the exit status, were it run
now. -/
structure World where
  /-- `date +%s`. -/
  clock : Nat
  /-- The whole seconds of `/proc/uptime`. -/
  uptime : Nat
  /-- `/var/run/gl-cellular-flashing` exists. -/
  flashing : Bool
  /-- `/var/run/gl-cellular-svc-lost` exists. -/
  svcLost : Bool
  /-- The content of `/var/run/gl-cellular-sim-reinit`. -/
  reinit : Text
  uci : Uci
  scanStartedAt : Text
  lastIccid : Text
  /-- `@.up` of `wwan_4` is `true`. -/
  up : Bool
  /-- `@.l3_device` of `wwan_4`. -/
  device : Text
  rxBytes : Text → Option Nat
  reply : AtCommand → Text
  bearerDns : List Text
  ping : Text → Text → Bool
  curl : Bool
  fetch : Text → Text → Bool
  /-- `/dev/mhi_QMI0` is there. -/
  qmiNode : Bool
  /-- `/var/run/gl-cellular-qmi-ipv4` is readable. -/
  qmiIpv4 : Bool
  /-- `/var/run/gl-cellular-rat.state` exists. -/
  ratState : Bool
  /-- `flock -n` on `/var/run/gl-net-reconfig.lock`. -/
  netLock : Bool
  wwanReconnect : Bool
  mhiReset : Bool
  modemReset : Bool
  simUnlock : Bool

inductive Rung
  | redial (now : Nat)
  | mhiReset (now : Nat)
  | cfunCycle (now : Nat)
  /-- `gl-cellular-wwan-reconnect` after a SIM re-lock or re-initialisation. -/
  | reconnect
  /-- `gl-cellular-modem-reset`. -/
  | hardReset (now : Nat)
  deriving DecidableEq

inductive Entry
  /-- A rung; `nested` is one that another rung hands over to. -/
  | start (r : Rung) (nested : Bool)
  | backOff
  /-- `gl-cellular-modem-reset` succeeded. -/
  | resetDone
  /-- `AT+CFUN=n`. -/
  | setCfun (n : Nat)
  | ifdown
  | ifup
  | simUnlock
  | ratFallback
  | ratRestore
  | reboot
  | clearScan
  | setPdpType
  | setLastIccid (iccid : Text)
  /-- `reset_state` of a tick that finds the connection switched off or the SIM locked. -/
  | standDown
  | good
  deriving DecidableEq

structure State where
  consecBad : Nat := 0
  redialCount : Nat := 0
  windowStart : Nat := 0
  blockedUntil : Nat := 0
  graceUntil : Nat := 0
  redialPending : Bool := false
  failedCycles : Nat := 0
  cfunCycles : Nat := 0
  lastCfun : Nat := 0
  lastDevice : Text := []
  lastRx : Option Nat := none
  nosignalLogged : Bool := false
  nosignalTicks : Nat := 0
  atDead : Nat := 0
  qmiMissing : Nat := 0
  resetCount : Nat := 0
  resetWindowStart : Nat := 0
  lastHardReset : Nat := 0
  resetRefusedLogged : Bool := false
  mhiResetCount : Nat := 0
  mhiResetWindowStart : Nat := 0
  lteFallbackCount : Nat := 0
  lteFallbackSince : Nat := 0
  deadPlaneTicks : Nat := 0
  deadPlaneCfun : Bool := false
  attachLostSince : Nat := 0
  attachLostWait : Nat
  attachLostCycles : Nat := 0
  detachTimes : List Nat := []
  detachGaps : List Nat := []
  attachedAt : Nat := 0
  cpin : Text := []
  cpinValid : Bool := false
  cpinAt : Nat := 0
  recheckCpin : Bool := true
  simLockedTicks : Nat := 0
  simWasLocked : Bool := false
  lastPinBounce : Nat := 0
  relockQuietUntil : Nat := 0
  relockHandled : Bool := false
  tickUp : Nat := 0
  svcNudged : Bool := false
  clock : Nat := 0
  log : List Entry := []

def initial (c : Config) : State := { attachLostWait := c.attachLostCfun }

abbrev Prog := Observer World State

export Observer (observe get modify onlyIf anyOf)

def date : Prog Nat := observe World.clock

def act (e : Entry) : Prog Unit := modify fun s => { s with log := s.log ++ [e] }

def query (cmd : AtCommand) : Prog Text := observe (World.reply · cmd)

end GlXe3000.Cellular.Watchdog
