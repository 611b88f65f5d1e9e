import GlXe3000.Lib.Process
import GlXe3000.Cellular.Uci

/-! # The scripts that take wwan down and up

Every script and RPC worker that runs `ifdown wwan` or `ifup wwan`, as a process over the state they
share: the configuration, `/var/run/gl-net-reconfig.lock`, `/var/run/gl-cellular-flashing` and the
modem's PCIe function. A `uci get`, a `flock -n` or a write to sysfs is one action. What the modem,
netifd or the kernel would say is a `Question`; a loop that only polls such an answer (attach, QMI
node, traffic) is one question, since its polls change nothing. -/

namespace GlXe3000.Cellular.Wwan

inductive Question
  | modemFound | removeSucceeded | qmiNode | attached | scanStale | simReady | wwanUp | debugfs
  | channelsReset | controllerReset | deviceBack | trafficBack | scanAnswered | flashedInFull
  deriving DecidableEq

inductive Act
  /-- `[ -e /var/run/gl-cellular-flashing ]`. -/
  | flashing
  /-- `[ "$(uci -q get ...)" != value ]`. -/
  | get (g : Gate)
  /-- Two options of one `uci -q show`. -/
  | getBoth (g h : Gate)
  | setScan (v : Text)
  /-- `flock -n 9`. -/
  | flock
  | unlock
  | ifdown | ifup
  | ask (q : Question)
  /-- `( exec 9>&-; echo 1 > remove ) &`. -/
  | remove
  /-- `kill -0 "$rm_pid"`. -/
  | removeAlive
  | rescan
  /-- `echo $$ > $FLASHING` and `rm -f $FLASHING`. -/
  | raise | lower
  /-- Start the background worker of `at.command`, with its `redial_wwan` option. -/
  | spawnWorker (redial : Bool)
  deriving DecidableEq

abbrev Answer : Act → Type
  | .getBoth _ _ => Bool × Bool
  | .setScan _ | .unlock | .remove | .raise | .lower | .spawnWorker _ => Unit
  | _ => Bool

abbrev Script := Proc Act Answer

def flashing : Script Bool := .perform Act.flashing
def get (g : Gate) : Script Bool := .perform (Act.get g)
def getBoth (g h : Gate) : Script (Bool × Bool) := .perform (Act.getBoth g h)
def setScan (v : Text) : Script Unit := .perform (Act.setScan v)
def flock : Script Bool := .perform Act.flock
def unlock : Script Unit := .perform Act.unlock
def ifdown : Script Bool := .perform Act.ifdown
def ifup : Script Bool := .perform Act.ifup
def ask (q : Question) : Script Bool := .perform (Act.ask q)
def remove : Script Unit := .perform Act.remove
def removeAlive : Script Bool := .perform Act.removeAlive
def rescan : Script Bool := .perform Act.rescan
def raise : Script Unit := .perform Act.raise
def lower : Script Unit := .perform Act.lower
def spawnWorker (redial : Bool) : Script Unit := .perform (Act.spawnWorker redial)

/-- `until flock -n 9; do ...; done`, with at most `n` attempts. -/
def acquire : Nat → Script Bool
  | 0 => return false
  | n + 1 => do
    if ← flock then return true
    acquire n

/-- The four tests `gl-cellular-wwan-reconnect` and `gl-cellular-modem-reset` make. -/
def gatesOpen : Script Bool := do
  unless ← get .auto do return false
  unless ← get .disabled do return false
  unless ← get .dialEnabled do return false
  get .scanInProgress

/-! ## `gl-cellular-modem-reset` -/

/-- The loop over `kill -0`: whether the remove ended within `n` polls. -/
def removeEnded : Nat → Script Bool
  | 0 => return false
  | n + 1 => do
    unless ← removeAlive do return true
    removeEnded n

/-- The return codes 0, 1 and 2 of `cycle_function`. -/
inductive Cycle
  | back | missing | failed
  deriving DecidableEq

def cycleFunction : Script Cycle := do
  remove
  unless ← removeEnded 20 do return .failed
  unless ← ask .removeSucceeded do return .failed
  unless ← rescan do return .failed
  if ← ask .qmiNode then return .back
  return .missing

def cycleAgain : Cycle → Script Cycle
  | .missing => do
    unless ← ask .modemFound do return .missing
    cycleFunction
  | rc => return rc

def restoreWwan : Script Bool := do
  unless ← gatesOpen do return false
  ifup

def modemReset : Script Bool := do
  if ← flashing then return false
  unless ← ask .modemFound do return false
  unless ← acquire 30 do return false
  unless ← gatesOpen do return false
  unless ← ifdown do return false
  let rc ← cycleFunction
  let rc ← cycleAgain rc
  let restored ← restoreWwan
  return rc = .back && restored

/-! ## `gl-cellular-wwan-reconnect` -/

def wwanReconnect : Script Bool := do
  if ← flashing then return false
  unless ← acquire 20 do return false
  unless ← gatesOpen do return false
  unless ← ifdown do return false
  let _ ← ask .attached
  unless ← gatesOpen do return false
  ifup

/-! ## The subshell of `do_redial` -/

def administrativelyEnabled : Script Bool := do
  let (auto, disabled) ← getBoth .auto .disabled
  unless auto && disabled do return false
  let (dial, scan) ← getBoth .dialEnabled .scanInProgress
  unless dial do return false
  if scan then return true
  unless ← ask .scanStale do return false
  setScan []
  return true

def enabled : Script Bool := do
  unless ← administrativelyEnabled do return false
  ask .simReady

def doRedial : Script Bool := do
  unless ← acquire 10 do return false
  let _ ← ifdown
  let _ ← ask .attached
  unless ← enabled do return true
  ifup

/-! ## `gl-cellular-mhi-reset reset` -/

/-- It looks at `auto` and `disabled`, not at `dial_enabled`, and not again after the attach wait. -/
def redialIfDown : Script Bool := do
  if ← ask .wwanUp then return false
  unless ← get .auto do return false
  unless ← get .disabled do return false
  let _ ← ifdown
  let _ ← ask .attached
  let _ ← ifup
  return true

/-- `redial_if_down || { ifup wwan; }`. -/
def redialOrUp : Script Unit := do
  if ← redialIfDown then return
  let _ ← ifup
  return

def channelReset : Script Bool := do
  unless ← ask .channelsReset do return false
  if ← ask .trafficBack then return true
  unless ← redialIfDown do return false
  ask .trafficBack

def controllerReset : Script Bool := do
  unless ← ask .controllerReset do return false
  let _ ← ask .deviceBack
  redialOrUp
  ask .trafficBack

def mhiReset : Script Bool := do
  if ← flashing then return false
  unless ← acquire 15 do return false
  unless ← ask .debugfs do return false
  if ← channelReset then return true
  controllerReset

/-! ## The RPCs, through `gl-cellular-net-run` -/

def netRun (command : Script Bool) : Script Bool := do
  unless ← acquire 30 do return false
  let status ← command
  unlock
  return status

/-- `modem.disconnect`, after it has stored `dial_enabled=0`. -/
def disconnect : Script Bool := netRun ifdown

/-- The reconnect at the end of `modem.set_sim_pin_code`. -/
def pinBounce : Script Bool := netRun do
  let _ ← ifdown
  ifup

/-- The worker of `at.command`: it redials after the scan, whatever became of the request. -/
def scanWorker (redial : Bool) : Script Bool := do
  let _ ← ask .scanAnswered
  unless redial do return true
  netRun ifup

def scanPause (redial : Bool) : Script Bool := do
  unless redial do return true
  netRun ifdown

def scanOperatorList : Script Bool := do
  let redial ← get .dialEnabled
  setScan ['1']
  let _ ← scanPause redial
  spawnWorker redial
  let answered ← ask .scanAnswered
  setScan ['0']
  unless !answered && redial do return true
  netRun ifup

/-! ## `upgrade_cellular` -/

/-- After a full image the router reboots with the flag in place; in every other case
`cellular_stack_start` removes it and brings wwan up. -/
def upgradeCellular : Script Bool := do
  raise
  let _ ← ifdown
  if ← ask .flashedInFull then return true
  lower
  ifup

/-! ## Coverage of the loops -/

section
variable {uses : Act → Prop} {checks : (a : Act) → Answer a → Prop} {Q : Bool → Prop}

theorem covered_acquire (hf : ¬uses .flock) (hQ : ∀ b, Q b) (n : Nat) :
    Proc.Covered uses checks (acquire n) Q := by
  induction n with
  | zero => exact hQ false
  | succ n ih =>
    refine ⟨hf, fun r => .inr ?_⟩
    cases r with
    | false => exact ih
    | true => exact hQ true

theorem covered_netRun {command : Script Bool} (hf : ¬uses .flock) (hu : ¬uses .unlock)
    (hc : Proc.Covered uses checks command fun _ => True) (hQ : ∀ b, Q b) :
    Proc.Covered uses checks (netRun command) Q := by
  refine Proc.Covered.bind_iff.2 (covered_acquire hf (fun b => ?_) 30)
  cases b with
  | false => exact hQ false
  | true =>
    refine Proc.Covered.bind_iff.2 (hc.mono fun status _ => ?_)
    exact ⟨hu, fun _ => .inr (hQ status)⟩

end

/-! ## Jobs -/

inductive Job
  | modemReset | wwanReconnect | doRedial | mhiReset | disconnect | pinBounce | scanOperatorList
  | upgradeCellular
  deriving DecidableEq

def Job.script : Job → Script Bool
  | .modemReset => Wwan.modemReset
  | .wwanReconnect => Wwan.wwanReconnect
  | .doRedial => Wwan.doRedial
  | .mhiReset => Wwan.mhiReset
  | .disconnect => Wwan.disconnect
  | .pinBounce => Wwan.pinBounce
  | .scanOperatorList => Wwan.scanOperatorList
  | .upgradeCellular => Wwan.upgradeCellular

end GlXe3000.Cellular.Wwan
