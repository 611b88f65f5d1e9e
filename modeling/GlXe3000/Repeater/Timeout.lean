import GlXe3000.Lib.Machine
import GlXe3000.Repeater.Config

/-! # The retry daemon: `gl-repeater-timeout`

The daemon disables a station that does not come up, and enables it again later. It shares the wireless
package and a few files under `/tmp` with the methods of `repeater.lua`, which take no lock. Every step
is one access to what they share, so a call can come between any two. -/

namespace GlXe3000.Repeater.Timeout
open Text

def connectTimeout : Nat := 20
def retryInterval : Nat := 30
def retryBackoffMax : Nat := 300
def knownConnectTimeout : Nat := 60
def knownRetryInterval : Nat := 20
def knownWindow : Nat := 1800
def autofixMax : Nat := 3

/-- The files under `/tmp`. -/
structure Files where
  retryAt : Option Nat
  /-- There is a `gl-repeater-fail-type`. -/
  fail : Bool
  retryCount : Option Nat
  autofixCount : Option Nat
  known : Option (Text × Nat)

structure World where
  config : Config
  files : Files
  /-- What `date +%s` prints. -/
  now : Nat

/-! ## The daemon -/

inductive Pc
  | top
  | noStation
  | checkRetry
  | readRetry
  | lockRetry (tries : Nat)
  | enable
  | clearRetry
  | checkDisabled
  | checkUp
  | noteUp
  | resetCount
  | timing
  | autofix (now : Nat) (known : Bool)
  | lockAutofix (now : Nat) (known : Bool) (type : Text) (count tries : Nat)
  | applyEap (now : Nat) (type : Text) (count : Nat)
  | countAutofix (now count : Nat)
  | lockTimeout (now : Nat) (known : Bool) (tries : Nat)
  | disable (now : Nat) (known : Bool)
  | readCount (now : Nat) (known : Bool)
  | writeCount (now : Nat) (known : Bool) (retries : Nat)
  | writeFail (now : Nat) (known : Bool) (retries : Nat)
  | writeRetry (now : Nat) (known : Bool) (retries : Nat)
  deriving DecidableEq

structure Daemon where
  pc : Pc
  /-- `sta_section`. -/
  station : Text
  connectingSince : Option Nat
  /-- `last_nak_line`, by its position in the log. -/
  lastNak : Option Nat
  deriving DecidableEq

structure Nak where
  line : Nat
  method : Nat
  deriving DecidableEq

/-- What the daemon is answered: whether the lock is free, whether the link is up, and the log. -/
structure Reply where
  free : Bool
  up : Bool
  nak : Option Nak
  deriving DecidableEq

def eapTypeForMethod : Nat → Option Text
  | 13 => some "tls"
  | 21 => some "ttls"
  | 25 => some "peap"
  | 43 => some "fast"
  | _ => none

def isKnown (w : World) (station : Text) : Bool :=
  w.files.known.any fun known =>
    known.1 ≠ [] && w.config.wireless.get station "ssid" = some (.text known.1) &&
      w.now - known.2 < knownWindow

def timeoutOf (known : Bool) : Nat := if known then knownConnectTimeout else connectTimeout

def backoff (retries : Nat) : Nat := min retryBackoffMax (retryInterval * retries)

namespace World

def setFiles (w : World) (files : Files) : World := { w with files := files }

def setWireless (w : World) (wireless : Package) : World :=
  { w with config := { w.config with wireless := wireless } }

def isDisabled (w : World) (station : Text) : Bool :=
  isOn (w.config.wireless.get station "disabled")

end World

/-- What `try_eap_autofix` would write: the type, and the number of corrections so far. -/
def autofixOf (w : World) (d : Daemon) (nak : Option Nak) : Option (Text × Nat) := do
  let nak ← nak
  if d.lastNak = some nak.line then none
  else
    let type ← eapTypeForMethod nak.method
    let count := w.files.autofixCount.getD 0
    if w.config.wireless.get d.station "eap_type" = some (.text type) || autofixMax ≤ count then
      none
    else some (type, count)

/-- `apply_eap_type`. -/
def withEap (p : Package) (station type : Text) : Package :=
  let p := p.set station "eap_type" (.text type)
  if (p.get station "auth").isNone then p.set station "auth" (.text "MSCHAPV2")
  else p

/-- `with_net_lock`: ten attempts. -/
def nextTry (free : Bool) (tries : Nat) (held busy : Pc) (again : Nat → Pc) : Pc :=
  if free then held else if 10 ≤ tries + 1 then busy else again (tries + 1)

namespace Daemon
variable (d : Daemon)

def goto (pc : Pc) : Daemon := { d with pc := pc }

def reset (pc : Pc) : Daemon := { d with pc := pc, connectingSince := none, lastNak := none }

def expire (now : Nat) (known : Bool) : Daemon :=
  d.goto (if timeoutOf known ≤ now - d.connectingSince.getD 0 then .lockTimeout now known 0 else .top)

/-- One access of the daemon. `max` is `MAX_RETRIES`. -/
def step (max : Nat) (e : Reply) (w : World) : World × Daemon :=
  match d.pc with
  | .top =>
    match repeaterIface w.config.wireless with
    | none => (w, { d.reset .noStation with station := [] })
    | some station => (w, { d.goto .checkRetry with station := station })
  | .noStation => (w.setFiles { w.files with fail := false, retryAt := none }, d.goto .top)
  | .checkRetry => (w, d.goto (if w.files.retryAt.isSome then .readRetry else .checkDisabled))
  | .readRetry => (w, d.goto (if w.files.retryAt.getD 0 ≤ w.now then .lockRetry 0 else .top))
  | .lockRetry tries => (w, d.goto (nextTry e.free tries .enable .top .lockRetry))
  | .enable => (w.setWireless (setDisabled w.config.wireless d.station false), d.goto .clearRetry)
  | .clearRetry => (w.setFiles { w.files with retryAt := none }, d.goto .top)
  | .checkDisabled => if w.isDisabled d.station then (w, d.reset .top) else (w, d.goto .checkUp)
  | .checkUp => if e.up then (w, d.reset .noteUp) else (w, d.goto .timing)
  | .noteUp =>
    (w.setFiles { w.files with
      known := some (((w.config.wireless.getText d.station "ssid").getD []), w.now) },
      d.goto .resetCount)
  | .resetCount =>
    (w.setFiles { w.files with fail := false, autofixCount := none, retryCount := none }, d.goto .top)
  | .timing =>
    if d.connectingSince.isNone then
      (w.setFiles { w.files with fail := false }, { d.goto .top with connectingSince := some w.now })
    else (w, d.goto (.autofix w.now (isKnown w d.station)))
  | .autofix now known =>
    let d' := { d with lastNak := (e.nak.map Nak.line).or d.lastNak }
    match autofixOf w d e.nak with
    | none => (w, d'.expire now known)
    | some (type, count) => (w, d'.goto (.lockAutofix now known type count 0))
  | .lockAutofix now known type count tries =>
    if e.free then (w, d.goto (.applyEap now type count))
    else if 10 ≤ tries + 1 then (w, { d with lastNak := none }.expire now known)
    else (w, d.goto (.lockAutofix now known type count (tries + 1)))
  | .applyEap now type count =>
    (w.setWireless (withEap w.config.wireless d.station type), d.goto (.countAutofix now count))
  | .countAutofix now count =>
    (w.setFiles { w.files with autofixCount := some (count + 1) },
      { d.goto .top with connectingSince := some now })
  | .lockTimeout now known tries =>
    (w, d.goto (nextTry e.free tries (.disable now known) .top (.lockTimeout now known)))
  | .disable now known =>
    (w.setWireless (setDisabled w.config.wireless d.station true), d.goto (.readCount now known))
  | .readCount now known => (w, d.goto (.writeCount now known (w.files.retryCount.getD 0 + 1)))
  | .writeCount now known retries =>
    (w.setFiles { w.files with retryCount := some retries }, d.goto (.writeFail now known retries))
  | .writeFail now known retries =>
    (w.setFiles { w.files with fail := true }, d.reset (.writeRetry now known retries))
  | .writeRetry now known retries =>
    let retryAt :=
      if known then some (now + knownRetryInterval)
      else if max ≤ retries then none
      else some (now + backoff retries)
    (w.setFiles { w.files with retryAt := retryAt }, d.goto .top)

end Daemon

/-! ## The calls -/

inductive Act
  /-- `clear_retry_state`. -/
  | clear
  | disable
  | enable
  | apply (env : Env) (args : Json)
  | setBand (args : Json)

inductive Call
  | disconnect
  | connect
  /-- `connect` with an SSID. -/
  | connectTo (env : Env) (args : Json)
  /-- `set_config` with an SSID. -/
  | select (env : Env) (args : Json)
  /-- `set_config` without one. -/
  | setBand (args : Json)

def Call.acts : Call → List Act
  | .disconnect => [.clear, .disable]
  | .connect => [.clear, .enable]
  | .connectTo env args => [.clear, .apply env args]
  | .select env args => [.apply env args]
  | .setBand args => [.setBand args]

def Call.selects : Call → Bool
  | .connect | .connectTo _ _ | .select _ _ => true
  | .disconnect | .setBand _ => false

def Act.perform (w : World) : Act → World
  | .clear => w.setFiles { w.files with
      retryAt := none, fail := false, autofixCount := none, retryCount := none }
  | .disable => { w with config := disableUplink w.config }
  | .enable => { w with config := (enableUplink w.config).2 }
  | .apply env args => { w with config := (applyConfig env args w.config).2 }
  | .setBand args => { w with config := (Repeater.setBand args w.config).2 }

/-! ## All of them at once -/

inductive Note
  | selected
  | up
  | failed
  /-- The daemon enables the station. Had a `disconnect` returned, with no such call since; and what
  was the retry written for: after which time, and for a known network? -/
  | enabled (disconnected : Bool) (retry : Option (Nat × Bool))
  deriving DecidableEq

structure State where
  world : World
  daemon : Daemon
  acts : List Act
  /-- A `disconnect` has returned, and the user has not connected or selected a network since. -/
  disconnected : Bool
  retry : Option (Nat × Bool)
  log : List Note

inductive Event
  | call (c : Call)
  | act
  | daemon (e : Reply)
  | clock (now : Nat)

namespace State
variable (max : Nat) (s : State)

def startCall (c : Call) : State :=
  match s.acts with
  | _ :: _ => s
  | [] =>
    { s with
      acts := c.acts
      disconnected := s.disconnected && !c.selects
      log := if c.selects then .selected :: s.log else s.log }

def act : State :=
  match s.acts with
  | [] => s
  | a :: acts =>
    { s with
      world := a.perform s.world
      acts := acts
      disconnected := match a with
        | .disable => true
        | .enable | .apply _ _ => false
        | .clear | .setBand _ => s.disconnected
      retry := match a with
        | .clear => none
        | _ => s.retry }

def notes (e : Reply) : List Note :=
  match s.daemon.pc with
  | .checkUp => if e.up then [.up] else []
  | .writeCount _ _ _ => [.failed]
  | .enable => [.enabled s.disconnected s.retry]
  | _ => []

def nextRetry : Option (Nat × Bool) :=
  match s.daemon.pc with
  | .noStation | .enable | .clearRetry => none
  | .writeRetry _ known retries =>
    if known then some (knownRetryInterval, true)
    else if max ≤ retries then none
    else some (backoff retries, false)
  | _ => s.retry

def runDaemon (e : Reply) : State :=
  { s with
    world := (s.daemon.step max e s.world).1
    daemon := (s.daemon.step max e s.world).2
    retry := s.nextRetry max
    log := s.notes e ++ s.log }

def step : Event → State
  | .call c => s.startCall c
  | .act => s.act
  | .daemon e => s.runDaemon max e
  | .clock now => { s with world := { s.world with now := now } }

end State

def machine (max : Nat) : Machine State Event := ⟨State.step max⟩

end GlXe3000.Repeater.Timeout
