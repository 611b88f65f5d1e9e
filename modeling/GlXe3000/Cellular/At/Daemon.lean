import GlXe3000.Lib.Machine
import GlXe3000.Lib.Text

/-! # `gl-cellular-atd`: the AT port and `send_at`

The daemon, its callers and the modem at the other end of the port. The daemon's coroutines only
yield in a read or a sleep, so a step is what happens between two of these. The modem's lines carry
the number of the command they answer; the daemon sees nothing but their text. The first five
commands of the daemon's life, which it sends before it registers with `ubus`, are calls like any
other. -/

namespace GlXe3000.Cellular.At
open Text

inductive Kind
  | urc
  /-- A line of the answer to command `k` that is not its result code. -/
  | part (k : Nat)
  /-- The final result code of command `k`. -/
  | final (k : Nat)
  deriving DecidableEq

structure Line where
  kind : Kind
  text : Text
  deriving DecidableEq

/-- `^OK%s*$`, `^ERROR` or `^%+CME ERROR`: where the read loop stops. -/
def looksFinal (t : Text) : Bool :=
  (match strip "OK" t with
    | some rest => rest.all isSpace
    | none => false) ||
  (strip "ERROR" t).isSome || (strip "+CME ERROR" t).isSome

def timeoutFloor (cmd : Text) : Nat :=
  if (strip "AT+CGACT=" cmd).isSome then 160
  else if (strip "AT+COPS=" cmd).isSome then 200
  else if (strip "AT+QSCAN" cmd).isSome then 380
  else 0

/-! ## Unsolicited reports -/

inductive Reaction
  | none
  /-- `nudge_watchdog`. -/
  | nudge (reason : Text)
  /-- `note_sim_reinit`: write the marker, then nudge. -/
  | reinit (why : Text)
  deriving DecidableEq

/-- `,%s*0%s*$`. -/
def endsInZero (t : Text) : Bool :=
  (search (fun t => (strip "," t).bind fun t =>
    (strip "0" (t.dropWhile isSpace)).bind fun rest =>
      if rest.all isSpace then some () else none) t).isSome

/-- `"pb%s+done"`. -/
def pbDone (t : Text) : Bool :=
  (search (fun t => (strip "\"pb" t).bind fun t =>
    if (t.takeWhile isSpace).isEmpty then none
    else strip "done\"" (t.dropWhile isSpace)) t).isSome

/-- `handle_urc`; `cmd` is the command the line was read for, if any. -/
def handleUrc (line : Text) (cmd : Option Text) : Reaction :=
  let asked (name : Text) : Bool := match cmd with
    | some c => c.has name
    | none => false
  if (strip "+CPIN:" line).isSome then
    if asked "CPIN" || line.has "READY" then .none
    else .reinit ("CPIN ".toList ++ line)
  else if (strip "+QSIMSTAT:" line).isSome then
    if asked "QSIMSTAT" then .none
    else if endsInZero line then .nudge ("SIM removed (".toList ++ line ++ ")".toList)
    else .none
  else match strip "+QIND:" line with
    | some rest =>
      if (strip "\"csq\"" (rest.dropWhile isSpace)).isSome then .none
      else if pbDone line then .reinit (rest.dropWhile isSpace)
      else .none
    | none => .none

/-- The daemon's side of the watchdog: `last_nudge`, the nudges sent, the re-init marker. -/
structure Watch where
  lastNudge : Nat := 0
  nudges : List (Nat × Text) := []
  marker : Option Text := none
  deriving DecidableEq

namespace Watch

def nudge (w : Watch) (now : Nat) (reason : Text) : Watch :=
  if now - w.lastNudge < 10 then w
  else { w with lastNudge := now, nudges := w.nudges ++ [(now, reason)] }

def react (w : Watch) (now : Nat) : Reaction → Watch
  | .none => w
  | .nudge reason => w.nudge now reason
  | .reinit why =>
    { w with marker := some why }.nudge now
      ("SIM re-initialised by the modem (".toList ++ why ++ ")".toList)

end Watch

/-! ## The daemon -/

structure Config where
  /-- `gl-cellular.atport.prefer_mhi` is not `0`. -/
  preferMhi : Bool := true
  /-- The `gl-cellular.atport.dev` the daemon started with, or the default. -/
  usbDev : Text := "/dev/ttyUSB2"

def mhiAt : Text := "/dev/mhi_DUN"

/-- The ports `choose_port` tries, in order; `dev` is the option's present value. -/
def Config.candidates (c : Config) (dev : Option Text) : List Text :=
  ((if c.preferMhi then [mhiAt] else []) ++ dev.toList ++
    [c.usbDev, "/dev/ttyUSB2"]).eraseDups

/-- A call of `send_at`. -/
structure Call where
  cmd : Text
  timeout : Option Nat
  queued : Nat
  deriving DecidableEq

def Call.patience (c : Call) : Nat := max (c.timeout.getD 5) 5 + 5

/-- What `send_at` returns: the lines it joins with newlines, or `nil` and a message. `k` is the
number of the command that was written. -/
inductive Result
  | reply (cmd : Text) (k : Nat) (lines : List Line)
  | failed (cmd : Text) (err : String)
  deriving DecidableEq

/-- The text of a reply: `table.concat(buf, '\n')`. -/
def Result.text : Result → Option Text
  | .reply _ _ lines => some (List.intercalate ['\n'] (lines.map Line.text))
  | .failed .. => none

/-- What follows a reopened port: a call that found it closed goes on, one that failed returns. -/
inductive After
  | proceed (call : Call)
  | give (r : Result)
  deriving DecidableEq

/-- Where the coroutine that set `at_busy` is. -/
inductive Phase
  /-- `at_busy` is false. -/
  | idle
  | ready (call : Call)
  /-- In the read loop of command `k`. -/
  | reading (call : Call) (k deadline : Nat) (buf : List Line)
  /-- `drain_port`, after `n` lines. -/
  | drain (n : Nat) (after : After)
  /-- `choose_port`: about to open the first of the candidates left. -/
  | choose (cands : List Text) (after : After)
  /-- `probe_port` waits for an `OK`. -/
  | probe (path : Text) (cands : List Text) (deadline : Nat) (after : After)
  /-- `urc_loop` reads. -/
  | urc
  deriving DecidableEq

structure Daemon where
  now : Nat
  /-- What the open descriptor has to read; `none` is no open port. -/
  port : Option (List Line)
  path : Text
  written : Nat
  owed : List Nat
  /-- `gl-cellular.atport.dev`. -/
  dev : Option Text
  /-- The first line of `/var/run/gl-cellular-cfun.lock`. -/
  cfunLock : Option Text
  emptyReplies : Nat
  watch : Watch
  waiting : List Call
  phase : Phase
  results : List Result

inductive Event
  | tick (seconds : Nat)
  | emit (line : Line)
  | call (cmd : Text) (timeout : Option Nat)
  /-- The `i`-th waiting caller looks at `at_busy`. -/
  | attempt (i : Nat)
  | write (ok : Bool)
  | read (error : Bool)
  | openPort (ok : Bool)
  | urcTick
  | setCfunLock (content : Option Text)
  | setDev (dev : Option Text)
  deriving DecidableEq

namespace Daemon

def cfunLocked (s : Daemon) (cmd : Text) : Bool :=
  if (strip "AT+CFUN" cmd).isSome then false
  else match s.cfunLock with
    | none => false
    | some ts => isNumber ts && s.now - toNumber ts < 180

def inbox (s : Daemon) : List Line := s.port.getD []

def react (s : Daemon) (line : Line) (cmd : Option Text) : Daemon :=
  { s with watch := s.watch.react s.now (handleUrc line.text cmd) }

def give (s : Daemon) (r : Result) : Daemon :=
  { s with phase := .idle, results := s.results ++ [r] }

/-- `reopen_port`: drain the old descriptor if there is one, then choose. -/
def reopen (c : Config) (s : Daemon) (after : After) : Daemon :=
  match s.port with
  | some _ => { s with phase := .drain 0 after }
  | none => { s with phase := .choose (c.candidates s.dev) after }

/-- The end of `reopen_port`. -/
def resume (s : Daemon) : After → Daemon
  | .give r => s.give r
  | .proceed call =>
    if s.port.isSome then { s with phase := .ready call }
    else s.give (.failed call.cmd "AT port not open")

def send (s : Daemon) : Daemon :=
  { s with written := s.written + 1, owed := s.owed ++ [s.written] }

/-- Behind the read loop: reports, the silence counter, reopening, the reply. -/
def finish (c : Config) (s : Daemon) (call : Call) (k : Nat) (buf : List Line) (readErr : Bool) :
    Daemon :=
  let s := buf.foldl (fun s line => s.react line (some call.cmd)) s
  let empty := if buf.isEmpty then s.emptyReplies + 1 else 0
  let watch := if buf.isEmpty && empty = 1 then
      s.watch.nudge s.now
        ("no reply from ".toList ++ s.path ++ " (modem AT port went silent)".toList)
    else s.watch
  let s := { s with watch }
  if readErr || 3 ≤ empty then
    { s with emptyReplies := 0 }.reopen c (.give (.reply call.cmd k buf))
  else { s with emptyReplies := empty }.give (.reply call.cmd k buf)

def stepWrite (c : Config) (s : Daemon) (ok : Bool) : Daemon :=
  match s.phase with
  | .ready call =>
    if s.cfunLocked call.cmd then s.give (.failed call.cmd "blocked by CFUN lock")
    else if ok then
      { s.send with
        phase := .reading call s.written (s.now + max (call.timeout.getD 5) (timeoutFloor call.cmd))
          [] }
    else s.reopen c (.give (.failed call.cmd "AT port write failed"))
  | _ => s

def stepRead (c : Config) (s : Daemon) (error : Bool) : Daemon :=
  match s.phase with
  | .reading call k deadline buf =>
    if deadline ≤ s.now then s.finish c call k buf false
    else if error then s.finish c call k buf true
    else match s.inbox with
      | [] => s
      | line :: rest =>
        let s := { s with port := some rest }
        if looksFinal line.text then s.finish c call k (buf ++ [line]) false
        else { s with phase := .reading call k deadline (buf ++ [line]) }
  | .drain n after =>
    match s.inbox, error || 64 ≤ n with
    | line :: rest, false =>
      { s with port := some rest, phase := .drain (n + 1) after }.react line none
    | _, _ => { s with port := none, phase := .choose (c.candidates s.dev) after }
  | .probe path cands deadline after =>
    if deadline ≤ s.now || error then { s with port := none, phase := .choose cands after }
    else match s.inbox with
      | [] => s
      | line :: rest =>
        let s := { s with port := some rest }
        if (strip "OK" line.text).isSome then { s with path := path }.resume after
        else { s with phase := .probe path cands deadline after }
  | .urc =>
    match s.inbox, error with
    | line :: rest, false => { s with port := some rest }.react line none
    | _, _ => { s with phase := .idle }
  | .idle | .ready _ | .choose .. => s

def stepOpen (s : Daemon) (ok : Bool) : Daemon :=
  match s.phase with
  | .choose [] after => s.resume after
  | .choose (path :: cands) after =>
    if ok then { s.send with port := some [], phase := .probe path cands (s.now + 3) after }
    else { s with phase := .choose cands after }
  | _ => s

def stepAttempt (c : Config) (s : Daemon) (i : Nat) : Daemon :=
  match s.waiting[i]? with
  | none => s
  | some call =>
    if s.phase = .idle then
      let s := { s with waiting := s.waiting.eraseIdx i }
      if s.port.isSome then { s with phase := .ready call } else s.reopen c (.proceed call)
    else if call.patience < s.now - call.queued then
      { s with
        waiting := s.waiting.eraseIdx i
        results := s.results ++ [.failed call.cmd "AT port busy"] }
    else s

/-- The modem answers commands it was sent, and reports whenever it likes. A closed descriptor
keeps nothing. -/
def stepEmit (s : Daemon) (line : Line) : Daemon :=
  let s' := { s with port := s.port.map (· ++ [line]) }
  match line.kind with
  | .urc => s'
  | .part k => if k ∈ s.owed then s' else s
  | .final k => if k ∈ s.owed then { s' with owed := s.owed.filter (· ≠ k) } else s

def step (c : Config) (s : Daemon) : Event → Daemon
  | .tick n => { s with now := s.now + n }
  | .emit line => s.stepEmit line
  | .call cmd timeout => { s with waiting := s.waiting ++ [⟨cmd, timeout, s.now⟩] }
  | .attempt i => s.stepAttempt c i
  | .write ok => s.stepWrite c ok
  | .read error => s.stepRead c error
  | .openPort ok => s.stepOpen ok
  | .urcTick => if s.port.isSome && s.phase = .idle then { s with phase := .urc } else s
  | .setCfunLock content => { s with cfunLock := content }
  | .setDev dev => { s with dev := dev }

end Daemon

def machine (c : Config) : Machine Daemon Event := ⟨Daemon.step c⟩

def fresh (now : Nat) : Daemon where
  now := now
  port := some []
  path := mhiAt
  written := 0
  owed := []
  dev := none
  cfunLock := none
  emptyReplies := 0
  watch := {}
  waiting := []
  phase := .idle
  results := []

end GlXe3000.Cellular.At
