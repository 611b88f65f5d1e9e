import GlXe3000.Cellular.Sim.Card

/-! # `gl-cellular-sim-unlock`, one step at a time

The script is a program counter with the shell variables that are still read. One step is one
command whose effect another process can see: an AT exchange, a `uci` command, a `flock` try.
`sleep` and `logger` change nothing and have no step of their own. A `uci` command whose exit
status the script does not look at is taken to succeed. -/

namespace GlXe3000.Cellular.Sim.Unlock
open Text

inductive Pc
  | idle
  /-- `[ -e /var/run/gl-cellular-flashing ] && exit 5`. -/
  | start
  /-- `exec 8>... || exit 5`. -/
  | openLock
  /-- `until flock -n 8`, after `i` failed tries. -/
  | lockWait (i : Nat)
  /-- The first `cpin_state` loop. -/
  | poll (i : Nat)
  /-- `clear_pending`: the `uci get`, the `uci delete`, the `uci commit`. -/
  | clearGet
  | clearDelete
  | clearCommit
  | getPin
  | getIccid (pin : Text)
  | getFailed (pin saved : Text)
  /-- `AT+QCCID`. -/
  | iccid (pin saved : Text)
  /-- `AT+QPINC?`. -/
  | attempts (pin : Text)
  | getPending (pin left : Text)
  /-- An earlier submission was refused: `pin_failed=1`, then delete `pin_pending`, then commit. -/
  | failSet
  | failDelete
  | failCommit
  | intent (gate : Gate) (pin left : Text)
  | setPending (pin left : Text)
  | commitPending (pin left : Text)
  /-- `AT+CPIN="$pin"`. -/
  | submit (pin left : Text)
  | rejectSet
  | rejectCommit
  /-- The loop that waits for `READY`. -/
  | confirm (i : Nat)
  | exit (code : Nat)
  deriving DecidableEq

namespace Pc

def inactive : Pc → Bool
  | .idle | .exit _ => true
  | _ => false

/-- The run is past `flock -n 8`. -/
def locked : Pc → Bool
  | .idle | .start | .openLock | .lockWait _ | .exit _ => false
  | _ => true

/-- The counter a run has read and will act on: from the `AT+QPINC?` reply up to `AT+CPIN=`. -/
def reading : Pc → Option Text
  | .getPending _ left | .intent _ _ left | .setPending _ left | .commitPending _ left
  | .submit _ left => some left
  | _ => none

end Pc

def wellFormed (pin : Text) : Bool := isNumber pin && 4 ≤ pin.length && pin.length ≤ 8

/-- `case "$pending" in *[!0-9]*) pending=0`, read as a number. -/
def pendingValue (pending : Text) : Nat := if pending.all isDigit then toNumber pending else 0

/-- One command of run `p`, without the unlocking that comes with the end of the run. -/
def advance (p : Nat) (o : Outcome) (w : World) : Pc → Pc × World
  | .idle => (.idle, w)
  | .start => (if w.flashing then .exit 5 else .openLock, w)
  | .openLock => (if o.ok then .lockWait 0 else .exit 5, w)
  | .lockWait i =>
    if w.lock = none then (.poll 0, { w with lock := some p })
    else (if 40 ≤ i + 1 then .exit 5 else .lockWait (i + 1), w)
  | .poll i =>
    match cpinState o.reply with
    | .ready => (.clearGet, w)
    | .pin => (.getPin, w)
    | .puk => (.exit 3, w)
    | .noat => (if i + 1 < 60 then .poll (i + 1) else .exit 4, w)
    | .other => (if i + 1 < 60 then .poll (i + 1) else .exit 3, w)
  | .clearGet => (if w.uci.pinPending.isEmpty then .exit 0 else .clearDelete, w)
  | .clearDelete =>
    if o.ok then (.clearCommit, { w with uci := { w.uci with pinPending := [] } })
    else (.exit 5, w)
  | .clearCommit => (if o.ok then .exit 0 else .exit 5, w)
  | .getPin => (.getIccid w.uci.pincode, w)
  | .getIccid pin =>
    (if wellFormed pin then .getFailed pin w.uci.pinIccid else .exit 1, w)
  | .getFailed pin saved =>
    (if w.uci.pinFailed = ['1'] then .exit 2 else .iccid pin saved, w)
  | .iccid pin saved =>
    let cur := iccidOf o.reply
    (if cur.isEmpty then .exit 4
      else if saved.isEmpty || saved ≠ cur then .exit 1
      else .attempts pin, w)
  | .attempts pin =>
    let left := attemptsOf o.reply
    (if left.isEmpty then .exit 4
      else if left = ['0'] || left = ['1'] then .exit 2
      else if left = ['2'] || left = ['3'] then .getPending pin left
      else .exit 4, w)
  | .getPending pin left =>
    let pending := w.uci.pinPending
    (if !pending.isEmpty && toNumber left < pendingValue pending then .failSet
      else .intent .auto pin left, w)
  | .failSet => (.failDelete, { w with uci := { w.uci with pinFailed := ['1'] } })
  | .failDelete => (.failCommit, { w with uci := { w.uci with pinPending := [] } })
  | .failCommit => (.exit 2, w)
  | .intent gate pin left =>
    (if gate.isOpen w.uci then
      match gate.next with
      | some gate' => .intent gate' pin left
      | none => .setPending pin left
    else .exit 5, w)
  | .setPending pin left =>
    if o.ok then (.commitPending pin left, { w with uci := { w.uci with pinPending := left } })
    else (.exit 5, w)
  | .commitPending pin left => (if o.ok then .submit pin left else .exit 5, w)
  | .submit pin _ =>
    (if incorrectPassword o.reply then .rejectSet else .confirm 0, w.submit .unlocker pin o.reached)
  | .rejectSet => (.rejectCommit, { w with uci := { w.uci with pinFailed := ['1'] } })
  | .rejectCommit => (.exit 2, w)
  | .confirm i =>
    match cpinState o.reply with
    | .ready => (.clearGet, w)
    | .puk => (.exit 3, w)
    | _ => (if i + 1 < 20 then .confirm (i + 1) else .exit 5, w)
  | .exit code => (.exit code, w)

def release (p : Nat) (w : World) : World := if w.lock = some p then { w with lock := none } else w

/-- One step of run `p`. -/
def step (p : Nat) (o : Outcome) (w : World) (pc : Pc) : Pc × World :=
  let r := advance p o w pc
  if r.1.inactive then (r.1, release p r.2) else r

/-- The AT command a program counter is about to send, if its reply is one the script reads the
card's state out of. -/
inductive Query
  | cpin | qccid | qpinc
  deriving DecidableEq

def query : Pc → Option Query
  | .poll _ | .confirm _ => some .cpin
  | .iccid _ _ => some .qccid
  | .attempts _ => some .qpinc
  | _ => none

end GlXe3000.Cellular.Sim.Unlock
