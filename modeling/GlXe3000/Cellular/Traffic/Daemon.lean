import Mathlib

/-! # Traffic accounting in `gl-cellular-atd`

The total is a value last read from or written to UCI and the bytes sampled since. UCI also has
other writers: the daemon learns of them when it samples, by comparing. -/

namespace GlXe3000.Cellular.Traffic

/-- `gl-cellular.state.data_used_bytes` as a number, and whether `save_traffic` is not '0'. -/
structure Uci where
  used : Int := 0
  saveTraffic : Bool := true
  deriving DecidableEq

structure Daemon where
  last : Option (Nat × Nat) := none
  baseTotal : Option Int := none
  memDelta : Nat := 0
  lastPersist : Int := 0
  persistInterval : Int := 300
  deriving DecidableEq

/-- The daemon comes up: `traffic_loop` reads the total before its first sleep. -/
def Daemon.start (persistInterval : Int) (u : Uci) : Daemon :=
  { persistInterval, baseTotal := some u.used }

def Daemon.trafficTotal (d : Daemon) (u : Uci) : Int := d.baseTotal.getD u.used + d.memDelta

/-- `persist_traffic`, which the daemon never forces. -/
def persistTraffic (now : Int) (d : Daemon) (u : Uci) : Daemon × Uci :=
  if !u.saveTraffic then (d, u)
  else if now - d.lastPersist < d.persistInterval then (d, u)
  else
    let total := d.trafficTotal u
    ({ d with baseTotal := some total, memDelta := 0, lastPersist := now },
      { u with used := total })

def resetTraffic (d : Daemon) (u : Uci) : Daemon × Uci :=
  ({ d with baseTotal := some 0, memDelta := 0, lastPersist := 0 }, { u with used := 0 })

def sampledDelta : (last : Option (Nat × Nat)) → (now : Nat × Nat) → Option Nat
  | none, _ => none
  | some last, now =>
    if last.1 ≤ now.1 ∧ last.2 ≤ now.2 then some ((now.1 - last.1) + (now.2 - last.2)) else none

/-- A total that is not the daemon's was written by someone else, and takes the place of the
daemon's own with what it has not saved. -/
def Daemon.adopt (d : Daemon) (persisted : Int) : Daemon :=
  match d.baseTotal with
  | none => { d with baseTotal := some persisted }
  | some base =>
    if persisted = base then d else { d with baseTotal := some persisted, memDelta := 0 }

def Daemon.account (d : Daemon) (persisted : Int) (delta : Nat) : Daemon :=
  let d := d.adopt persisted
  { d with memDelta := d.memDelta + delta }

/-- A call of `set_traffic_config`: the settings it carries, the total as it rounds it. -/
structure Write where
  saveToFlash : Option Bool := none
  trafficTotal : Option Int := none
  deriving DecidableEq

def Uci.write (u : Uci) (w : Write) : Uci :=
  { used := w.trafficTotal.getD u.used, saveTraffic := w.saveToFlash.getD u.saveTraffic }

/-- `traffic_sample`. There are no counters where the link has no device. The daemon reads UCI and
writes it back later; `between` is what another process writes in that time. -/
def trafficSample (counters : Option (Nat × Nat)) (now : Int) (between : Write) (d : Daemon)
    (u : Uci) : Daemon × Uci :=
  match counters with
  | none => (d, u.write between)
  | some counters =>
    match sampledDelta d.last counters with
    | none | some 0 => ({ d with last := some counters }, u.write between)
    | some (delta + 1) =>
      let r := persistTraffic now (d.account u.used (delta + 1)) (u.write between)
      ({ r.1 with last := some counters }, r.2)

/-- What a call of `traffic_sample` adds to the total. -/
def addedBy (counters : Option (Nat × Nat)) (d : Daemon) : Nat :=
  (counters.bind (sampledDelta d.last)).getD 0

end GlXe3000.Cellular.Traffic
