import GlXe3000.Cellular.Sim.Unlock

/-! # `set_sim_pin_code`: a PIN typed in the UI

The `modem.lua` method, one step for each AT exchange and one for the `uci` commit. It takes no
lock: two requests, and a request and an unlock run, interleave freely. The bounce of `wwan` at its
end is a process of its own and belongs to the interface model. -/

namespace GlXe3000.Cellular.Sim.PinEntry
open Text

/-- The table the method returns; `{}` has no field. -/
structure Response where
  errCode : Option Nat := none
  errMsg : String := ""
  pinCounter : Option Nat := none
  status : Option Nat := none
  deriving DecidableEq

inductive Pc
  | idle
  | start (pin : Text)
  /-- The first `AT+CPIN?`. -/
  | state (pin : Text)
  /-- `remaining() or 3`. -/
  | before (pin : Text)
  | submit (pin : Text) (before : Nat)
  /-- `remaining()` after a refusal. -/
  | after (before : Nat)
  /-- Up to 15 polls for `READY`. -/
  | wait (pin : Text) (i : Nat)
  /-- `AT+QCCID`. -/
  | iccid (pin : Text)
  | save (pin : Text) (iccid : Option Text)
  | done (r : Response)
  deriving DecidableEq

def invalidPin : Response :=
  { errCode := some 20002022, errMsg := "invalid pin_code", status := some 3 }

def pukLocked : Response :=
  { errCode := some 20002022, errMsg := "SIM is PUK locked", pinCounter := some 0,
    status := some 4 }

def notReady : Response := { errCode := some 20002045, errMsg := "modem not ready" }

def incorrectPin (left : Nat) : Response :=
  { errCode := some 20002022, errMsg := "incorrect pin", pinCounter := some left,
    status := some (if left = 0 then 4 else 3) }

/-- `cursor:set` of the PIN, of the ICCID if one was read, `cursor:delete` of the failure mark,
`cursor:commit`: the cursor writes nothing before the commit, so the four are one step. -/
def saved (u : Uci) (pin : Text) (iccid : Option Text) : Uci :=
  { u with pincode := pin, pinIccid := iccid.getD u.pinIccid, pinFailed := [] }

def step (o : Outcome) (w : World) : Pc → Pc × World
  | .idle => (.idle, w)
  | .start pin => (if Unlock.wellFormed pin then .state pin else .done invalidPin, w)
  | .state pin =>
    (if o.reply.has "SIM PUK" then .done pukLocked
      else if o.reply.has "SIM PIN" then .before pin
      else if o.reply.has "READY" then .done {}
      else .done notReady, w)
  | .before pin => (.submit pin ((luaAttempts o.reply).getD 3), w)
  | .submit pin before =>
    (if o.reply.has "OK" then .wait pin 0 else .after before, w.submit .ui pin o.reached)
  | .after before => (.done (incorrectPin ((luaAttempts o.reply).getD (before - 1))), w)
  | .wait pin i =>
    (if o.reply.has "READY" || 15 ≤ i + 1 then .iccid pin else .wait pin (i + 1), w)
  | .iccid pin => (.save pin (luaIccid o.reply), w)
  | .save pin iccid => (.done {}, { w with uci := saved w.uci pin iccid })
  | .done r => (.done r, w)

end GlXe3000.Cellular.Sim.PinEntry
