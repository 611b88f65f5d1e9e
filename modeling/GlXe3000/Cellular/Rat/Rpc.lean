import GlXe3000.Cellular.Rat.Script

/-! # `modem.set_sim_config`, `modem.set_cell_tower` and `modem.get_sim_config`

As far as they concern the network mode and the tower lock: the APN, the band masks and the other
fields of `set_sim_config` are left out. An RPC returns nothing, or the message of its error. -/

namespace GlXe3000.Cellular.Rat
open Text

/-- What `tonumber` makes of a request's field. -/
inductive Num
  | none | fraction
  | int (n : Int)
  deriving DecidableEq

def validUint : Num → (maximum : Nat) → Option Nat
  | .int n, maximum => if 0 ≤ n ∧ n ≤ maximum then some n.toNat else .none
  | _, _ => .none

structure SimConfig where
  networkType : Option Text := none
  networkMode : Option Text := none
  deriving DecidableEq

structure Tower where
  slot : Num := .none
  lock : Bool
  networkType : Text := []
  pci : Num := .none
  freq : Num := .none
  scs : Num := .none
  band : Text := []
  /-- The `TOWER_OPTIONS` of the request that are not empty. -/
  options : List (Text × Text) := []
  deriving DecidableEq

/-- The preference GL's network modes stand for: "5G" is 5G first, not 5G only. -/
def modePrefs (mode : Text) : Option Text :=
  if mode = "AUTO" then some "AUTO"
  else if mode = "NR5G" then some "NR5G:LTE"
  else if mode = "LTE" then some "LTE"
  else none

def storeType : Option Text → Script Unit
  | none => return
  | some t => .perform (Act.setModes (lower t))

def setSimConfig (d : SimConfig) : Script (Option Text) := do
  storeType d.networkType
  match d.networkMode.bind fun m => modePrefs (upper m) with
  | none => return none
  | some pref =>
    unless ← set (.modePref pref) do return some "modem rejected network mode"
    return none

def unlockPref (modes : Text) : Text :=
  let mode := lower (orDefault modes "auto")
  if mode = "lte" then "LTE"
  else if mode = "nr5g" then "NR5G:LTE"
  else "AUTO"

def unlockTower : Script (Option Text) := do
  let four ← set (.lock4g none)
  let five ← set (.lock5g none)
  unless four || five do return some "modem rejected tower unlock"
  .perform (Act.setTower none)
  let modes ← .perform Act.modes
  let _ ← set (.nr5gDisableMode 0)
  let _ ← set (.modePref (unlockPref modes))
  return none

/-- `cursor:set`: an option keeps its place. -/
def put : List (Text × Text) → Text → Text → List (Text × Text)
  | [], k, v => [(k, v)]
  | (k', v') :: l, k, v => if k' = k then (k, v) :: l else (k', v') :: put l k v

def storeTower (a : Tower) (networkType : Text) (pci freq : Nat) : Script (Option Text) := do
  let old ← .perform Act.tower
  let given := a.options.foldl (fun l o => put l o.1 o.2) (old.getD [])
  let given := put given "network_type" networkType
  let given := put given "pci" (toString pci).toList
  let given := put given "freq" (toString freq).toList
  .perform (Act.setTower (some given))
  return none

def lockLte (a : Tower) (pci freq : Nat) : Script (Option Text) := do
  let _ ← set (.modePref "LTE:NR5G")
  let _ ← set (.nr5gDisableMode 1)
  unless ← set (.lock4g (some (freq, pci))) do return some "modem rejected tower lock"
  storeTower a "LTE" pci freq

def lockNr5g (a : Tower) (pci freq scs band : Nat) : Script (Option Text) := do
  let _ ← set (.nr5gDisableMode 0)
  let _ ← set (.modePref "NR5G:LTE")
  unless ← set (.lock5g (some (pci, freq, scs, band))) do
    return some "modem rejected tower lock"
  storeTower a "NR5G" pci freq

/-- `valid_uint(tostring(band):match("%d+"), 999)`. -/
def validBand (band : Text) : Option Nat :=
  (digitRun band).bind fun run => if toNumber run ≤ 999 then some (toNumber run) else none

def lockTower (a : Tower) : Script (Option Text) := do
  let operator ← .perform Act.operatorMode
  let operator := orDefault operator ['0']
  unless isNumber operator && toNumber operator = 0 do
    return some "unlock the mobile operator before locking a tower"
  match validUint a.pci 1007, validUint a.freq 4000000 with
  | some pci, some freq =>
    if upper a.networkType = "LTE" then lockLte a pci freq
    else if upper a.networkType = "NR5G" then
      match validUint a.scs 4, validBand a.band with
      | some scs, some band => lockNr5g a pci freq scs band
      | _, _ => return some "5G tower is missing SCS or band"
    else return some "tower network type must be LTE or NR5G"
  | _, _ => return some "tower is missing a valid frequency or PCI"

def setCellTower (a : Tower) : Script (Option Text) := do
  if a.slot = .int 2 then return some "this device has only SIM slot 1"
  if a.lock then lockTower a else unlockTower

/-- The field `network_mode` of `get_sim_config`. -/
def World.networkMode (w : World) : Text := upper (orDefault w.modes "auto")

end GlXe3000.Cellular.Rat
