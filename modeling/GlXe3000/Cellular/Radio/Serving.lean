import GlXe3000.Lib.Json
import GlXe3000.Cellular.Csv

/-! # The serving cell

`AT+QENG="servingcell"` is read twice: `serving_cell_snapshot` of `gl-cellular-atd` and
`get_serving_cell` of `modem.lua`, which was there first and reports more. With LTE only the reply is
one line; with 5G there is a line for the state, one for the LTE anchor and one for the 5G cell. -/

namespace GlXe3000.Cellular.Radio
open Text

/-- `fields[i]`. -/
def field (fields : List Text) (i : Nat) : Option Text := fields[i - 1]?

/-- `tonumber(fields[i])`. -/
def number (lua : Lua) (fields : List Text) (i : Nat) : Option Rat :=
  (field fields i).bind lua.tonumber

def label (table : List (Nat × String)) (code : Option Rat) : Option Text :=
  code.bind fun n => (table.find? fun e => (e.1 : Rat) = n).map fun e => (e.2 ++ "MHz").toList

def bandwidthMhz : List (Nat × String) :=
  [(0, "1.4"), (1, "3"), (2, "5"), (3, "10"), (4, "15"), (5, "20")]

def nrBandwidthMhz : List (Nat × String) :=
  [(0, "5"), (1, "10"), (2, "15"), (3, "20"), (4, "25"), (5, "30"), (6, "40"), (7, "50"),
    (8, "60"), (9, "70"), (10, "80"), (11, "90"), (12, "100"), (13, "200"), (14, "400"),
    (15, "35"), (16, "45")]

structure NrCell where
  band : Option Text
  cellId : Option Text
  bandwidthCode : Option Text
  dlBandwidth : Option Text
  rsrp : Option Rat
  sinr : Option Rat
  rsrq : Option Rat
  deriving DecidableEq

structure Cell (Nr : Type) where
  mode : Option Text := none
  band : Option Text := none
  tac : Option Text := none
  cellId : Option Text := none
  ulBandwidth : Option Text := none
  dlBandwidth : Option Text := none
  rsrp : Option Rat := none
  rsrq : Option Rat := none
  rssi : Option Rat := none
  sinr : Option Rat := none
  txPower : Option Rat := none
  srxlev : Option Rat := none
  nr : Option Nr := none
  deriving DecidableEq

def lte : Text := "LTE"

def isNr (fields : List Text) : Bool :=
  field fields 1 = some "NR5G-NSA" || field fields 1 = some "NR5G-SA"

def isSa (fields : List Text) : Bool := field fields 1 = some "NR5G-SA"

def isLte (fields : List Text) : Bool := field fields 1 = some lte

def anchorMode (duplex : Option Text) : Text :=
  "5G NSA (LTE ".toList ++ duplex.getD [] ++ " anchor)".toList

/-! ## `gl-cellular-atd` -/

namespace Daemon
variable (lua : Lua)

def tofloat (n : Rat) : Rat := if 2147483647 < n ∧ n < 4294967296 then n - 4294967296 else n

def reading (fields : List Text) (i : Nat) : Option Rat := (number lua fields i).map tofloat

def qengTxPower (v : Option Text) : Option Rat := (v.bind lua.tonumber).map (· / 10)

def qengSrxlev (v : Option Text) : Option Rat := v.bind lua.tonumber

def single (fields : List Text) : Cell NrCell where
  mode := some ("LTE ".toList ++ (field fields 4).getD [])
  band := field fields 10
  tac := field fields 13
  cellId := field fields 7
  ulBandwidth := label bandwidthMhz (number lua fields 11)
  dlBandwidth := label bandwidthMhz (number lua fields 12)
  rsrp := reading lua fields 14
  rsrq := reading lua fields 15
  rssi := reading lua fields 16
  sinr := reading lua fields 17
  txPower := qengTxPower lua (field fields 19)
  srxlev := qengSrxlev lua (field fields 20)

def takeLte (c : Cell NrCell) (fields : List Text) : Cell NrCell :=
  { c with
    mode := some (anchorMode (field fields 2))
    band := field fields 8
    tac := field fields 11
    cellId := field fields 5
    ulBandwidth := label bandwidthMhz (number lua fields 9)
    dlBandwidth := label bandwidthMhz (number lua fields 10)
    rsrp := reading lua fields 12
    rsrq := reading lua fields 13
    rssi := reading lua fields 14
    sinr := reading lua fields 15
    txPower := qengTxPower lua (field fields 17)
    srxlev := qengSrxlev lua (field fields 18) }

def nrCell (fields : List Text) : NrCell where
  band := (field fields 9).map ('n' :: ·)
  cellId := field fields 4
  bandwidthCode := field fields 10
  dlBandwidth := label nrBandwidthMhz (number lua fields 10)
  rsrp := reading lua fields 5
  sinr := reading lua fields 6
  rsrq := reading lua fields 7

def takeNr (c : Cell NrCell) (fields : List Text) : Cell NrCell :=
  { c with
    mode := if isSa fields then some "5G SA" else c.mode
    nr := some (nrCell lua fields) }

def take (c : Option (Cell NrCell)) (fields : List Text) : Option (Cell NrCell) :=
  if isLte fields then some (takeLte lua (c.getD {}) fields)
  else if isNr fields then some (takeNr lua (c.getD {}) fields)
  else c

def snapshotLines (lines : List (List Text)) : Option (Cell NrCell) := lines.foldl (take lua) none

def snapshot (lines : List (List Text)) : Option (Cell NrCell) :=
  match lines with
  | [] => none
  | [fields] =>
    match field fields 3 with
    | some rat => if rat = lte then some (single lua fields) else some { mode := some rat }
    | none => snapshotLines lua [fields]
  | lines => snapshotLines lua lines

/-- `serving_cell_snapshot`, by the reply to its query. -/
def servingCellSnapshot (resp : Text) : Option (Cell NrCell) :=
  snapshot lua (allMatches resp "+QENG")

end Daemon

/-! ## `modem.lua` -/

namespace Rpc
variable (lua : Lua)

def signalQuality (thresholds : Rat × Rat × Rat) (value : Option Rat) : Option String :=
  value.map fun n =>
    if thresholds.1 ≤ n then "Excellent"
    else if thresholds.2.1 ≤ n then "Good"
    else if thresholds.2.2 ≤ n then "Fair"
    else "Poor"

def rsrpQuality := signalQuality (-80, -95, -110)
def rssiQuality := signalQuality (-65, -75, -85)
def rsrqQuality := signalQuality (-10, -15, -20)
def sinrQuality := signalQuality (25 / 2, 10, 7)

def qengPower (scale : Rat) (v : Option Text) : Option Rat :=
  match v with
  | none | some [] => none
  | some v => (lua.tonumber v).map (· / scale)

structure Nr extends NrCell where
  mcc : Option Rat
  mnc : Option Rat
  pci : Option Rat
  freq : Option Rat
  scs : Option Rat
  rsrpQuality : Option String
  rsrqQuality : Option String
  sinrQuality : Option String

structure ServingCell extends Cell Nr where
  networkType : Option Text := none
  mcc : Option Rat := none
  mnc : Option Rat := none
  pci : Option Rat := none
  freq : Option Rat := none
  rsrpQuality : Option String := none
  rssiQuality : Option String := none
  rsrqQuality : Option String := none
  sinrQuality : Option String := none

def single (fields : List Text) : ServingCell where
  mode := some ("LTE ".toList ++ (field fields 4).getD [])
  networkType := some lte
  mcc := number lua fields 5
  mnc := number lua fields 6
  pci := number lua fields 8
  freq := number lua fields 9
  tac := field fields 13
  band := field fields 10
  ulBandwidth := label bandwidthMhz (number lua fields 11)
  dlBandwidth := label bandwidthMhz (number lua fields 12)
  rsrp := number lua fields 14
  rsrpQuality := Rpc.rsrpQuality (number lua fields 14)
  rssi := number lua fields 16
  rssiQuality := Rpc.rssiQuality (number lua fields 16)
  rsrq := number lua fields 15
  rsrqQuality := Rpc.rsrqQuality (number lua fields 15)
  sinr := number lua fields 17
  sinrQuality := Rpc.sinrQuality (number lua fields 17)
  txPower := qengPower lua 10 (field fields 19)
  srxlev := qengPower lua 1 (field fields 20)
  cellId := field fields 7

def takeLte (c : ServingCell) (fields : List Text) : ServingCell :=
  { c with
    mode := some (anchorMode (field fields 2))
    networkType := some lte
    mcc := number lua fields 3
    mnc := number lua fields 4
    pci := number lua fields 6
    freq := number lua fields 7
    tac := field fields 11
    band := field fields 8
    ulBandwidth := label bandwidthMhz (number lua fields 9)
    dlBandwidth := label bandwidthMhz (number lua fields 10)
    rsrp := number lua fields 12
    rsrpQuality := Rpc.rsrpQuality (number lua fields 12)
    rssi := number lua fields 14
    rssiQuality := Rpc.rssiQuality (number lua fields 14)
    rsrq := number lua fields 13
    rsrqQuality := Rpc.rsrqQuality (number lua fields 13)
    sinr := number lua fields 15
    sinrQuality := Rpc.sinrQuality (number lua fields 15)
    txPower := qengPower lua 10 (field fields 17)
    srxlev := qengPower lua 1 (field fields 18)
    cellId := field fields 5 }

/-- `if n > 2147483647 then n = n - 4294967296 end`. -/
def unwrap (n : Rat) : Rat := if 2147483647 < n then n - 4294967296 else n

def reading (fields : List Text) (i : Nat) : Option Rat := (number lua fields i).map unwrap

def nrCell (fields : List Text) : Nr where
  mcc := number lua fields 2
  mnc := number lua fields 3
  pci := number lua fields 4
  freq := number lua fields 8
  scs := number lua fields 11
  band := (field fields 9).map ('n' :: ·)
  cellId := field fields 4
  bandwidthCode := field fields 10
  dlBandwidth := label nrBandwidthMhz (number lua fields 10)
  rsrp := reading lua fields 5
  rsrpQuality := Rpc.rsrpQuality (reading lua fields 5)
  rsrq := reading lua fields 7
  rsrqQuality := Rpc.rsrqQuality (reading lua fields 7)
  sinr := reading lua fields 6
  sinrQuality := Rpc.sinrQuality (reading lua fields 6)

def takeNr (c : ServingCell) (fields : List Text) : ServingCell :=
  { c with
    mode := if isSa fields then some "5G SA" else c.mode
    nr := some (nrCell lua fields) }

def take (c : Option ServingCell) (fields : List Text) : Option ServingCell :=
  if isLte fields then some (takeLte lua (c.getD {}) fields)
  else if isNr fields then some (takeNr lua (c.getD {}) fields)
  else c

def cellOfLines (lines : List (List Text)) : Option ServingCell := lines.foldl (take lua) none

def cellOf (lines : List (List Text)) : Option ServingCell :=
  match lines with
  | [] => none
  | [fields] =>
    match field fields 3 with
    | some rat => if rat = lte then some (single lua fields) else some { mode := some rat }
    | none => cellOfLines lua [fields]
  | lines => cellOfLines lua lines

/-- `get_serving_cell`, by the reply to its query. -/
def getServingCell (resp : Text) : Option ServingCell := cellOf lua (allMatches resp "+QENG")

end Rpc

end GlXe3000.Cellular.Radio
