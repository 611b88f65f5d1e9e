import GlXe3000.Lib.Heap
import GlXe3000.Lib.JsonString
import GlXe3000.Lib.Process
import GlXe3000.Cellular.Radio.Serving

/-! # The requests of `gl-cellular-atd` that read the serving cell

The serving cell is queried at most every five seconds and kept in `cell_cache`. A request works on
a copy of the table that is there, but the copy is shallow: its `nr` is the table of the cached one.
Each request is a coroutine, which yields whenever it waits for the modem or for `ubus`, so any
number of them may hold copies at the same time, and `networks_info` rewrites its own in place.

Every access to a table is an action of its own, which allows more interleavings than there are. -/

namespace GlXe3000.Cellular.Radio.Daemon
open Text

/-! ## Tables -/

structure Fields where
  mode : Option Text := none
  band : Option Text := none
  tac : Option Text := none
  cellId : Option Text := none
  ulBandwidth : Option Text := none
  dlBandwidth : Option Text := none
  bandwidthCode : Option Text := none
  rsrp : Option Rat := none
  rsrq : Option Rat := none
  rssi : Option Rat := none
  sinr : Option Rat := none
  txPower : Option Rat := none
  srxlev : Option Rat := none
  id : Option Text := none
  rsrpLevel : Option Nat := none
  rssiLevel : Option Nat := none
  rsrqLevel : Option Nat := none
  sinrLevel : Option Nat := none
  deriving DecidableEq, Inhabited

abbrev Ref := Nat

structure Table extends Fields where
  nr : Option Ref := none
  lteAnchor : Option Ref := none
  deriving DecidableEq, Inhabited

structure Picture where
  cell : Fields := {}
  nr : Option Fields := none
  lteAnchor : Option Fields := none
  deriving DecidableEq

def nrFields (n : NrCell) : Fields where
  band := n.band
  cellId := n.cellId
  bandwidthCode := n.bandwidthCode
  dlBandwidth := n.dlBandwidth
  rsrp := n.rsrp
  sinr := n.sinr
  rsrq := n.rsrq

def cellFields (c : Cell NrCell) : Fields where
  mode := c.mode
  band := c.band
  tac := c.tac
  cellId := c.cellId
  ulBandwidth := c.ulBandwidth
  dlBandwidth := c.dlBandwidth
  rsrp := c.rsrp
  rsrq := c.rsrq
  rssi := c.rssi
  sinr := c.sinr
  txPower := c.txPower
  srxlev := c.srxlev

/-! ## Signal values -/

inductive Metric
  | rsrp | rssi | rsrq | sinr

/-- The thresholds of `signal_level`. -/
def thresholds : Metric → Rat × Rat × Rat
  | .rsrp => (-80, -95, -110)
  | .rssi => (-65, -75, -85)
  | .rsrq => (-10, -15, -20)
  | .sinr => (25 / 2, 10, 7)

def signalLevel (metric : Metric) (value : Option Rat) : Option Nat :=
  value.map fun v =>
    if (thresholds metric).1 ≤ v then 4
    else if (thresholds metric).2.1 ≤ v then 3
    else if (thresholds metric).2.2 ≤ v then 2
    else 1

def addSignalLevels (f : Fields) : Fields :=
  { f with
    rsrpLevel := signalLevel .rsrp f.rsrp
    rssiLevel := signalLevel .rssi f.rssi
    rsrqLevel := signalLevel .rsrq f.rsrq
    sinrLevel := signalLevel .sinr f.sinr }

/-- `tonumber(t, 16)`, with the integers of the machine. -/
def tonumber16 (t : Text) : Option Int :=
  let t := t.dropWhile isSpace
  let (sign, t) : Int × Text :=
    match t with
    | '-' :: t => (-1, t)
    | '+' :: t => (1, t)
    | t => (1, t)
  let digits := t.takeWhile isAlnum
  if digits ≠ [] ∧ (t.dropWhile isAlnum).all isSpace then
    (digits.mapM JsonString.hexDigit).map fun ds =>
      (sign * (ds.foldl (fun n d => 16 * n + d) 0 : Nat)).bmod (2 ^ 64)
  else none

def enbLabel (hex : Option Text) : Option Text :=
  match hex.bind tonumber16 with
  | none => hex
  | some n =>
    if n < 256 then hex
    else hex.map fun h => h ++ " (eNB ".toList ++ Nat.toDigits 10 (n.toNat / 256) ++ ['-'] ++
      Nat.toDigits 10 (n.toNat % 256) ++ [')']

/-- `tostring(v)`. -/
def shown (v : Option Text) : Text := v.getD "nil"

/-! ## Carriers -/

structure Row where
  networkType : Nat
  ca : Nat := 0
  band : Option Rat
  bandwidth : Option Rat
  earfcn : Option Rat := none
  pci : Option Rat := none
  rsrp : Option Rat
  rsrq : Option Rat
  rssi : Option Rat := none
  sinr : Option Rat
  rsrpLevel : Option Nat := none
  rssiLevel : Option Nat := none
  rsrqLevel : Option Nat := none
  sinrLevel : Option Nat := none
  deriving DecidableEq

def carrierLevels (row : Row) : Row :=
  { row with
    rsrpLevel := signalLevel .rsrp row.rsrp
    rssiLevel := signalLevel .rssi row.rssi
    rsrqLevel := signalLevel .rsrq row.rsrq
    sinrLevel := signalLevel .sinr row.sinr }

def lteRbMhz : List (Nat × Rat) := [(6, 7 / 5), (15, 3), (25, 5), (50, 10), (75, 15), (100, 20)]

def entry {α : Type} (table : List (Nat × α)) (code : Option Rat) : Option α :=
  code.bind fun n => (table.find? fun e => (e.1 : Rat) = n).map Prod.snd

/-- `NR_BANDWIDTH_MHZ[code]`. -/
def nrMhz (code : Option Rat) : Option Rat :=
  (entry nrBandwidthMhz code).map fun mhz => (toNumber mhz.toList : Rat)

/-- `band_str:match('^tag(%d+)')`. -/
def bandNumber (tag : String) (t : Text) : Option Text :=
  (strip tag.toList t).bind fun rest =>
    match rest.takeWhile isDigit with
    | [] => none
    | d :: ds => some (d :: ds)

def firstNumber (t : Text) : Option Text :=
  match (t.dropWhile fun c => !(isDigit c || c = '.')).takeWhile fun c => isDigit c || c = '.' with
  | [] => none
  | d :: ds => some (d :: ds)

section
variable (lua : Lua)

def lteRow (f : List Text) (band : Text) : Row where
  networkType := 4
  band := lua.tonumber band
  bandwidth := entry lteRbMhz (number lua f 3)
  earfcn := number lua f 2
  pci := number lua f 6
  rsrp := reading lua f 7
  rsrq := reading lua f 8
  rssi := reading lua f 9
  sinr := reading lua f 10

def nrRow (f : List Text) (band : Text) : Row :=
  let base := if 12 ≤ f.length then 10 else 6
  { networkType := 5
    band := lua.tonumber band
    bandwidth := nrMhz (number lua f 3)
    earfcn := number lua f 2
    pci := number lua f (if 12 ≤ f.length then 6 else 5)
    rsrp := reading lua f base
    rsrq := reading lua f (base + 1)
    sinr := (number lua f (base + 2)).map fun n => ((n / 100 + 1 / 2).floor : Rat) }

def matchRow (nr : Option Fields) (f : List Text) (band : Text) (row : Row) : Row :=
  match nr with
  | none => row
  | some n =>
    if f.length < 12 ∧ n.band = some ('n' :: band) then
      { row with
        rsrp := n.rsrp
        rsrq := n.rsrq
        sinr := n.sinr
        pci := row.pci.or (n.cellId.bind lua.tonumber) }
    else row

/-- The row of a line of `AT+QCAINFO`. -/
def listedRow (nr : Option Fields) (f : List Text) : Option Row :=
  (field f 4).bind fun band =>
    match bandNumber "LTE BAND " band, bandNumber "NR5G BAND " band with
    | some b, _ => some (lteRow lua f b)
    | none, some b => some (matchRow lua nr f b (nrRow lua f b))
    | none, none => none

def servingRows (p : Picture) : List Row :=
  (match p.cell.mode with
    | none => []
    | some mode =>
      if (strip lte mode).isSome || mode.has "anchor" then
        [{ networkType := 4
           band := p.cell.band.bind lua.tonumber
           bandwidth := (firstNumber (p.cell.dlBandwidth.getD [])).bind lua.tonumber
           rsrp := p.cell.rsrp
           rsrq := p.cell.rsrq
           rssi := p.cell.rssi
           sinr := p.cell.sinr }]
      else []) ++
  (match p.nr with
    | none => []
    | some n =>
      [{ networkType := 5
         band := (digitRun (n.band.getD [])).bind lua.tonumber
         bandwidth := (firstNumber (n.dlBandwidth.getD [])).bind lua.tonumber
         pci := n.cellId.bind lua.tonumber
         rsrp := n.rsrp
         rsrq := n.rsrq
         sinr := n.sinr }])

def carrierRows (listing : Option Text) (p : Picture) : List Row :=
  let listed := (listing.elim [] (allMatches · "+QCAINFO")).filterMap (listedRow lua p.nr)
  if listed.isEmpty then servingRows lua p else listed

def networkType (p : Picture) (lteCount : Nat) : Nat :=
  if p.cell.mode = some "5G SA" then 5
  else if p.nr.isSome then 51
  else if 1 < lteCount then 41
  else 4

def finishRow (kind lteCount i : Nat) (row : Row) : Row :=
  carrierLevels { row with
    ca := i
    networkType :=
      if row.networkType = 5 then (if kind = 5 then 5 else 51)
      else if row.networkType = 4 ∧ 1 < lteCount then 41
      else row.networkType }

/-- What `carrier_snapshot` makes of the listing and the cell. -/
def carriers (listing : Option Text) (p : Picture) : Nat × List Row :=
  let rows := carrierRows lua listing p
  let lteCount := rows.countP (·.networkType = 4)
  let kind := networkType p lteCount
  (kind, rows.mapIdx (finishRow kind lteCount))

end

/-! ## What a request asks -/

/-- Who refreshes the cache: the sampler, or a request that finds it old. -/
inductive Turn
  | sampler | lookup
  deriving DecidableEq

inductive Command
  | servingcell (turn : Turn)
  | qcainfo | cpin | qpinc | cops | qccid | qnwinfo | cnum | cimi
  deriving DecidableEq

inductive Interface
  | wwan | wwan4 | wwan6
  deriving DecidableEq

/-- `interface_status`, as far as it is read. -/
structure Status where
  up : Bool
  pending : Bool
  ipv4 : Option Text
  nexthop : Option Text
  ipv6 : Option Text
  dns : List Text

inductive Setting
  | modes | apn | dialEnabled | simName
  deriving DecidableEq

/-- The calls of `os.time`. -/
inductive Moment
  | lookup | refreshed (turn : Turn) | sampled | history
  deriving DecidableEq

inductive Question
  | sendAt (cmd : Command)
  | status (interface : Interface)
  | config (setting : Setting)
  | time (moment : Moment)
  | traffic

def Question.Answer : Question → Type
  | .sendAt _ | .config _ => Option Text
  | .status _ => Option Status
  | .time _ => Int
  | .traffic => Text

abbrev Outside := (q : Question) → q.Answer

/-! ## The daemon -/

structure Sample where
  timestamp : Int
  networkType : Nat
  signal : List Row
  deriving DecidableEq

structure View where
  cell : Option Picture
  samples : List Sample

structure Store where
  tables : Heap Nat Table := []
  cellCache : Option Ref := none
  cellCacheAt : Int := 0
  signalHistory : List Sample := []
  taken : Nat → Option View := fun _ => none

inductive Action
  | ask (q : Question)
  | cellCache
  | setCellCache (cell : Option Ref) (now : Int)
  | new (kept : Bool) (t : Table)
  | read (r : Ref)
  | write (r : Ref) (f : Table → Table)
  | signalHistory
  | addSample (s : Sample)

def Action.Answer : Action → Type
  | .ask q => q.Answer
  | .cellCache => Option Ref × Int
  | .new _ _ => Ref
  | .read _ => Table
  | .signalHistory => List Sample
  | .setCellCache _ _ | .write _ _ | .addSample _ => Unit

abbrev Prog := Proc Action Action.Answer

def sendAt (cmd : Command) : Prog (Option Text) := .perform (Action.ask (.sendAt cmd))
def interfaceStatus (i : Interface) : Prog (Option Status) := .perform (Action.ask (.status i))
def currentConfig (s : Setting) : Prog (Option Text) := .perform (Action.ask (.config s))
def osTime (m : Moment) : Prog Int := .perform (Action.ask (.time m))
def trafficTotal : Prog Text := .perform (Action.ask .traffic)
def cellCache : Prog (Option Ref × Int) := .perform Action.cellCache
def setCellCache (cell : Option Ref) (now : Int) : Prog Unit :=
  .perform (Action.setCellCache cell now)
def new (kept : Bool) (t : Table) : Prog Ref := .perform (Action.new kept t)
def read (r : Ref) : Prog Table := .perform (Action.read r)
def signalHistory : Prog (List Sample) := .perform Action.signalHistory
def addSample (s : Sample) : Prog Unit := .perform (Action.addSample s)
def write (r : Ref) (f : Table → Table) : Prog Unit := .perform (Action.write r f)

def cellCacheTtlSec : Int := 5

def signalHistoryMax : Nat := 181

def newNr : Option NrCell → Prog (Option Ref)
  | none => pure none
  | some n => some <$> new true { toFields := nrFields n }

def newSnapshot : Option (Cell NrCell) → Prog (Option Ref)
  | none => pure none
  | some c => do
    let nr ← newNr c.nr
    some <$> new true { toFields := cellFields c, nr := nr }

def refreshServingCell (lua : Lua) (turn : Turn) : Prog (Option Ref) := do
  let resp ← sendAt (.servingcell turn)
  let cell ← newSnapshot (resp.bind (servingCellSnapshot lua))
  setCellCache cell (← osTime (.refreshed turn))
  return cell

def shallowCopy : Option Ref → Prog (Option Ref)
  | none => pure none
  | some r => do some <$> new false (← read r)

def expired (cache : Option Ref × Int) (now : Int) : Bool :=
  cache.1.isNone || cellCacheTtlSec ≤ now - cache.2

def cachedServingCell (lua : Lua) : Prog (Option Ref) := do
  let cache ← cellCache
  let now ← osTime .lookup
  if expired cache now then
    let _ ← refreshServingCell lua .lookup
  let cache ← cellCache
  shallowCopy cache.1

def readNested : Option Ref → Prog (Option Fields)
  | none => pure none
  | some r => do return some (← read r).toFields

def readCell : Option Ref → Prog Picture
  | none => pure {}
  | some r => do
    let t ← read r
    let nr ← readNested t.nr
    let lteAnchor ← readNested t.lteAnchor
    return { cell := t.toFields, nr := nr, lteAnchor := lteAnchor }

/-! ## The SIM card -/

/-- `resp:match('%+CPIN:%s*word')`. -/
def reportsPin (resp : Text) (word : String) : Bool :=
  (search (fun t => (strip "+CPIN:" t).bind fun rest =>
    strip word.toList (rest.dropWhile isSpace)) resp).isSome

/-- `attempts:match('%+QPINC:%s*"SC",(%d+)')`. -/
def pinAttempts (resp : Text) : Option Text :=
  search (fun t => (strip "+QPINC:" t).bind fun rest =>
    (strip "\"SC\"," (rest.dropWhile isSpace)).bind fun rest =>
      match rest.takeWhile isDigit with
      | [] => none
      | d :: ds => some (d :: ds)) resp

def asksPin (resp : Option Text) : Bool :=
  resp.elim false fun resp => !reportsPin resp "READY" && reportsPin resp "SIM PIN"

def pinStatus (lua : Lua) (resp attempts : Option Text) : Nat × Option Rat :=
  match resp with
  | none => (0, none)
  | some resp =>
    if reportsPin resp "READY" then (2, none)
    else if reportsPin resp "SIM PIN" then
      (3, some (((attempts.bind pinAttempts).bind lua.tonumber).getD 3))
    else if reportsPin resp "SIM PUK" then (4, some 0)
    else (1, none)

def simPinSnapshot (lua : Lua) : Prog (Nat × Option Rat) := do
  let resp ← sendAt .cpin
  if asksPin resp then
    return pinStatus lua resp (← sendAt .qpinc)
  else
    return pinStatus lua resp none

/-- `iccid:gsub('F$', '')`. -/
def dropFiller (iccid : Text) : Text :=
  if iccid.getLast? = some 'F' then iccid.dropLast else iccid

/-- Field `i` of the reply, if there is one. -/
def replyField (tag : String) (i : Nat) (resp : Option Text) : Option Text :=
  (resp.bind (csvFields · tag.toList)).bind (field · i)

/-- `numeric_result(resp, 14)`. -/
def numericResult (minLen : Nat) (resp : Text) : Option Text :=
  (replyLines resp).findSome? fun line =>
    let value := (line.dropWhile isSpace).takeWhile isDigit
    if value ≠ [] ∧ ((line.dropWhile isSpace).dropWhile isDigit).all isSpace ∧ minLen ≤ value.length
    then some value else none

def technology (p : Picture) (networkName : Text) : Nat :=
  if p.nr.isSome || (p.cell.mode.bind (strip "5G NSA")).isSome ||
      networkName.has "NR5G-NSA" then 51
  else if networkName.has "NR5G" then 5
  else if networkName.has lte then 4
  else if networkName.has "WCDMA" || networkName.has "UMTS" then 3
  else if networkName ≠ [] ∧ networkName ≠ "No Service" then 2
  else 0

def strength (p : Picture) : Nat :=
  match (p.nr.bind (·.rsrp)).or p.cell.rsrp with
  | none => 0
  | some rsrp =>
    if -80 ≤ rsrp then 4
    else if -95 ≤ rsrp then 3
    else if -110 ≤ rsrp then 2
    else 1

/-! ## Replies -/

structure NetworksInfo where
  networkMode : Text
  carrier : Text
  phoneNumber : Text
  apn : Text
  ip : Option Text
  gateway : Option Text
  dns : List Text
  ipv6 : List (Text × List Text)
  trafficTotal : Text
  cellInfo : Picture

structure NetworksStatus where
  status : Nat
  dialStatus : Nat
  rsrp : Option Rat
  rsrq : Option Rat
  rssi : Option Rat
  sinr : Option Rat
  nr : Option Fields
  trafficTotal : Text

structure SimsStatus where
  status : Nat
  pinCounter : Option Rat
  carrier : Text
  apn : Text
  iccid : Option Text
  technology : Nat
  strength : Nat

/-- `sim_card_entry`, which `modems_info` and `modems_status` send. -/
structure SimCardEntry extends SimsStatus where
  name : Text
  imsi : Option Text
  dialStatus : Nat
  trafficTotal : Text

structure CellInfo where
  networkType : Nat
  tac : Option Text
  cellId : Option Text
  signal : List Row

structure SignalsHistory where
  networkType : Option Nat
  signals : List Sample

inductive Reply
  | networksInfo (r : NetworksInfo)
  | networksStatus (r : NetworksStatus)
  | simsStatus (r : SimsStatus)
  | simCardEntry (r : SimCardEntry)
  | cellInfo (r : CellInfo)
  | signalsHistory (r : SignalsHistory)
  | leds (strength : Nat)

def isUp (s : Option Status) : Bool := s.elim false (·.up)

def configuredApn (v : Option Text) : Text := v.getD "internet"

/-- `networks_info`, by what it is told and the cell it presents. -/
def networksInfoReply (status4 status6 : Option Status) (cops cnum modes apn : Option Text)
    (traffic : Text) (cell : Picture) : NetworksInfo where
  networkMode := upper (modes.getD "AUTO")
  carrier := (replyField "+COPS" 3 cops).getD []
  phoneNumber := ((replyField "+CNUM" 2 cnum).getD []).filter (· ≠ quote)
  apn := configuredApn apn
  ip := status4.bind (·.ipv4)
  gateway := status4.bind (·.nexthop)
  dns := status4.elim [] (·.dns)
  ipv6 := match status6.bind (·.ipv6) with
    | none => []
    | some ip => [(ip, status6.elim [] (·.dns))]
  trafficTotal := traffic
  cellInfo := cell

def connectionStatus (status status4 status6 : Option Status) (desired : Bool) : Nat :=
  if isUp status && (isUp status4 || isUp status6) then 0
  else if desired && status.elim false (·.pending) then 1
  else if desired then 3
  else 2

def networksStatusReply (status status4 status6 : Option Status) (dialEnabled : Option Text)
    (traffic : Text) (p : Picture) : NetworksStatus :=
  let signal := p.nr.getD p.cell
  let desired := dialEnabled ≠ some ['0']
  { status := connectionStatus status status4 status6 desired
    dialStatus := if desired then 0 else 1
    rsrp := signal.rsrp
    rsrq := signal.rsrq
    rssi := signal.rssi
    sinr := signal.sinr
    nr := p.nr
    trafficTotal := traffic }

def simsStatusReply (pin : Nat × Option Rat) (cops qccid qnwinfo apn : Option Text) (p : Picture) :
    SimsStatus :=
  let networkName := (replyField "+QNWINFO" 1 qnwinfo).getD []
  let operator := (replyField "+COPS" 3 cops).getD []
  { status :=
      if pin.1 = 2 ∧ (networkName = [] ∨ networkName = "No Service") ∧ operator = [] then 5
      else pin.1
    pinCounter := pin.2
    carrier := operator
    apn := configuredApn apn
    iccid := (replyField "+QCCID" 1 qccid).map dropFiller
    technology := technology p networkName
    strength := strength p }

def simCardReply (pin : Nat × Option Rat) (qccid cops qnwinfo : Option Text)
    (status : Option Status) (name apn cimi : Option Text) (traffic : Text) (p : Picture) :
    SimCardEntry where
  status := pin.1
  pinCounter := pin.2
  carrier := (replyField "+COPS" 3 cops).getD []
  apn := configuredApn apn
  iccid := (replyField "+QCCID" 1 qccid).map dropFiller
  technology := technology p ((replyField "+QNWINFO" 1 qnwinfo).getD [])
  strength := strength p
  name := name.getD ((replyField "+COPS" 3 cops).getD [])
  imsi := cimi.bind (numericResult 14)
  dialStatus := if isUp status then 0 else 1
  trafficTotal := traffic

def cellInfoReply (lua : Lua) (listing : Option Text) (p : Picture) : CellInfo where
  networkType := (carriers lua listing p).1
  tac := p.cell.tac
  cellId := enbLabel p.cell.cellId
  signal := (carriers lua listing p).2

def signalsHistoryReply (seconds : Option Int) (now : Int) (samples : List Sample) :
    SignalsHistory :=
  let samples := samples.filter fun s => now - max 1 (seconds.getD 180) ≤ s.timestamp
  { networkType := samples.getLast?.map (·.networkType), signals := samples }

def ledStrength (p : Picture) : Nat :=
  match p.nr with
  | some n => (signalLevel .rsrp n.rsrp).getD 0
  | none =>
    if (p.cell.mode.bind (strip lte)).isSome then (signalLevel .rsrp p.cell.rsrp).getD 0 else 0

/-! ## Requests -/

/-- The table that goes under `lte_anchor`. -/
def anchorFields (f : Fields) : Fields where
  band := f.band
  cellId := f.cellId
  ulBandwidth := f.ulBandwidth
  dlBandwidth := f.dlBandwidth
  rsrp := f.rsrp
  rsrq := f.rsrq
  rssi := f.rssi
  sinr := f.sinr

def nrValues (nr f : Fields) : Fields :=
  { f with
    band := nr.band
    cellId := nr.cellId
    rsrp := nr.rsrp
    rsrq := nr.rsrq
    sinr := nr.sinr
    rssi := none
    ulBandwidth := none
    dlBandwidth := nr.dlBandwidth }

def promoteTable (nr : Fields) (anchor : Ref) (t : Table) : Table :=
  { t with toFields := nrValues nr t.toFields, lteAnchor := some anchor }

/-- With 5G the cell is presented as the 5G cell, and the LTE cell becomes its anchor. -/
def presentNr (r n : Ref) : Prog Unit := do
  let t ← read r
  let anchor ← new false { toFields := anchorFields t.toFields }
  let nr ← read n
  write r (promoteTable nr.toFields anchor)

def promote (r : Ref) : Option Ref → Prog Unit
  | none => pure ()
  | some n => presentNr r n

/-- The `id` of the cell that is presented. -/
def presentedId (t : Fields) (anchored : Bool) (label : Option Text) : Option Text :=
  if anchored then some (shown t.cellId ++ " / LTE ".toList ++ shown label) else label

def labelTable (label : Option Text) (t : Table) : Table :=
  { t with id := presentedId t.toFields t.lteAnchor.isSome label }

/-- What `networks_info` does to its copy. -/
def present : Option Ref → Prog Unit
  | none => pure ()
  | some r => do
    let t ← read r
    promote r t.nr
    write r (labelTable (enbLabel t.cellId))
    write r fun u => { u with toFields := addSignalLevels u.toFields }

def networksInfo (lua : Lua) : Prog Reply := do
  let cell ← cachedServingCell lua
  let _ ← interfaceStatus .wwan
  let status4 ← interfaceStatus .wwan4
  let status6 ← interfaceStatus .wwan6
  present cell
  let cops ← sendAt .cops
  let cnum ← sendAt .cnum
  let modes ← currentConfig .modes
  let apn ← currentConfig .apn
  let traffic ← trafficTotal
  let p ← readCell cell
  return .networksInfo (networksInfoReply status4 status6 cops cnum modes apn traffic p)

def networksStatus (lua : Lua) : Prog Reply := do
  let cell ← cachedServingCell lua
  let status ← interfaceStatus .wwan
  let status4 ← interfaceStatus .wwan4
  let status6 ← interfaceStatus .wwan6
  let dialEnabled ← currentConfig .dialEnabled
  let traffic ← trafficTotal
  let p ← readCell cell
  return .networksStatus (networksStatusReply status status4 status6 dialEnabled traffic p)

def simsStatus (lua : Lua) : Prog Reply := do
  let pin ← simPinSnapshot lua
  let cops ← sendAt .cops
  let qccid ← sendAt .qccid
  let qnwinfo ← sendAt .qnwinfo
  let cell ← cachedServingCell lua
  let p ← readCell cell
  let apn ← currentConfig .apn
  return .simsStatus (simsStatusReply pin cops qccid qnwinfo apn p)

def simCardEntry (lua : Lua) : Prog Reply := do
  let pin ← simPinSnapshot lua
  let qccid ← sendAt .qccid
  let cops ← sendAt .cops
  let qnwinfo ← sendAt .qnwinfo
  let cell ← cachedServingCell lua
  let p ← readCell cell
  let status ← interfaceStatus .wwan
  let name ← currentConfig .simName
  let apn ← currentConfig .apn
  let cimi ← sendAt .cimi
  let traffic ← trafficTotal
  return .simCardEntry (simCardReply pin qccid cops qnwinfo status name apn cimi traffic p)

/-- `carrier_snapshot`: the listing and the cell, from which the rows are made. -/
def carrierSnapshot (lua : Lua) : Prog (Option Text × Picture) := do
  let cell ← cachedServingCell lua
  let listing ← sendAt .qcainfo
  let p ← readCell cell
  return (listing, p)

def cellInfo (lua : Lua) : Prog Reply := do
  let (listing, p) ← carrierSnapshot lua
  return .cellInfo (cellInfoReply lua listing p)

def signalsHistory (seconds : Option Int) : Prog Reply := do
  let now ← osTime .history
  let samples ← signalHistory
  return .signalsHistory (signalsHistoryReply seconds now samples)

def ledLevel : Option Ref → Prog Nat
  | none => pure 0
  | some r => ledStrength <$> readCell (some r)

/-- `signal_sample`, apart from its notes for the watchdog. -/
def signalSample (lua : Lua) : Prog Reply := do
  let cell ← refreshServingCell lua .sampler
  let level ← ledLevel cell
  let (listing, p) ← carrierSnapshot lua
  let (kind, rows) := carriers lua listing p
  if rows.isEmpty then return .leds level
  let now ← osTime .sampled
  addSample { timestamp := now, networkType := kind, signal := rows }
  return .leds level

/-! ## Interleavings -/

inductive Method
  | networksInfo | networksStatus | simsStatus | simCardEntry | cellInfo
  | signalsHistory (time : Option Int)
  deriving DecidableEq

inductive Task
  | request (m : Method)
  | sample
  deriving DecidableEq

def Method.program (lua : Lua) : Method → Prog Reply
  | .networksInfo => Daemon.networksInfo lua
  | .networksStatus => Daemon.networksStatus lua
  | .simsStatus => Daemon.simsStatus lua
  | .simCardEntry => Daemon.simCardEntry lua
  | .cellInfo => Daemon.cellInfo lua
  | .signalsHistory time => Daemon.signalsHistory time

def Task.program (lua : Lua) : Task → Prog Reply
  | .request m => m.program lua
  | .sample => signalSample lua

structure Job where
  task : Task
  outside : Outside

namespace Store

def picture (w : Store) (r : Ref) : Picture where
  cell := (w.tables.read r).toFields
  nr := (w.tables.read r).nr.map fun n => (w.tables.read n).toFields
  lteAnchor := (w.tables.read r).lteAnchor.map fun n => (w.tables.read n).toFields

def snapshot (w : Store) : Option Picture := w.cellCache.map w.picture

def look (w : Store) (i : Nat) : Store :=
  { w with taken := Function.update w.taken i (some ⟨w.snapshot, w.signalHistory⟩) }

def addSample (w : Store) (s : Sample) : Store :=
  { w with
    signalHistory := (w.signalHistory ++ [s]).drop (w.signalHistory.length + 1 - signalHistoryMax) }

end Store

def answer (jobs : Nat → Job) (i : Nat) : (a : Action) → Store → a.Answer × Store
  | .ask q, w => ((jobs i).outside q, w)
  | .cellCache, w => ((w.cellCache, w.cellCacheAt), w.look i)
  | .setCellCache cell now, w => ((), { w with cellCache := cell, cellCacheAt := now })
  | .new kept t, w =>
    (w.tables.length, { w with tables := w.tables.alloc (if kept then none else some i) t })
  | .read r, w => (w.tables.read r, w)
  | .write r f, w => ((), { w with tables := w.tables.write r f })
  | .signalHistory, w => (w.signalHistory, w.look i)
  | .addSample s, w => ((), w.addSample s)

end GlXe3000.Cellular.Radio.Daemon
