import GlXe3000.Lib.Lua
import GlXe3000.Lib.Process
import GlXe3000.Cellular.Rat.Rpc

/-! # `modem.set_band_config` and the band masks of `modem.set_sim_config`

Both store the mask in the section `state` of `gl-cellular` and tell the modem which bands of each
technology it may use. Of `set_sim_config` the network mode is here as well, since it is told to the
modem first; the other fields are left out. -/

namespace GlXe3000.Cellular.Bands
open Text

inductive Kind
  | lte | nsa | sa
  deriving DecidableEq

/-- `AT+QNWPREFCFG` for a list of bands or for the preferred mode; the answer is whether the modem says
`OK`. -/
inductive Act
  | band (kind : Kind) (list : Text)
  | modePref (pref : Text)
  deriving DecidableEq

abbrev Script := Proc Act fun _ => Bool

/-- How a call fails: with a message (and the code 1), or an error is raised. -/
inductive Failure
  | refused (message : String)
  | raised
  deriving DecidableEq

/-- `ALL_LTE_BANDS` and `ALL_NR_BANDS`. -/
structure Supported where
  lte : Text
  nr : Text

def Supported.of (s : Supported) : Kind → Text
  | .lte => s.lte
  | .nsa | .sa => s.nr

def supported : Supported where
  lte := ("1:2:3:4:5:7:8:12:13:14:17:18:19:20:25:26:28:29:30:32:34:38:39:40:41:42:43:46:48:" ++
    "66:71").toList
  nr := "1:2:3:5:7:8:12:13:14:18:20:25:26:28:29:30:38:40:41:48:66:70:71:75:76:77:78:79".toList

def splitBandList (raw : Text) : List Nat :=
  (fields ':' (raw.map fun c => if isDigit c then c else ':')).map toNumber

/-- What `ipairs` goes through; only tables can be. -/
def ipairs : Json → Except Failure (List Json)
  | .arr items => .ok items
  | .obj _ => .ok []
  | _ => .error .raised

/-- `#v`. -/
def lengthOf : Json → Except Failure Nat
  | .arr items => .ok items.length
  | .obj _ => .ok 0
  | .str t => .ok t.length
  | _ => .error .raised

section
variable (lua : Lua)

/-- The keys of the table `deny`; `nil` is not allowed as one. -/
def denied (blocked : List Json) : Except Failure (List Rat) :=
  blocked.mapM fun b => (lua.number b).elim (.error .raised) .ok

def allowedAfterBlocking (all : Text) (blocked : Option Json) : Except Failure Json := do
  let deny ← denied lua (← ipairs (blocked.getD (.arr [])))
  return .arr (((splitBandList all).filter fun b : Nat => (b : Rat) ∉ deny).map fun b : Nat => .num b)

def bandNumber (b : Json) : Option Nat :=
  (lua.number b).bind fun n =>
    if n = n.floor ∧ 1 ≤ n ∧ n ≤ 999 then some n.floor.toNat else none

def buildBandList (bands : Json) : Except Failure (Option Text) := do
  let items ← ipairs bands
  return (items.mapM (bandNumber lua)).bind fun ns =>
    if ns.isEmpty then none else some ([':'].intercalate (ns.map (Nat.toDigits 10)))

/-- `"only"` is `false` and `"block"` is `true`. -/
def normalizeFilterMode (value : Option Json) : Option Bool :=
  value.bind fun v =>
    if v.isText "only" || v.isText "ONLY" || lua.number v = some 0 then some false
    else if v.isText "block" || v.isText "BLOCK" || lua.number v = some 1 then
      some true
    else none

/-! ## The request -/

/-- `a or b`. -/
def either (a b : Option Json) : Option Json := if Json.truthy a then a else b

/-- The option a selection is stored in, which is also its field in a request, and its other name. -/
def Kind.option : Kind → String
  | .lte => "lte_bands"
  | .nsa => "nr_bands"
  | .sa => "sa_bands"

def Kind.label : Kind → String
  | .lte => "LTE"
  | .nsa => "NR-NSA"
  | .sa => "NR-SA"

def given (data : Json) (k : Kind) : Option Json :=
  either (arg data k.option) ((arg data "band_list").bind (Json.field k.label.toList))

/-- `data.band_enable`, or else `data.band_mask_enabled`. -/
def maskGiven (data : Json) : Option Json := (arg data "band_enable").or (arg data "band_mask_enabled")

def modeGiven (data : Json) : Option Bool :=
  (normalizeFilterMode lua (arg data "band_filter_mode")).or
    (normalizeFilterMode lua (arg data "band_mask_mode"))

/-! ## What is stored -/

def state : Text := "state"

def storeBands (data : Json) (p : Package) (k : Kind) : Except Failure Package :=
  match given data k with
  | some (.arr (b :: bs)) => do
    let v ← (lua.optionValue (.arr (b :: bs))).mapError fun _ => Failure.raised
    return p.set state k.option.toList v
  | some (.arr []) | some (.obj _) => .ok (p.unset state k.option.toList)
  | _ => .ok p

def storeMode (mode : Option Bool) (p : Package) : Package :=
  match mode with
  | some block => p.set state "band_mask_mode"
    (.text (if block then "block" else "only"))
  | none => p

def storeEnabled (mask : Option Json) (p : Package) : Package :=
  match mask with
  | some v => p.set state "band_mask_enabled" (flag (some v))
  | none => p

def storeMask (data : Json) (p : Package) : Except Failure Package := do
  let p := storeMode (modeGiven lua data) (storeEnabled (maskGiven data) p)
  let p ← storeBands lua data p .lte
  let p ← storeBands lua data p .nsa
  storeBands lua data p .sa

/-! ## What the modem is told -/

def maskEnabled (data : Json) (p : Package) : Bool :=
  match maskGiven data with
  | some v => Json.truthy (some v)
  | none => isOn (p.get state "band_mask_enabled")

def blockMode (data : Json) (p : Package) : Bool :=
  match modeGiven lua data with
  | some block => block
  | none => p.get state "band_mask_mode" ≠ some (.text "only")

/-- The selection that counts: the one of the request if it is a table, or else the stored one. -/
def chosen (data : Json) (p : Package) (k : Kind) : Option Json :=
  match (given data k).filter Json.isTable with
  | some v => some v
  | none => (p.get state k.option.toList).map Value.toJson

def toApply (s : Supported) (data : Json) (p : Package) (k : Kind) : Except Failure (Option Json) :=
  if blockMode lua data p then (allowedAfterBlocking lua (s.of k) (chosen data p k)).map some
  else .ok (chosen data p k)

/-- The error to end with, if the modem does not say `OK`. -/
def unlessOk (refusal : Failure) : Bool → Option Failure
  | true => none
  | false => some refusal

inductive Plan
  | skip
  | fail (f : Failure)
  | refuse
  | tell (list : Text)

def planFor (bands : Option Json) : Plan :=
  match bands with
  | none => .skip
  | some v =>
    match lengthOf v, buildBandList lua v with
    | .error f, _ => .fail f
    | .ok 0, _ => .skip
    | .ok (_ + 1), .error f => .fail f
    | .ok (_ + 1), .ok none => .refuse
    | .ok (_ + 1), .ok (some list) => .tell list

def applyMask (kind : Kind) (bands : Option Json) (refusal : Failure) : Script (Option Failure) :=
  match planFor lua bands with
  | .skip => return none
  | .fail f => return some f
  | .refuse => return some refusal
  | .tell list => do
    let ok ← .perform (.band kind list)
    return unlessOk refusal ok

def applyAll : List (Kind × Option Json × Failure) → Script (Option Failure)
  | [] => return none
  | (kind, bands, refusal) :: l => do
    match ← applyMask lua kind bands refusal with
    | some r => return some r
    | none => applyAll l

def applyMasks (s : Supported) (data : Json) (p : Package) (refusal : Kind → Failure) :
    Script (Option Failure) :=
  match toApply lua s data p .lte, toApply lua s data p .nsa, toApply lua s data p .sa with
  | .ok lte, .ok nsa, .ok sa =>
    applyAll lua [(.lte, lte, refusal .lte), (.nsa, nsa, refusal .nsa), (.sa, sa, refusal .sa)]
  | .error r, _, _ | _, .error r, _ | _, _, .error r => return some r

/-- `AT+QNWPREFCFG` for a list, whatever the modem says to it. -/
def tell (kind : Kind) (list : Text) : Script Unit := do
  let _ ← .perform (Act.band kind list)

/-- `set_band_config`, once the mask is stored. Without a mask every kind gets the same list. -/
def tellBandConfig (s : Supported) (data : Json) (p : Package) : Script (Option Failure) := do
  if maskEnabled data p then
    applyMasks lua s data p fun _ => .refused "modem rejected band list"
  else
    tell .lte s.lte
    tell .nsa s.lte
    tell .sa s.lte
    return none

def simRefusal : Kind → Failure
  | .lte => .refused "modem rejected LTE band mask"
  | .nsa => .refused "modem rejected 5G NSA band mask"
  | .sa => .refused "modem rejected 5G SA band mask"

def networkPref (data : Json) : Option Text :=
  if Json.truthy (arg data "network_mode") then
    (arg data "network_mode").bind fun m => Rat.modePrefs (upper (lua.asString m))
  else none

def tellMode (pref : Option Text) : Script Bool :=
  match pref with
  | none => return true
  | some pref => .perform (Act.modePref pref)

/-- `set_sim_config`, once the mask is stored. -/
def tellSimConfig (s : Supported) (data : Json) (p : Package) : Script (Option Failure) := do
  unless ← tellMode (networkPref lua data) do return some (.refused "modem rejected network mode")
  if maskEnabled data p then
    applyMasks lua s data p simRefusal
  else
    tell .lte s.lte
    tell .nsa s.nr
    tell .sa s.nr
    return none

/-- `args.data or args`. -/
def dataOf (args : Json) : Json := Json.orElse (arg args "data") args

/-- A number, `true` and `null` cannot be indexed. -/
def indexed : Json → Bool
  | .num _ | .bool _ | .null => false
  | _ => true

/-- A method: the package it leaves and what it then does, or an error before that. -/
def method (script : Json → Package → Script (Option Failure)) (args : Json) (p : Package) :
    Except Failure (Package × Script (Option Failure)) := do
  check (indexed (dataOf args)) .raised
  let q ← storeMask lua (dataOf args) p
  return (q, script (dataOf args) q)

def setBandConfig (s : Supported) (args : Json) (p : Package) :
    Except Failure (Package × Script (Option Failure)) :=
  method lua (tellBandConfig lua s) args p

def setSimConfig (s : Supported) (args : Json) (p : Package) :
    Except Failure (Package × Script (Option Failure)) :=
  method lua (tellSimConfig lua s) args p

end

end GlXe3000.Cellular.Bands
