import GlXe3000.Lib.Lua
import GlXe3000.Lib.Machine

/-! # Downtime: `parental-control.lua` and `black_white_list.lua`

Both objects keep rules in the one list of the firewall, in which the first match decides. Each knows
its own rules by the beginning of their names. When something changes it deletes them, wherever they
are, and appends new ones. -/

namespace GlXe3000.Oui.Parental
open Text

/-! ## Rules of the firewall -/

inductive Day
  | mon | tue | wed | thu | fri | sat | sun
  deriving DecidableEq

namespace Day

def all : List Day := [mon, tue, wed, thu, fri, sat, sun]

def number : Day → Nat
  | mon => 1
  | tue => 2
  | wed => 3
  | thu => 4
  | fri => 5
  | sat => 6
  | sun => 7

end Day

inductive Target
  | accept
  | reject
  | drop
  deriving DecidableEq

/-- A `rule` section. A condition that is not there always holds. -/
structure Rule where
  name : Text
  src : Text
  dest : Option Text
  mac : Option Text
  weekdays : Option (List Day)
  /-- `start_time` and `stop_time`. -/
  times : Option (Text × Text)
  target : Target
  deriving DecidableEq

structure Packet where
  mac : Text
  day : Day
  time : Nat

/-- How the firewall reads `start_time` and `stop_time`: whether a time of day lies between them. -/
abbrev Clock := Text → Text → Nat → Bool

def Rule.forwards (rule : Rule) : Bool := rule.src = "lan" && rule.dest = some "wan"

/-- The rule is about packets from the LAN to the WAN, and the packet is one of those. -/
def Rule.applies (clock : Clock) (rule : Rule) (p : Packet) : Bool :=
  rule.forwards && rule.mac.all (· = p.mac) && rule.weekdays.all (p.day ∈ ·) &&
    rule.times.all fun times => clock times.1 times.2 p.time

def verdict (clock : Clock) (rules : List Rule) (p : Packet) : Option Target :=
  (rules.find? fun rule => rule.applies clock p).map Rule.target

/-! ## State -/

/-- `HH:MM`. -/
def isTime : Text → Bool
  | [h₁, h₂, ':', m₁, m₂] =>
    [h₁, h₂, m₁, m₂].all isDigit && toNumber [h₁, h₂] ≤ 23 && toNumber [m₁, m₂] ≤ 59
  | _ => false

abbrev Time := { t : Text // isTime t = true }

structure Entry where
  week : Rat
  enabled : Bool
  start : Time
  stop : Time

structure Group where
  id : Text
  name : Text
  macs : List Text
  /-- `schedules_days` is `everyday` and not `customize`. -/
  everyday : Bool
  schedules : List Entry
  appList : List Text
  categoryList : List Text
  blacklist : List Text

inductive Mode
  | black
  | white
  deriving DecidableEq

/-- `gl_parentalcontrol`, the section `black_white_list` and the rules. -/
structure Router where
  enable : Bool
  groups : List Group
  mode : Mode
  blackMac : List Text
  whiteMac : List Text
  rules : List Rule

structure Range where
  start : Time
  stop : Time
  weeks : List Rat

/-- Library functions: `pairs` visits a table in any order, and an id that is made up is new. -/
structure Env extends Lua where
  pairs : List Range → List Range
  pairs_perm : ∀ l, (pairs l).Perm l
  newId : List Text → Text
  newId_not_mem : ∀ ids, newId ids ∉ ids

variable (env : Env) (r : Router) (args : Json)

/-! ## Checks -/

/-- `^%x%x:%x%x:%x%x:%x%x:%x%x:%x%x$`. -/
def isMac (t : Text) : Bool :=
  (pieces ':' t).length = 6 && (pieces ':' t).all fun piece => piece.length = 2 && piece.all isHex

def readTime (v : Option Json) : Except Result Time :=
  match v.bind Json.asText with
  | none => .error (err 1 "invalid schedule entry")
  | some t => if h : isTime t = true then .ok ⟨t, h⟩ else .error (err 1 "invalid schedule entry")

def normalizeEntry (entry : Json) : Except Result Entry := do
  let week ← (entry.index "week").mapError fun _ => Result.raised
  let week := week.bind env.number
  check (entry.isTable && week.any fun w => 0 ≤ w && w ≤ 7) (err 1 "invalid schedule entry")
  let start ← readTime (entry.field "begin")
  let stop ← readTime (entry.field "end")
  return {
    week := week.getD 0
    enabled := (entry.field "enabled").bind Json.asBool ≠ some false
    start := start
    stop := stop }

def normalizeSchedules (raw : Json) : Except Result (List Entry) := do
  check raw.isTable (err 1 "invalid schedules")
  raw.items.mapM (normalizeEntry env)

def normalizeMac (mac : Json) : Except Result Text :=
  match mac.asText.filter isMac with
  | some t => .ok (upper t)
  | none => .error (.err 1 ("invalid MAC address: ".toList ++ env.asString mac))

def copiedTexts (v : Option Json) (stored : List Text) : List Text :=
  match v with
  | none => stored
  | some v => v.items.map env.asString

def storedTexts (v : Json) : Except Result (List Text) :=
  match v.items with
  | [] => .ok []
  | _ :: _ => (env.optionValue v).map Value.entries

def copiedList (v : Option Json) (stored : List Text) : Except Result (List Text) :=
  match v.filter Json.isTable with
  | none => .ok stored
  | some v => storedTexts env v

def isCustomize (args : Json) : Bool :=
  (arg args "schedules_days").any fun v => v.isText "customize"

def writeGroup (g : Group) : Except Result Group := do
  let name := ((arg args "name").bind Json.asText).filter fun t => t ≠ [] && t.length ≤ 64
  check name.isSome (err 1 "invalid group name")
  let macs ← (((arg args "macs").map Json.items).getD []).mapM (normalizeMac env)
  let schedules ← normalizeSchedules env (Json.orElse (arg args "schedules") (.obj []))
  let blacklist ← copiedList env (arg args "blacklist") g.blacklist
  return { g with
    name := name.getD []
    macs := macs
    everyday := !isCustomize args
    schedules := schedules
    appList := copiedTexts env (arg args "app_list") g.appList
    categoryList := copiedTexts env (arg args "category_list") g.categoryList
    blacklist := blacklist }

/-! ## Rules of `parental-control` -/

def parentalName : Text := "GL-ParentalControl "

def Rule.isParental (rule : Rule) : Bool := (strip parentalName rule.name).isSome

def Entry.key (e : Entry) : Text := e.start.1 ++ '-' :: e.stop.1

def Range.key (range : Range) : Text := range.start.1 ++ '-' :: range.stop.1

def addRange (ranges : List Range) (e : Entry) (weeks : List Rat) : List Range :=
  if ranges.any fun range => range.key = e.key then
    ranges.map fun range =>
      if range.key = e.key then { range with weeks := range.weeks ++ weeks } else range
  else ranges ++ [⟨e.start, e.stop, weeks⟩]

def everyWeek : List Rat := Day.all.map fun d => (d.number : Rat)

/-- The ranges of a group. For every day there is only that of the first entry. -/
def rangesOf (g : Group) : List Range :=
  let enabled := g.schedules.filter Entry.enabled
  if g.everyday then (enabled.take 1).foldl (fun ranges e => addRange ranges e everyWeek) []
  else enabled.foldl (fun ranges e => addRange ranges e [e.week]) []

def weekdaysOf (range : Range) : List Day := Day.all.filter fun d => (d.number : Rat) ∈ range.weeks

structure Downtime where
  mac : Text
  weekdays : List Day
  start : Time
  stop : Time

def downtimes (g : Group) : List Downtime :=
  (env.pairs (rangesOf g)).flatMap fun range =>
    if (weekdaysOf range).isEmpty then []
    else g.macs.map fun mac => ⟨mac, weekdaysOf range, range.start, range.stop⟩

def Downtime.rule (d : Downtime) (i : Nat) : Rule where
  name := parentalName ++ Nat.toDigits 10 (i + 1)
  src := "lan"
  dest := some "wan"
  mac := some d.mac
  weekdays := some d.weekdays
  times := some (d.start.1 ++ ":00".toList, d.stop.1 ++ ":00".toList)
  target := .reject

def parentalRules : List Rule :=
  if r.enable then (r.groups.flatMap (downtimes env)).mapIdx fun i d => d.rule i else []

/-- `apply_firewall` of `parental-control`. -/
def applyParental : Router :=
  { r with rules := (r.rules.filter fun rule => !rule.isParental) ++ parentalRules env r }

/-! ## Methods of `parental-control` -/

def setConfig : Result × Router :=
  match (arg args "enable").bind Json.asBool with
  | none => (err 1 "enable must be boolean", r)
  | some enable => (.ok, applyParental env { r with enable := enable })

def emptyGroup (id : Text) : Group := ⟨id, [], [], true, [], [], [], []⟩

def addGroup : Result × Router :=
  match writeGroup env args (emptyGroup (env.newId (r.groups.map Group.id))) with
  | .error e => (e, r)
  | .ok g => (.ok, applyParental env { r with groups := r.groups ++ [g] })

def requestedId : Text := env.asString (Json.orElse (arg args "group_id") (.str []))

def groupById (id : Text) : Option Group := r.groups.find? fun g => g.id = id

def replaceGroup (g : Group) : List Group → List Group
  | [] => []
  | h :: hs => if h.id = g.id then g :: hs else h :: replaceGroup g hs

def setGroup : Result × Router :=
  match groupById r (requestedId env args) with
  | none => (err 1 "group not found", r)
  | some g =>
    match writeGroup env args g with
    | .error e => (e, r)
    | .ok g' =>
      (.ok, applyParental env { r with groups := replaceGroup g' r.groups })

def removeGroup : Result × Router :=
  match groupById r (requestedId env args) with
  | none => (err 1 "group not found", r)
  | some g =>
    (.ok, applyParental env { r with groups := r.groups.eraseP fun h => h.id = g.id })

/-! ## `black_white_list` -/

def accessName : Text := "GL-UI Access "

def Rule.isAccess (rule : Rule) : Bool := (strip accessName rule.name).isSome

def validMacs (stored : List Text) : List Text :=
  ((stored.map upper).filter isMac).foldl (fun out mac => if mac ∈ out then out else out ++ [mac]) []

/-- `list`. -/
def listOf (mode : Mode) : List Text :=
  validMacs (match mode with | .white => r.whiteMac | .black => r.blackMac)

def accessRule (suffix : Text) (mac dest : Option Text) (target : Target) : Rule where
  name := accessName ++ suffix
  src := "lan"
  dest := dest
  mac := mac
  weekdays := none
  times := none
  target := target

def addressRules (what : String) (target : Target) (i : Nat) (mac : Text) : List Rule :=
  [accessRule (what.toList ++ " input ".toList ++ Nat.toDigits 10 (i + 1)) (some mac) none target,
    accessRule (what.toList ++ " forward ".toList ++ Nat.toDigits 10 (i + 1)) (some mac)
      (some "wan") target]

def accessRules : List Rule :=
  match r.mode with
  | .white =>
    ((listOf r .white).mapIdx (addressRules "allow" .accept)).flatten ++
      [accessRule "reject other input" none none .reject,
        accessRule "reject other forward" none (some "wan") .reject]
  | .black => ((listOf r .black).mapIdx (addressRules "block" .reject)).flatten

/-- `apply_firewall` of `black_white_list`. -/
def applyAccess : Router :=
  { r with rules := (r.rules.filter fun rule => !rule.isAccess) ++ accessRules r }

def save (mode : Mode) (macs : List Text) : Router :=
  applyAccess (match mode with
    | .white => { r with mode := .white, whiteMac := macs }
    | .black => { r with mode := .black, blackMac := macs })

def requestedMode : Except Result Mode :=
  if (arg args "mode").any (Json.isText · "black") then .ok .black
  else if (arg args "mode").any (Json.isText · "white") then .ok .white
  else .error (err 1 "invalid mode")

/-- `black_white_list.set_config`. -/
def setList : Result × Router :=
  match (do
    let mode ← requestedMode args
    let macs ← storedTexts env ((arg args "mac").getD .null)
    return (mode, macs) : Except Result (Mode × List Text)) with
  | .error e => (e, r)
  | .ok (mode, macs) => (.ok, save r mode macs)

def setSingleMac : Result × Router :=
  match (do
    let mode ← requestedMode args
    let mac ← ((arg args "mac").bind Json.asText).elim (.error (err 1 "missing mac")) Except.ok
    return (mode, upper mac) : Except Result (Mode × Text)) with
  | .error e => (e, r)
  | .ok (mode, wanted) =>
    let others := (listOf r mode).filter (· ≠ wanted)
    let add := (arg args "operate").any (Json.isText · "add")
    (.ok, save r mode (if add then others ++ [wanted] else others))

/-! ## Calls -/

inductive Call
  | setConfig (args : Json)
  | addGroup (args : Json)
  | setGroup (args : Json)
  | removeGroup (args : Json)
  | setList (args : Json)
  | setSingleMac (args : Json)

structure Event where
  env : Env
  call : Call

def machine : Machine Router Event where
  step r e :=
    match e.call with
    | .setConfig args => (setConfig e.env r args).2
    | .addGroup args => (addGroup e.env r args).2
    | .setGroup args => (setGroup e.env r args).2
    | .removeGroup args => (removeGroup e.env r args).2
    | .setList args => (setList e.env r args).2
    | .setSingleMac args => (setSingleMac r args).2

end GlXe3000.Oui.Parental
