import GlXe3000.Lib.Json
import GlXe3000.Lib.Machine
import GlXe3000.Lib.Process
import GlXe3000.Oui.Dispatch

/-! # The cloud client `gl-cloud`

What the daemon does with a message of the broker. A handler is a process: it calls the local RPC
endpoint, `ubus` or a command, writes configuration and publishes, and what it is answered decides
how it goes on; it fails where the script raises an error. The local endpoint is `oui-rpc.lua`,
which is reached from loopback. -/

namespace GlXe3000.Cloud
open Text

/-! ## What a handler does -/

inductive Action
  /-- The request of `local_rpc`. -/
  | rpc (object : Text) (method : Option Json) (params : Json)
  | ubusCall (object method : Text) (args : Json)
  | ubusSend (event : Text) (data : Json)
  /-- The reads of files, UCI and `ubus` of a `get_callback`, and what it makes of them and of the
  answers to its RPC calls. -/
  | compose (feature : Text) (answers : List (Option Json))
  | uciGet (config sec option : Text)
  | uciSet (config sec option value : Text)
  | uciDelete (config sec option : Text)
  | uciCommit (config : Text)
  /-- `wifi_logical`: the access points, each with its section. -/
  | wifiLogical
  | currentTime
  | readFile (path : Text)
  | execute (command : Text)
  | sync
  | sleep
  | publish (topic : Text) (body : Json)

def Action.Answer : Action → Type
  | .rpc _ _ _ | .ubusCall _ _ _ => Option Json
  | .compose _ _ => Option Json
  | .uciGet _ _ _ => Option Text
  | .wifiLogical => List (Text × Text)
  | .currentTime => Rat
  | .readFile _ => Text
  | _ => Unit

abbrev Script (α : Type) := Proc.Failing Action Action.Answer Unit α

namespace Script

def perform (a : Action) : Script a.Answer := liftM (Proc.perform a : Proc Action _ _)

def raise {α : Type} : Script α := throw ()

/-- `if c then m end`. -/
def onlyIf (c : Bool) (m : Script Unit) : Script Unit := if c then m else pure ()

def evaluate {α : Type} : Except Unit α → Script α
  | .ok x => pure x
  | .error _ => raise

end Script

open Script

structure Runtime extends Lua where
  /-- `cjson.decode`. -/
  decode : Text → Option Json

def code (n : Rat) : Option Json := some (.num n)

/-- A table with the field `code` and, if any, `msg`. -/
def failure (n : Rat) (msg : Option String) : Option Json :=
  some (.obj (("code", .num n) ::
    (msg.map fun m => ("msg".toList, Json.str m.toList)).toList))

/-- Whether `module .. "." .. method`, in the error log of `local_rpc`, is a text. -/
def loggable : Option Json → Bool
  | some (.str _) | some (.num _) => true
  | _ => false

/-- A method that is no string is refused by the endpoint, and the refusal is logged. -/
def localRpc (object : Text) (method : Option Json) (params : Option Json) :
    Script (Option Json) := do
  let r ← perform (.rpc object method (params.getD (.obj [])))
  if loggable method then return r else raise

def call (object method : String) (params : Option Json) : Script (Option Json) :=
  localRpc object.toList (some (.str method.toList)) params

def CFG : Text := "gl-cloud"
def SEC : Text := "@cloud[0]"

def notifyStatus : Script Unit := do
  let _ ← perform (.ubusCall "gl-session" "notify"
    (.obj [("name", .str "cloud.status")]))

def reconnect : Script Unit := do
  let _ ← perform (.ubusCall "gl-cloud" "reconnect" (.obj []))

variable (lua : Runtime)

def uciSet (config sec option : Text) (value : Json) : Script Unit := do
  let t ← evaluate ((lua.checkString value).elim (.error ()) .ok)
  perform (.uciSet config sec option t)

/-! ## Attributes -/

def callAll : List (String × String) → Script (List (Option Json))
  | [] => return []
  | (object, method) :: calls => do
    let answer ← call object method none
    let answers ← callAll calls
    return answer :: answers

/-- A `get_callback` that makes these calls and reports on the answers. -/
def report (feature : String) (calls : List (String × String)) : Script (Option Json) := do
  let answers ← callAll calls
  perform (.compose feature.toList answers)

def baseGet : Script (Option Json) := report "base" [("system", "get_status")]
def systemGet : Script (Option Json) := report "system" []
def goodcloudGet : Script (Option Json) := report "goodcloud" [("local-access", "get_config")]
def wifiGet : Script (Option Json) := report "wifi" []
def clientsGet : Script (Option Json) := report "clients" [("clients", "get_list")]
def cableGet : Script (Option Json) :=
  report "cable" [("cable", "get_ports_status"), ("cable", "get_ports_config")]
def ethernet1Get : Script (Option Json) :=
  report "ethernet1" [("cable", "get_status"), ("cable", "get_config")]
def kmwanGet : Script (Option Json) := report "kmwan" [("kmwan", "get_config")]
def mcuGet : Script (Option Json) := report "mcu" []

/-- `cell.rsrp` for `cell = (cell_info.signal or {})[1] or {}`. -/
def cellRsrp (cellInfo : Option Json) : Option Json :=
  ((cellInfo.bind (Json.field "signal")).bind (Json.item 1)).bind (Json.field "rsrp")

def modemGet : Script (Option Json) := do
  let info ← call "modem" "info" none
  let status ← call "modem" "status" none
  let cellInfo ← call "modem" "get_cell_info" none
  if Json.truthy (cellRsrp cellInfo) then
    perform (.compose "modem" [info, status, cellInfo])
  else
    let history ← call "modem" "get_signals" none
    perform (.compose "modem" [info, status, cellInfo, history])

def shellQuote (t : Text) : Text :=
  '\'' :: t.flatMap (fun c => if c = '\'' then "'\\''" else [c]) ++ ['\'']

def setFlag (value : Json) (name : String) (config sec option : Text) : Script Unit :=
  match (value.field name.toList).bind Json.asBool with
  | some b => perform (.uciSet config sec option (if b then ['1'] else ['0']))
  | none => pure ()

def goodcloudSet (value : Json) : Script (Option Json) := do
  if value.isTable then
    setFlag value "cloud_enable" CFG SEC "enable"
    setFlag value "rtty_ssh" "rtty" "general" "ssh_en"
    setFlag value "rtty_web" "rtty" "general" "web_en"
    perform (.uciCommit CFG)
    perform (.uciCommit "rtty")
    perform .sync
    notifyStatus
    return none
  else return code 20010002

/-- `zone:match("^([^:]+):(.+)$")`. -/
def splitZone (zone : Text) : Option (Text × Text) :=
  (cut ':' zone).bind fun r => if r.1.isEmpty || r.2.isEmpty then none else some r

/-- A value that is there and not empty: `v and v ~= ""`. -/
def given : Option Json → Option Json
  | none | some (.bool false) | some (.str []) => none
  | some v => some v

def setHostname (value : Json) : Script Unit :=
  match given (value.field "hostname") with
  | none => pure ()
  | some hostname => do
    uciSet lua "system" "@system[0]" "hostname" hostname
    perform (.uciCommit "system")
    perform (.execute ("hostname ".toList ++ shellQuote (lua.asString hostname)))

/-- A zone that is no string has no method `match`. -/
def setTimezone (value : Json) : Script Unit :=
  match value.field "timezone" with
  | none | some (.bool false) => pure ()
  | some (.str zone) =>
    match splitZone zone with
    | none => pure ()
    | some (zonename, tz) => do
      perform (.uciSet "system" "@system[0]" "zonename" zonename)
      perform (.uciSet "system" "@system[0]" "timezone" tz)
      perform (.uciCommit "system")
      perform (.execute "/etc/init.d/sysntpd restart >/dev/null 2>&1")
  | some _ => raise

/-- `values.strong_password or values.weak_password`. -/
def password (value : Json) : Option Json :=
  if Json.truthy (value.field "strong_password") then value.field "strong_password"
  else value.field "weak_password"

def setPassword (value : Json) : Script Unit :=
  match given (password value) with
  | none => pure ()
  | some p => do
    let quoted := shellQuote (lua.asString p)
    perform (.execute ("(echo ".toList ++ quoted ++ "; sleep 1; echo ".toList ++ quoted ++
      ") | passwd -a sha256 >/dev/null 2>&1".toList))
    perform (.execute "/etc/init.d/dropbear restart >/dev/null 2>&1")

def systemSet (value : Json) : Script (Option Json) := do
  if value.isTable then
    setHostname lua value
    setTimezone value
    setPassword lua value
    perform (.ubusSend "gl-cloud" (.obj [("feature", .str "system")]))
    return failure 0 none
  else return failure 20010002 none

def setText (value : Json) (name : String) (config sec option : Text) : Script Unit :=
  match (given (value.field name.toList)).bind Json.asText with
  | some t => perform (.uciSet config sec option t)
  | none => pure ()

def setAccessPoint (value : Json) (key sec : Text) : Script Unit :=
  match value.field key with
  | some requested => do
    setText requested "ssid" "wireless" sec "ssid"
    setText requested "key" "wireless" sec "key"
    setFlag requested "hidden" "wireless" sec "hidden"
  | none => pure ()

def setAccessPoints (value : Json) : List (Text × Text) → Script Unit
  | [] => pure ()
  | (key, sec) :: rest => do
    setAccessPoint value key sec
    setAccessPoints value rest

def wifiSet (value : Json) : Script (Option Json) := do
  if value.isTable then
    let aps ← perform .wifiLogical
    setAccessPoints value aps
    perform (.uciCommit "wireless")
    perform (.execute "wifi reload >/dev/null 2>&1")
    return none
  else return failure 20010002 none

def kmwanInterfaces (entries : List Json) : List Json :=
  entries.filterMap fun entry =>
    match entry.field "interface" with
    | none | some (.bool false) => none
    | some interface =>
      let metric := ((entry.field "metric").bind lua.number).getD 0
      some (.obj [("interface", interface), ("metric", .num metric)])

def kmwanSet (value : Json) : Script (Option Json) := do
  match value.field "interfaces" with
  | some interfaces =>
    if interfaces.isTable then
      let resp ← call "kmwan" "set_config" (some (.obj [("mode", .num 0),
        ("interfaces", .arr (kmwanInterfaces lua interfaces.items))]))
      return if resp.isNone then failure 20010001 "set kmwan failed" else none
    else return failure 20010002 "invalid parameter"
  | none => return failure 20010002 "invalid parameter"

/-- An entry of `FEATURES.attributes`. -/
structure Attribute where
  get : Script (Option Json)
  set : Option (Json → Script (Option Json)) := none

def attributes : List (Text × Attribute) :=
  [("base", { get := baseGet }),
    ("system", { get := systemGet, set := some (systemSet lua) }),
    ("goodcloud", { get := goodcloudGet, set := some goodcloudSet }),
    ("wifi", { get := wifiGet, set := some wifiSet }),
    ("clients", { get := clientsGet }),
    ("cable", { get := cableGet }),
    ("ethernet1", { get := ethernet1Get }),
    ("kmwan", { get := kmwanGet, set := some (kmwanSet lua) }),
    ("mcu", { get := mcuGet }),
    ("modem", { get := modemGet })]

/-! ## Commands -/

/-- The forwarder behind `base/rpc` and `base/cmd`. -/
def baseRpc (values : Json) : Script (Option Json) := do
  match values.item 1 with
  | some (.str object) =>
    let params := match values.item 3 with
      | none | some (.str []) => none
      | some p => some p
    match ← localRpc object (values.item 2) params with
    | none => return code 20010001
    | some resp => return some (.arr [.str object, (values.item 2).getD .null, resp])
  | _ => return code 20010002

def baseCall (object method : String) : Script (Option Json) := do
  let resp ← call object method none
  return if resp.isNone then code 20010001 else none

/-- `v or ""`. -/
def orEmpty (v : Option Json) : Json := Json.orElse v (.str [])

def goodcloudBind (value : Json) : Script (Option Json) := do
  if value.isTable then
    let unbind : Option Text ← perform (.uciGet CFG SEC "unbind")
    onlyIf (unbind = some ['1'] && (orEmpty (value.field "bindtime")).isEmptyText)
      (perform (.uciDelete CFG SEC "unbind"))
    uciSet lua CFG SEC "username" (orEmpty (value.field "username"))
    uciSet lua CFG SEC "email" (orEmpty (value.field "email"))
    uciSet lua CFG SEC "bindtime" (orEmpty (value.field "bindtime"))
    uciSet lua CFG SEC "bindtype"
      (Json.orElse (value.field "bindtype") (orEmpty (value.field "bindType")))
    perform (.uciCommit CFG)
    perform .sync
    notifyStatus
    onlyIf (unbind = some ['1']) reconnect
    return none
  else return code 20010002

def goodcloudUnbind : Script (Option Json) := do
  perform (.uciDelete CFG SEC "username")
  perform (.uciDelete CFG SEC "email")
  perform (.uciDelete CFG SEC "bindtime")
  perform (.uciDelete CFG SEC "bindtype")
  perform (.uciCommit CFG)
  perform (.uciDelete CFG SEC "token")
  perform (.uciCommit CFG)
  perform .sync
  perform (.execute "/etc/init.d/rtty stop >/dev/null 2>&1")
  perform .sync
  notifyStatus
  reconnect
  return none

/-- Waits for the state file of `rtty`, a tenth of a second at a time. -/
def awaitRtty : Nat → Script Bool
  | 0 => return false
  | n + 1 => do
    let state : Text ← perform (.readFile "/var/run/rtty")
    if state = [] then
      perform .sleep
      awaitRtty n
    else return state = "Connected"

def goodcloudRtty (value : Json) : Script (Option Json) := do
  if value.isTable then
    match ← call "rtty" "run" (some value) with
    | none =>
      let status ← awaitRtty 10
      let _ ← perform (.ubusCall "gl-cloud" "subscribe_events_notify"
        (.obj [("type", .str "goodcloud/rtty_login"),
          ("data", .obj [("status", .bool status)])]))
      return none
    | some resp =>
      if resp.isTable then
        return some (.obj [
          ("code", Json.orElse (resp.field "err_code") (.num 20010001)),
          ("msg", Json.orElse (resp.field "err_msg") (.str "rtty failed"))])
      else return none
  else return code 20010002

/-- `FEATURES.commands`. The features `system`, `wifi` and `clients` have no commands. -/
def commands : List (Text × List (Text × (Json → Script (Option Json)))) :=
  [("base",
    [("reboot", fun _ => baseCall "system" "reboot"),
      ("reset", fun _ => baseCall "system" "reset_firmware"),
      ("rpc", baseRpc),
      ("cmd", baseRpc)]),
    ("goodcloud",
    [("get_config", fun _ => goodcloudGet),
      ("set_config", goodcloudSet),
      ("bind_goodcloud", goodcloudBind lua),
      ("unbind_goodcloud", fun _ => goodcloudUnbind),
      ("rtty_run", goodcloudRtty)]),
    ("system", []),
    ("wifi", []),
    ("clients", [])]

/-! ## The dispatcher -/

/-- The reply to a payload, with its fields but the first three still to come. -/
def replyBody (payload : Json) : Script (Json → List (Text × Json) → Json) := do
  let id ← evaluate (payload.index "id")
  let now ← perform .currentTime
  return fun code rest => .obj ((id.map (Prod.mk "id".toList)).toList ++
    [("time".toList, .num now), ("code".toList, code)] ++ rest)

/-- `feature_attributes`; a key that is no string names nothing. -/
def featureAttributes (key : Json) : Script (Option Json) := do
  match key.asText.bind fun k => (attributes lua).lookup k with
  | none => return none
  | some entry =>
    let value ← entry.get
    return if Json.truthy value then value else none

def gather : List Json → Script (List (Text × Json) × List Json)
  | [] => return ([], [])
  | key :: keys => do
    let value ← featureAttributes lua key
    let (found, missing) ← gather keys
    match value with
    | some v => return ((key.asText.getD [], v) :: found, missing)
    | none => return (found, key :: missing)

def handleAttributeGet (topic : Text) (payload : Json) : Script Unit := do
  let keys ← evaluate (payload.index "feature_keys")
  let body ← replyBody payload
  let reply := gsub "get_request" "get_respond" 0 topic
  if (keys.map Json.isTable).getD false then
    let (found, missing) ← gather lua ((keys.map Json.items).getD [])
    let errList := if missing.isEmpty then [] else [("err_list".toList, Json.arr missing)]
    perform (.publish reply (body (.num 0) (found ++ errList)))
  else
    let (found, _) ← gather lua ((attributes lua).map fun a => .str a.1)
    perform (.publish reply (body (.num 0) found))

/-- The code and the message of a result that is a table with a code other than 0. -/
def errorOf (result : Option Json) : Option (Json × Json) :=
  match result.bind (Json.field "code") with
  | none | some (.bool false) | some (.num 0) => none
  | some c => some (c,
      Json.orElse (result.bind (Json.field "msg")) (.str "error"))

def setAttribute (key : Text) (value : Json) : Script (Option (Json × Json)) :=
  match ((attributes lua).lookup key).bind Attribute.set with
  | none => pure none
  | some set => do
    let result ← set value
    pure (errorOf result)

def applySettings : List (Text × Json) → Script (Option Json × List Json)
  | [] => return (none, [])
  | (key, value) :: rest => do
    let failed ← setAttribute lua key value
    let (code, errors) ← applySettings rest
    match failed with
    | none => return (code, errors)
    | some (c, msg) =>
      return (code.or (some c),
        .obj [("module", .str key), ("msg", msg)] :: errors)

/-- `pairs(payload)`, without `id` and `time`; the positions of an array name no attribute. -/
def settings : Json → Except Unit (List (Text × Json))
  | .obj fields => .ok (fields.filter fun f => f.1 ≠ "id" ∧ f.1 ≠ "time")
  | .arr _ => .ok []
  | _ => .error ()

def handleAttributeSet (topic : Text) (payload : Json) : Script Unit := do
  let body ← replyBody payload
  let requested ← evaluate (settings payload)
  let (code, errors) ← applySettings lua requested
  perform (.publish (gsub "set_request" "set_respond" 0 topic)
    (body (code.getD (.num 0)) [("err_list", .arr errors)]))

/-- `payload[feature] and payload[feature][name] or default`. -/
def argument (payload : Json) (feature name : Text) (default : Json) : Except Unit Json :=
  match payload.index feature with
  | .error e => .error e
  | .ok none | .ok (some (.bool false)) => .ok default
  | .ok (some v) =>
    match v.index name with
    | .error e => .error e
    | .ok arg => .ok (Json.orElse arg default)

/-- `FEATURES.commands[feature] and FEATURES.commands[feature][method]`. -/
def commandEntry (feature method : Option Text) : Option (Json → Script (Option Json)) :=
  (feature.bind fun f => (commands lua).lookup f).bind fun methods =>
    method.bind fun m => methods.lookup m

def handleCommand (topic : Text) (payload : Json) : Script Unit := do
  let feature := (fields '/' topic)[5]?
  let method := (fields '/' topic)[6]?
  let reply := gsub "request" "respond" 0 topic
  let body ← replyBody payload
  match commandEntry lua feature method with
  | none =>
    perform (.publish reply
      (body (.num 20010001) [("msg", .str "command not supported")]))
  | some entry =>
    let arg ← evaluate (argument payload (feature.getD []) (method.getD []) payload)
    let result ← entry arg
    match errorOf result with
    | some (code, msg) => perform (.publish reply (body code [("msg", msg)]))
    | none =>
      let answer := result.toList.map fun r => (feature.getD [], Json.obj [(method.getD [], r)])
      perform (.publish reply (body (.num 0) answer))

/-- `set_event_config` refers to `FEATURES` from inside of its own constructor, where the name is
not bound yet, so that a value with the field `enable` raises an error. -/
def setEventConfig (payload : Json) : Script Unit := do
  let value ← evaluate (argument payload "goodcloud" "device_unbind" (.obj []))
  onlyIf (value.field "enable").isSome raise

def handleEvent (topic : Text) (payload : Json) : Script Unit := do
  let feature := (fields '/' topic)[5]?
  let event := (fields '/' topic)[6]?
  onlyIf (feature = some "goodcloud".toList && event = some "device_unbind".toList)
    (setEventConfig payload)
  let body ← replyBody payload
  perform (.publish (gsub "request" "respond" 0 topic) (body (.num 0) []))

def handle (topic : Text) (payload : Json) : Script Unit :=
  let parts := fields '/' topic
  if parts[4]? = some "attribute".toList ∧ parts[5]? = some "get_request".toList then
    handleAttributeGet lua topic payload
  else if parts[4]? = some "attribute".toList ∧ parts[5]? = some "set_request".toList then
    handleAttributeSet lua topic payload
  else if parts[4]? = some "command".toList then handleCommand lua topic payload
  else if parts[4]? = some "event".toList then handleEvent topic payload
  else pure ()

/-! ## The router and the broker -/

/-- What the actions leave behind: the session daemon, the handlers of RPC objects that ran, and
what was published, newest first. -/
structure Router where
  daemon : Oui.Daemon := {}
  invoked : List (Text × Text) := []
  published : List (Text × Json) := []

/-- The request of `local_rpc`, from one of the addresses of `localhost`. -/
def localRequest (ipv6 : Bool) (object : Text) (method : Option Json) : Oui.Request where
  remoteAddr := if ipv6 then "::1" else "127.0.0.1"
  glinet := true
  rpc := .call (some []) (some object) (method.bind Json.asText)

/-- The surroundings of a handler: what its actions are answered, and what the endpoint finds, at
each instant. -/
structure Surroundings where
  answer : Nat → (a : Action) → a.Answer
  env : Nat → Oui.Env
  ipv6 : Nat → Bool

namespace Router

def perform (w : Surroundings) (i : Nat) (r : Router) : Action → Router
  | .rpc object method _ =>
    let o := (w.env i).serve r.daemon (localRequest (w.ipv6 i) object method)
    { r with daemon := o.daemon, invoked := o.invoked.toList ++ r.invoked }
  | .publish topic body => { r with published := (topic, body) :: r.published }
  | _ => r

def answer (w : Surroundings) (i : Nat) (a : Action) (r : Router) : a.Answer × Router :=
  (w.answer i a, r.perform w i a)

end Router

structure State where
  now : Nat := 0
  recentRequests : List (Text × Nat) := []
  topicPrefix : Text := []
  router : Router := {}

inductive Event
  | tick (n : Nat)
  /-- The broker delivers a message. `clean` is whether the cache is to be cleaned. -/
  | publish (topic data : Text) (clean : Bool) (w : Surroundings)

/-- `parse_message`: the payload of a plain message. -/
def parseMessage : Text → Option Text
  | 'G' :: 'L' :: kind :: _ :: _ :: _ :: payload => if kind = Char.ofNat 2 then some payload else none
  | _ => none

def isRequest (topic : Text) : Bool :=
  "/request".toList.isSuffixOf topic || "_request".toList.isSuffixOf topic

namespace State
variable (s : State)

def requestKey (topic raw : Text) : Text := topic ++ '|' :: raw

def isDuplicate (key : Text) : Bool := (s.recentRequests.lookup key).any fun t => s.now - t < 3000

/-- A request is noted, and the notes of more than ten seconds ago may be dropped. -/
def note (key : Text) (clean : Bool) : State :=
  let recent := (key, s.now) :: s.recentRequests.filter fun r => r.1 ≠ key
  { s with
    recentRequests := if clean then recent.filter fun r => s.now - r.2 ≤ 10000 else recent }

def adopt (topic : Text) : State :=
  match fields '/' topic with
  | sys :: model :: version :: mac :: _ =>
    if sys = "sys" then
      { s with topicPrefix := model ++ '/' :: version ++ '/' :: mac }
    else s
  | _ => s

def handleMessage (topic raw : Text) (payload : Json) (clean : Bool) (w : Surroundings) : State :=
  if isRequest topic then
    if s.isDuplicate (requestKey topic raw) then s
    else
      let s := (s.note (requestKey topic raw) clean).adopt topic
      { s with router := ((handle lua topic payload).run.exec (Router.answer w) 0 s.router).2.2 }
  else s

def step : Event → State
  | .tick n => { s with now := s.now + n }
  | .publish topic data clean w =>
    match parseMessage data with
    | none => s
    | some raw =>
      match lua.decode raw with
      | none => s
      | some payload => s.handleMessage lua topic raw payload clean w

end State

def machine : Machine State Event := ⟨fun s e => s.step lua e⟩

end GlXe3000.Cloud
