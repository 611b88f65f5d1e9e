import GlXe3000.Lib.Lua

/-! # The uplink of the repeater: `repeater.lua`

There is one station interface. A connection writes its network into it and keeps a record of the
network in `gl-repeater`, so that it can be joined again without its credentials. -/

namespace GlXe3000.Repeater
open Text

structure Config where
  wireless : Package
  repeater : Package
  network : Package

structure Ap where
  ssid : Text
  bssid : Text
  channel : Rat
  encryption : Json

/-- Library functions, what a scan finds on one radio or on all of them, and a random address. -/
structure Env extends Lua where
  scan : Option Text → List Ap
  randomMac : Option Text

variable (env : Env) (args : Json) (c : Config)

def lower (t : Text) : Text := t.map Char.toLower

def settings : Text := "settings"

def savedAp : Text := "saved_ap"

/-- `v == true or v == 1 or v == "1" or v == "true"`. -/
def boolValue : Option Json → Bool
  | some (.bool b) => b
  | some (.num n) => n = 1
  | some (.str t) => t = ['1'] || t = "true"
  | _ => false

/-- `^%x%x:%x%x:%x%x:%x%x:%x%x:%x%x$`. -/
def isMac (t : Text) : Bool :=
  (pieces ':' t).length = 6 && (pieces ':' t).all fun piece => piece.length = 2 && piece.all isHex

/-! ## The interface and its radio -/

/-- A station interface of the network `repeater`. -/
def isStation (s : Section) : Bool :=
  s.options "mode" = some (.text "sta") &&
    s.options "network" = some (.text "repeater")

/-- `repeater_iface`: the last one wins. -/
def repeaterIface (p : Package) : Option Text :=
  (((p.ofType "wifi-iface").filter fun e => isStation e.2).getLast?).map Prod.fst

def radios : List Text := ["radio0", "radio1"]

def radioWithBand (p : Package) (band : Text) : Option Text :=
  radios.find? fun radio => p.get radio "band" = some (.text band)

def radioForBand (p : Package) (band : Option Text) : Option Text :=
  band.bind fun band =>
    if band = "2g" || band = "5g" then radioWithBand p band else none

/-- A request that has a `bssid` names a text, or an error is raised. -/
def requestedBssid : Except Result (Option Text) :=
  match arg args "bssid" with
  | none | some (.bool false) => .ok none
  | some (.str t) => .ok (some t)
  | _ => .error .raised

def isAsked (ssid : Text) (bssid : Option Text) (ap : Ap) : Bool :=
  match bssid with
  | some bssid => lower bssid = lower ap.bssid
  | none => ap.ssid = ssid

def chooseRadio (ssid : Text) (bssid : Option Text) : Text :=
  match radios.find? fun radio => (arg args "radio").any fun v => v.isText radio with
  | some radio => radio
  | none =>
    match radioForBand c.wireless (c.repeater.getText settings "lock_band") with
    | some radio => radio
    | none =>
      let scanned := ((env.scan none).find? (isAsked ssid bssid)).map Ap.channel
      let channel := ((arg args "channel").bind env.number).or scanned
      let band := if channel.any (· ≤ 14) then "2g" else "5g"
      (radioWithBand c.wireless band).getD "radio0"

def withStation (p : Package) : Text × Package :=
  match repeaterIface p with
  | some iface => (iface, p)
  | none =>
    (p.anonName, p.add "wifi-iface"
      [("network", .text "repeater"), ("mode", .text "sta")])

/-! ## Security -/

def securityFields : List String :=
  ["encryption", "eap_type", "auth", "identity", "anonymous_identity", "ca_cert", "password", "key"]

abbrev Fields := String → Option Json

def Fields.drop (f : Fields) (names : List String) : Fields :=
  fun name => if name ∈ names then none else f name

def Fields.put (f : Fields) (name : String) (v : Json) : Fields := Function.update f name (some v)

def advertised (ap : Option Ap) (f : Fields) : Fields :=
  match (ap.map Ap.encryption).filter Json.isTable with
  | none => f
  | some encryption =>
    let suites := (Json.orElse (encryption.field "auth_suites") (.arr [])).items
    let isOpen := (encryption.field "enabled").bind Json.asBool = some false
    let f := if isOpen then
        (f.drop ["key", "password"]).put "encryption" (.str "none")
      else f
    if suites.any fun suite => suite.isText "802.1X" then f
    else f.drop ["identity", "eap_type", "auth", "anonymous_identity", "ca_cert"]

def isProvided (f : Fields) : Bool :=
  ["identity", "eap_type", "auth", "key", "password", "encryption"].any fun name => (f name).isSome

def savedSection (ssid iface : Text) : Option Text :=
  ((c.repeater.ofType savedAp).find? fun e =>
    e.2.options "ssid" = some (.text ssid) ||
      e.2.options "iface" = some (.text iface)).map Prod.fst

/-- `prior_security`: that of the interface if it has the network, or that of the record. -/
def priorSecurity (ssid iface : Text) (wireless : Package) (name : String) : Option Value :=
  if wireless.get iface "ssid" = some (.text ssid) then wireless.get iface name.toList
  else (savedSection c ssid iface).bind fun n => c.repeater.get n name.toList

/-- A request without credentials gets those that were used before; if there are none, the network is
open. -/
def withPrior (prior : String → Option Value) (f : Fields) : Fields :=
  if isProvided f then f
  else
    let f : Fields := fun name =>
      match (prior name).filter fun v => v ≠ .text [] with
      | some v => if name ∈ securityFields then some v.toJson else f name
      | none => f name
    if (f "encryption").isSome then f else f.put "encryption" (.str "none")

structure Edit where
  sets : List (String × Value)
  unsets : List String

def Edit.apply (e : Edit) (p : Package) (n : Text) : Package :=
  (p.setAll n e.sets).unsetAll n e.unsets

def isEmptyOrNone (v : Option Json) : Bool := v.all fun v => v.isEmptyText

/-- `v or default`, as a text in lower case. -/
def lowerOr (v : Option Json) (default : String) : Except Result Text :=
  match Json.orElse v (.str default.toList) with
  | .str t => .ok (lower t)
  | _ => .error .raised

def innerAuth (v : Option Json) : Except Result Value :=
  if !Json.truthy v || v.any fun v => v.isEmptyText || v.isText "EAP-MSCHAPV2" then
    .ok (.text "MSCHAPV2")
  else env.optionValue (v.getD .null)

def setIfGiven (name : String) (v : Option Json) : Except Result (List (String × Value)) :=
  if Json.truthy v then do
    let v ← env.optionValue (v.getD .null)
    return [(name, v)]
  else .ok []

def enterpriseEdit (f : Fields) (secret : Option Json) : Except Result Edit := do
  let eapType ← lowerOr (f "eap_type") "peap"
  let auth ← innerAuth env (f "auth")
  let identity ← env.optionValue (Json.orElse (f "identity") (.str []))
  let password ← env.optionValue (Json.orElse secret (.str []))
  let anonymous ← setIfGiven env "anonymous_identity" (f "anonymous_identity")
  let caCert ← setIfGiven env "ca_cert" (f "ca_cert")
  return {
    sets := [("encryption", .text "wpa2"), ("eap_type", .text eapType), ("auth", auth),
      ("identity", identity), ("password", password)] ++ anonymous ++ caCert
    unsets := (if anonymous.isEmpty then ["anonymous_identity"] else []) ++ ["key"] }

def securityEdit (f : Fields) : Except Result Edit :=
  let secret := if Json.truthy (f "key") then f "key" else f "password"
  if (f "identity").isSome || (f "eap_type").isSome || !isEmptyOrNone (f "auth") then
    enterpriseEdit env f secret
  else if Json.truthy secret && !isEmptyOrNone secret then do
    let key ← env.optionValue (secret.getD .null)
    return {
      sets := [("encryption", .text "sae-mixed"), ("key", key)]
      unsets := ["eap_type", "identity", "password"] }
  else .ok {
    sets := [("encryption", .text "none")]
    unsets := ["key", "eap_type", "identity", "password"] }

/-! ## Address -/

structure Mac where
  mode : Text
  update : Text
  mac : Text

def textOr (v : Option Json) (default : String) : Text :=
  env.asString (Json.orElse v (.str default.toList))

/-- `apply_mac`: `none` leaves the address to the driver. -/
def applyMac (v : Json) : Except Result Mac :=
  let v : Json := match v with
    | .str t => .obj [("macaddr", .str t), ("mode", .str "manual")]
    | v => v
  if !v.isTable then .error (err 1 "")
  else
    let mode := textOr env (v.field "mode") "default"
    let update := textOr env (v.field "update") "none"
    let mac := lower (textOr env (v.field "macaddr") "")
    if mode ≠ "random" && mode ≠ "manual" then .ok ⟨"default", update, []⟩
    else
      let mac := if mode = "random" && !isMac mac then env.randomMac else some mac
      match mac.filter isMac with
      | some mac => .ok ⟨mode, update, mac⟩
      | none => .error (err 1 "invalid MAC address")

def requestedMac : Except Result (Option Mac) :=
  match arg args "macaddr" with
  | none => .ok none
  | some v => (applyMac env v).map some

def Mac.edit (m : Mac) : Edit :=
  if m.mode = "default" then ⟨[], ["macaddr"]⟩ else ⟨[("macaddr", .text m.mac)], []⟩

/-- `store_mac`. -/
def Mac.stored (m : Mac) : Edit :=
  if m.mode = "default" then
    ⟨[("mac_mode", .text m.mode), ("mac_update", .text m.update)], ["mac_value"]⟩
  else
    ⟨[("mac_mode", .text m.mode), ("mac_update", .text m.update), ("mac_value", .text m.mac)], []⟩

/-! ## `apply_config` -/

/-- The network, the interface and its radio, and the wireless package with the network in it. -/
structure Plan where
  ssid : Text
  iface : Text
  radio : Text
  wireless : Package
  mac : Option Mac

def networkEdit (ssid radio : Text) (bssid : Option Text) : Edit :=
  match bssid.filter isMac with
  | some bssid =>
    ⟨[("device", .text radio), ("ssid", .text ssid), ("disabled", .text ['0']),
      ("bssid", .text bssid)], []⟩
  | none =>
    ⟨[("device", .text radio), ("ssid", .text ssid), ("disabled", .text ['0'])], ["bssid"]⟩

def planWireless : Except Result Plan := do
  let ssid ← ((arg args "ssid").bind Json.asText).elim (.error (err 1 "missing ssid")) Except.ok
  let bssid ← requestedBssid args
  let radio := chooseRadio env args c ssid bssid
  let iface := (withStation c.wireless).1
  let wireless := (withStation c.wireless).2
  let f := advertised ((env.scan (some radio)).find? (isAsked ssid bssid)) (arg args)
  let f := withPrior (priorSecurity c ssid iface wireless) f
  let security ← securityEdit env f
  let mac ← requestedMac env args
  let wireless := (networkEdit ssid radio bssid).apply wireless iface
  let wireless := security.apply wireless iface
  return {
    ssid := ssid
    iface := iface
    radio := radio
    wireless := (mac.map Mac.edit).elim wireless fun e => e.apply wireless iface
    mac := mac }

def staticOptions : Except Result (List (String × Value)) := do
  let ipaddr ← setIfGiven env "ipaddr"
    (if Json.truthy (arg args "ipaddr") then arg args "ipaddr" else arg args "ip")
  let netmask ← setIfGiven env "netmask" (arg args "netmask")
  let gateway ← setIfGiven env "gateway" (arg args "gateway")
  let dns ← setIfGiven env "dns" (arg args "dns")
  return ipaddr ++ netmask ++ gateway ++ dns

def uplink : Text := "repeater"

def planNetwork : Except Result Package :=
  if !Json.truthy (arg args "protocol") then .ok c.network
  else if (arg args "protocol").any fun v => v.isText "static" then do
    let options ← staticOptions env args
    return c.network.setAll uplink (("proto", .text "static") :: options)
  else .ok (c.network.set uplink "proto" (.text "dhcp"))

def autoPortal : Bool :=
  match arg args "auto_portal" with
  | none => isOn (c.repeater.get settings "auto_portal")
  | some v => boolValue (some v)

def protocolOf (network : Package) : Except Result Value :=
  if Json.truthy (arg args "protocol") then env.optionValue ((arg args "protocol").getD .null)
  else .ok (network.getOr uplink "proto" "dhcp")

def portalOptions : List (String × Value) :=
  let given := if Json.truthy (arg args "portal_info") then arg args "portal_info"
    else arg args "portalInfo"
  let field (name : String) : Option Json := given.bind fun v => v.field name.toList
  let text (name stored : String) : List (String × Value) :=
    optional stored ((field name).map fun v => .text (env.asString v))
  text "auth_mode" "portal_auth_mode" ++
    optional "portal_one_click" ((field "one_click").map fun v => flagValue (boolValue (some v))) ++
    text "username" "portal_username" ++ text "password" "portal_password" ++
    text "voucher" "portal_voucher"

def copiedSecurity (wireless : Package) (iface : Text) : Edit where
  sets := securityFields.filterMap fun name =>
    ((wireless.get iface name.toList).filter fun v => v ≠ .text []).map fun v => (name, v)
  unsets := securityFields.filter fun name =>
    ((wireless.get iface name.toList).filter fun v => v ≠ .text []).isNone

def withSaved (p : Package) (found : Option Text) : Text × Package :=
  match found with
  | some n => (n, p)
  | none => (p.anonName, p.add savedAp [])

def recordOptions (plan : Plan) (auto : Bool) (protocol : Value) : List (String × Value) :=
  [("ssid", .text plan.ssid), ("radio", .text plan.radio), ("iface", .text plan.iface),
    ("auto_portal", flagValue auto), ("protocol", protocol)]

def planSaved (plan : Plan) (network : Package) : Except Result Package := do
  let auto := autoPortal args c
  let protocol ← protocolOf env args network
  let p := (c.repeater.setType settings settings).set settings "auto_portal" (flagValue auto)
  let saved := withSaved p (savedSection c plan.ssid plan.iface)
  let p := saved.2.setAll saved.1 (recordOptions plan auto protocol)
  let p := (copiedSecurity plan.wireless plan.iface).apply p saved.1
  let p := p.setAll saved.1 (portalOptions env args)
  return match plan.mac with
    | none => p
    | some mac => mac.stored.apply (mac.stored.apply p settings) saved.1

/-- The packages are committed one after the other. What fails leaves those before it committed. -/
def commitAll : Except (Result × Config) Config :=
  match planWireless env args c with
  | .error e => .error (e, c)
  | .ok plan =>
    match planNetwork env args c with
    | .error e => .error (e, { c with wireless := plan.wireless })
    | .ok network =>
      match planSaved env args c plan network with
      | .error e => .error (e, { c with wireless := plan.wireless, network := network })
      | .ok repeater =>
        .ok { wireless := plan.wireless, network := network, repeater := repeater }

def applyConfig : Result × Config :=
  match commitAll env args c with
  | .error e => e
  | .ok c => (.ok, c)

/-! ## The other methods -/

def setDisabled (p : Package) (iface : Text) (disabled : Bool) : Package :=
  p.set iface "disabled" (flagValue disabled)

/-- What `disconnect` does to the packages. -/
def disableUplink : Config :=
  match repeaterIface c.wireless with
  | none => c
  | some iface => { c with wireless := setDisabled c.wireless iface true }

/-- What `connect` does without an SSID. -/
def enableUplink : Result × Config :=
  match repeaterIface c.wireless with
  | none => (err 1 "no repeater configured", c)
  | some iface => (.ok, { c with wireless := setDisabled c.wireless iface false })

def moveUplink (radio : Option Text) : Package :=
  match repeaterIface c.wireless, radio with
  | some iface, some radio =>
    if c.wireless.get iface "device" = some (.text radio) then c.wireless
    else ((c.wireless.set iface "device" (.text radio)).unset iface "bssid").set iface
      "disabled" (.text ['0'])
  | _, _ => c.wireless

/-- `set_config` without an SSID. -/
def setBand : Result × Config :=
  match Json.orElse (arg args "lock_band") (.str []) with
  | .str band =>
    if band ≠ [] && band ≠ "2g" && band ≠ "5g" then (err 1 "invalid lock_band", c)
    else
      let auto := (arg args "auto").bind Json.asBool ≠ some false
      (.ok, { c with
        repeater := (c.repeater.setType settings settings).setAll settings
          [("auto", flagValue auto), ("lock_band", .text band)]
        wireless := moveUplink c (radioForBand c.wireless (some band)) })
  | _ => (err 1 "invalid lock_band", c)

/-- `remove_saved_ap`, by its id or by its SSID; of several, the last one. -/
def removeSavedAp : Result × Config :=
  let id : Option Json :=
    if Json.truthy (arg args "id") then arg args "id"
    else (arg args "ssid").bind fun ssid => (((c.repeater.ofType savedAp).filter fun e =>
      (e.2.options "ssid").any fun v => v.asText = ssid.asText && v.asText.isSome).getLast?).map
        fun e => .str e.1
  match id with
  | none => (err 1 "missing id or ssid", c)
  | some id =>
    match env.checkString id with
    | none => (.raised, c)
    | some id => (.ok, { c with repeater := c.repeater.delete id })

def someEnv : Env where
  toLua := .decimal
  scan := fun _ => []
  randomMac := none

end GlXe3000.Repeater
