import GlXe3000.Lib.Lua
import GlXe3000.Lib.Machine

/-! # The WireGuard server of `wg-server.lua`

`gl_wgserver` holds the configuration: a section `main`, peers and routes. Applying it removes what was
generated before and writes an interface, its peers and routes to `network` and a zone, its
forwardings and a rule to `firewall`. -/

namespace GlXe3000.Oui.Vpn.WgServer
open Text

structure Configs where
  wgserver : Package
  network : Package
  firewall : Package

/-- Library functions and tools. Of `table.sort` only this much is known. -/
structure Env extends Lua where
  /-- `public_key`: what `wg pubkey` makes of a private key. -/
  pubkey : Text → Option Text
  sort : List (Text × Section) → List (Text × Section)
  sort_perm : ∀ l, (sort l).Perm l

variable (env : Env) (c : Configs) (args : Json)

def server : Text := "main"
def iface : Text := "wgserver"
def peerType : Text := "wireguard_wgserver"
def routeStart : Text := "gl_wg_route_"

/-! ## What is stored -/

section
variable (p : Package)

def cursorGet (option default : String) : Value := p.getOr server option default

def isEnabled : Bool := cursorGet p "enabled" "0" = .text ['1']

/-- `config.initialization` and a private key. -/
def isInitialized : Bool :=
  cursorGet p "initialized" "0" = .text ['1'] && cursorGet p "private_key" "" ≠ .text []

/-- `tonumber(cursor_get(...)) or default`. -/
def cursorNumber (option default : String) (number : Rat) : Rat :=
  (env.numberOf (some (cursorGet p option default))).getD number

def peerSections : List (Text × Section) := env.sort (p.ofType "peer")

def filled (s : Section) (option : String) : Option Value :=
  (s.options option.toList).filter fun v => v ≠ .text []

end

/-! ## Addresses of peers -/

/-- `(%d+)%.`, and what follows. -/
def digitsAndDot (t : Text) : Option (Text × Text) :=
  match t.dropWhile isDigit with
  | '.' :: rest => if (t.takeWhile isDigit).isEmpty then none else some (t.takeWhile isDigit, rest)
  | _ => none

/-- `^(%d+)%.(%d+)%.(%d+)%.(%d+)`. -/
def octets (t : Text) : Option (Text × Text × Text × Text) := do
  let (a, t) ← digitsAndDot t
  let (b, t) ← digitsAndDot t
  let (c, t) ← digitsAndDot t
  if (t.takeWhile isDigit).isEmpty then none else some (a, b, c, t.takeWhile isDigit)

def nextClientIpv4 (p : Package) (address : Text) : Text :=
  match octets address with
  | none => []
  | some (a, b, c, _) =>
    let used := (p.ofType "peer").filterMap fun e =>
      (octets (env.textOf (e.2.options "client_ip_v4"))).map fun o => toNumber o.2.2.2
    match (List.range' 2 253).find? fun host => host ∉ used with
    | none => []
    | some host =>
      a ++ '.' :: b ++ '.' :: c ++ '.' :: Nat.toDigits 10 host ++ "/32".toList

/-- `^([^/]+)/64$`. -/
def prefix64 (t : Text) : Option Text :=
  ((cut '/' t).filter fun r => !r.1.isEmpty && r.2 = "64".toList).map Prod.fst

/-- `t:gsub("::.*$", "::")`. -/
def upToColons : Text → Text
  | [] => []
  | ':' :: ':' :: _ => "::"
  | ch :: t => ch :: upToColons t

/-- `::(%x+)/128$`. -/
def hexHost (t : Text) : Option Text :=
  search (fun t => (strip "::" t).bind fun r =>
    if !(r.takeWhile isHex).isEmpty && r.dropWhile isHex = "/128" then some (r.takeWhile isHex)
    else none) t

/-- `tonumber(t, 16)`. -/
def hexNumber (t : Text) : Nat :=
  t.foldl (fun n ch => 16 * n + (if isDigit ch then ch.toNat - '0'.toNat
    else ch.toLower.toNat - 'a'.toNat + 10)) 0

def nextClientIpv6 (p : Package) (address : Text) : Text :=
  match prefix64 address with
  | none => []
  | some start =>
    let used := (p.ofType "peer").filterMap fun e =>
      (hexHost (env.textOf (e.2.options "client_ip_v6"))).map hexNumber
    match (List.range' 2 65534).find? fun host => host ∉ used with
    | none => []
    | some host => upToColons start ++ Nat.toDigits 16 host ++ "/128".toList

/-! ## What is generated -/

def arrayValue (vs : List (Option Value)) : Except Result Value :=
  env.optionValue (.arr ((vs.filterMap id).map Value.toJson))

def interfaceDraft (p : Package) : Except Result Package.Draft := do
  let addresses ← arrayValue env [some (cursorGet p "address_v4" "10.0.0.1/24"),
    some (cursorGet p "address_v6" "") |>.filter fun v => v ≠ .text []]
  return {
    name := iface
    type := "interface"
    options := [("proto", .text "wireguard"), ("private_key", cursorGet p "private_key" ""),
      ("listen_port", .text (env.showNumber (cursorNumber env p "port" "51820" 51820))),
      ("mtu", .text (env.showNumber (cursorNumber env p "mtu" "1420" 1420))), ("addresses", addresses)] }

def isLive (s : Section) : Bool :=
  s.options "enabled" ≠ some (.text ['0']) && (filled s "public_key").isSome

def peerOptions (s : Section) : Except Result (List (String × Value)) := do
  let allowed ← arrayValue env [filled s "client_ip_v4", filled s "client_ip_v6"]
  return optional "public_key" (filled s "public_key") ++
    [("allowed_ips", allowed), ("route_allowed_ips", .text ['1']),
      ("persistent_keepalive", .text (env.showNumber
        ((env.numberOf (s.options "persistent_keepalive")).getD 0))),
      ("description", ((s.options "name").or (s.options "peer_id")).getD
        (.text "peer"))] ++
    if isOn (s.options "presharedkey_enable") then
      optional "preshared_key" (filled s "presharedkey")
    else []

def allPeerOptions : List (Text × Section) → Except Result (List (List (String × Value)))
  | [] => .ok []
  | e :: es =>
    if isLive e.2 then do
      let o ← peerOptions env e.2
      let os ← allPeerOptions es
      return o :: os
    else allPeerOptions es

def routeName (e : Text × Section) : Text :=
  routeStart ++ (env.asString (((e.2.options "rule_id").map Value.toJson).getD
    (.str e.1))).filter fun ch => isAlnum ch || ch = '_'

def routeDraft (e : Text × Section) : Package.Draft where
  name := routeName env e
  type := if env.numberOf (e.2.options "route_flag") = some 6 then "route6"
    else "route"
  options := [("interface", .text iface), ("target", (e.2.options "dest").getD (.text [])),
    ("gateway", (e.2.options "gateway").getD (.text [])),
    ("metric", .text (env.showNumber ((env.numberOf (e.2.options "metric")).getD 0))),
    ("mtu", .text (env.showNumber ((env.numberOf (e.2.options "mtu")).getD 0)))] ++
    optional "scope" (filled e.2 "scope")

def zoneName : Text := "gl_wgserver"
def toLanName : Text := "gl_wgserver_to_lan"
def toWanName : Text := "gl_wgserver_to_wan"
def inputName : Text := "gl_wgserver_input"
def firewallNames : List Text := [zoneName, toLanName, toWanName, inputName]

def firewallDrafts (p : Package) : List Package.Draft :=
  [{ name := zoneName
     type := "zone"
     options := [("name", .text iface), ("network", .text iface), ("input", .text "ACCEPT"),
      ("output", .text "ACCEPT"),
      ("forward", .text (if cursorGet p "client_to_client" "0" = .text ['1'] then "ACCEPT"
        else "REJECT")),
      ("masq", cursorGet p "masq" "1")] }] ++
    (if cursorGet p "local_access" "1" = .text ['1'] then
      [{ name := toLanName
         type := "forwarding"
         options := [("src", .text iface), ("dest", .text "lan")] }]
    else []) ++
    [{ name := toWanName
       type := "forwarding"
       options := [("src", .text iface), ("dest", .text "wan")] },
      { name := inputName
        type := "rule"
        options := [("name", .text "Allow-WireGuard-Server"), ("src", .text "wan"),
          ("proto", .text "udp"),
          ("dest_port", .text (env.showNumber (cursorNumber env p "port" "51820" 51820))),
          ("target", .text "ACCEPT")] }]

/-! ## Runtime -/

/-- `network` without the interface, its peers and its routes. -/
def clearNetwork (p : Package) : Package :=
  let p := (p.delete iface).deleteType peerType
  p.deleteAll (((p.ofType "route".toList ++ p.ofType "route6").map Prod.fst).filter fun n =>
    (strip routeStart n).isSome)

def addPeers (p : Package) (os : List (List (String × Value))) : Package :=
  os.foldl (fun p o => p.add peerType o) p

def applyRuntime : Result × Configs :=
  if isInitialized c.wgserver then
    match interfaceDraft env c.wgserver, allPeerOptions env (peerSections env c.wgserver) with
    | .ok interface, .ok peers =>
      (.ok,
        { c with
          network := (addPeers ((clearNetwork c.network).newSections [interface]) peers).newSections
            ((c.wgserver.ofType "route").map (routeDraft env))
          firewall := (c.firewall.deleteAll firewallNames).newSections
            (firewallDrafts env c.wgserver) })
    | _, _ => (.raised, c)
  else (err 1 "WireGuard server is not initialized", c)

def teardownRuntime : Configs :=
  { c with
    network := clearNetwork c.network
    firewall := c.firewall.deleteAll firewallNames }

/-- An error of `apply_runtime` is not looked at; one that is raised ends the method. -/
def refreshIfRunning : Result × Configs :=
  if isEnabled c.wgserver then
    match applyRuntime env c with
    | (.raised, c) => (.raised, c)
    | (_, c) => (.ok, c)
  else (.ok, c)

/-! ## Methods -/

def store (p : Package) : Result × Configs := refreshIfRunning env { c with wgserver := p }

def generateKey (keys : Option (Text × Text)) : Result × Configs :=
  match keys with
  | none => (err 1 "wireguard-tools unavailable", c)
  | some (priv, pub) =>
    (.ok, { c with
      wgserver := c.wgserver.setAll server
        [("private_key", .text priv), ("public_key", .text pub), ("initialized", .text ['1'])] })

/-- `^%d+%.%d+%.%d+%.%d+/%d+$`. -/
def isCidr (t : Text) : Bool :=
  (cut '/' t).any fun r => isNumber r.2 && (pieces '.' r.1).length = 4 && (pieces '.' r.1).all isNumber

/-- The checks of `set_config` and the options that it writes. -/
def configOptions : Except Result (List (String × Value)) := do
  let port ← (((arg args "port").bind env.number).filter fun n => 1 ≤ n && n ≤ 65535).elim
    (.error (err 1 "invalid listen port")) Except.ok
  let addressV4 ← (((arg args "address_v4").bind Json.asText).filter isCidr).elim
    (.error (err 1 "invalid IPv4 address")) Except.ok
  let priv := (((arg args "private_key").bind Json.asText).filter fun t => t ≠ [])
  let pub ← (priv.bind env.pubkey).elim (.error (err 1 "invalid private key")) Except.ok
  let addressV6 ← env.optionValue (Json.orElse (arg args "address_v6") (.str []))
  return [("address_v4", .text addressV4), ("address_v6", addressV6),
    ("port", .text (env.showNumber port)), ("private_key", .text (priv.getD [])),
    ("public_key", .text pub), ("initialized", .text ['1'])]

def setConfig : Result × Configs :=
  match configOptions env args with
  | .error e => (e, c)
  | .ok options => store env c (c.wgserver.setAll server options)

/-- `tostring(tonumber(v) or 0)`. -/
def numberText (v : Option Json) : Value := .text (env.showNumber ((v.bind env.number).getD 0))

/-- The check of `write_peer`. -/
def peerName : Except Result Text :=
  (((arg args "name").bind Json.asText).filter fun t => t ≠ [] && t.length ≤ 64).elim
    (.error (err 1 "invalid peer name")) Except.ok

/-- What `write_peer` writes for every peer. -/
def writtenOptions (name : Text) : Except Result (List (String × Value)) := do
  let allowedIps ← env.optionValue (Json.orElse (arg args "allowed_ips")
    (.str "0.0.0.0/0, ::/0"))
  let dns ← env.optionValue (Json.orElse (arg args "dns") (.str []))
  return [("name", .text name), ("allowed_ips", allowedIps), ("dns", dns),
    ("mtu", numberText env (arg args "mtu")),
    ("persistent_keepalive", numberText env (arg args "persistent_keepalive")),
    ("presharedkey_enable", flagValue (boolOf (arg args "presharedkey_enable")))] ++
    optional "presharedkey" (((arg args "presharedkey").bind Json.asText).map Value.text) ++
    optional "enabled" ((arg args "enabled").map fun v => flagValue (boolOf (some v)))

/-- The address of the server, for a new peer; a list has none of the functions of a text. -/
def addressText (option default : String) : Except Result Text :=
  (cursorGet c.wgserver option default).asText.elim (.error .raised) Except.ok

/-- What `write_peer` writes for a new peer. -/
def newPeerOptions (id : Text) (keys : Option (Text × Text)) :
    Except Result (List (String × Value)) := do
  let name ← peerName args
  let (priv, pub) ← keys.elim (.error (err 1 "failed to generate peer key")) Except.ok
  let addressV4 ← addressText c "address_v4" "10.0.0.1/24"
  let addressV6 ← addressText c "address_v6" ""
  let written ← writtenOptions env args name
  return [("peer_id", .text id), ("private_key", .text priv), ("public_key", .text pub),
    ("client_ip_v4", .text (nextClientIpv4 env c.wgserver addressV4)),
    ("client_ip_v6", .text (nextClientIpv6 env c.wgserver addressV6)), ("enabled", .text ['1'])] ++
    written

def addSection (name type : Text) (first : List (String × Value))
    (options : Except Result (List (String × Value))) : Result × Configs :=
  let p := c.wgserver.newSection name type first
  match options with
  | .ok options => store env c (p.setAll name options)
  | .error .raised => (.raised, c)
  | .error e => (e, { c with wgserver := p.delete name })

def addPeer (id : Text) (keys : Option (Text × Text)) : Result × Configs :=
  addSection env c ("p_".toList ++ id) "peer" [] (newPeerOptions env c args id keys)

def peerById (id : Option Json) : Option (Text × Section) :=
  (peerSections env c.wgserver).find? fun e =>
    env.textOf (e.2.options "peer_id") = env.asString (Json.orElse id (.str []))

def setPeer : Result × Configs :=
  match peerById env c (arg args "peer_id") with
  | none => (err 1 "peer not found", c)
  | some (name, _) =>
    match (peerName args >>= writtenOptions env args) with
    | .error e => (e, c)
    | .ok options => store env c (c.wgserver.setAll name options)

def removePeer : Result × Configs :=
  if boolOf (arg args "all") then
    store env c (c.wgserver.deleteAll ((peerSections env c.wgserver).map Prod.fst))
  else
    match peerById env c (arg args "peer_id") with
    | none => (err 1 "peer not found", c)
    | some (name, _) => store env c (c.wgserver.delete name)

def setSetting : Result × Configs :=
  let mtu := ((arg args "mtu").bind env.number).getD 0
  if mtu ≠ 0 ∧ (mtu < 68 ∨ 65535 < mtu) then (err 1 "invalid MTU", c)
  else
    store env c (c.wgserver.setAll server
      [("mtu", .text (env.showNumber (if mtu = 0 then 1420 else mtu))),
        ("local_access", flagValue (boolOf (arg args "local_access"))),
        ("masq", flagValue (boolOf (arg args "masq"))),
        ("client_to_client", flagValue (boolOf (arg args "client_to_client")))])

def start : Result × Configs :=
  match applyRuntime env c with
  | (.ok, c) => (.ok, { c with wgserver := c.wgserver.set server "enabled" (.text ['1']) })
  | (e, c) => (e, c)

def stop : Result × Configs :=
  (.ok, teardownRuntime
    { c with wgserver := c.wgserver.set server "enabled" (.text ['0']) })

/-- The checks of `write_route` and what it writes. -/
def routeOptions : Except Result (List (String × Value)) := do
  let flag ← (((arg args "route_flag").bind env.number).filter fun n => n = 4 || n = 6).elim
    (.error (err 1 "invalid address family")) Except.ok
  let dest ← (((arg args "dest").bind Json.asText).filter fun t => t ≠ [] && !t.any isSpace).elim
    (.error (err 1 "invalid destination")) Except.ok
  let gateway ← env.optionValue (Json.orElse (arg args "gateway") (.str []))
  let scope ← env.optionValue (Json.orElse (arg args "scope") (.str []))
  return [("route_flag", .text (env.showNumber flag)), ("dest", .text dest), ("gateway", gateway),
    ("metric", numberText env (arg args "metric")), ("mtu", numberText env (arg args "mtu")),
    ("scope", scope)]

def addRoute (id : Text) : Result × Configs :=
  addSection env c ("r_".toList ++ id) "route" [("rule_id", .text id)] (routeOptions env args)

def routeById (id : Option Json) : Option (Text × Section) :=
  (c.wgserver.ofType "route").find? fun e =>
    env.textOf (e.2.options "rule_id") = env.asString (Json.orElse id (.str []))

def setRoute : Result × Configs :=
  match routeById env c (arg args "rule_id") with
  | none => (err 1 "route not found", c)
  | some (name, _) =>
    match routeOptions env args with
    | .error e => (e, c)
    | .ok options => store env c (c.wgserver.setAll name options)

def removeRoute : Result × Configs :=
  match routeById env c (arg args "rule_id") with
  | none => (err 1 "route not found", c)
  | some (name, _) => store env c (c.wgserver.delete name)

/-! ## Sequences of calls -/

/-- The methods that change something, with the ids and the keys that are generated for them. -/
inductive Call
  | generateKey (keys : Option (Text × Text))
  | setConfig (args : Json)
  | addPeer (id : Text) (keys : Option (Text × Text)) (args : Json)
  | setPeer (args : Json)
  | removePeer (args : Json)
  | setSetting (args : Json)
  | start
  | stop
  | addRoute (id : Text) (args : Json)
  | setRoute (args : Json)
  | removeRoute (args : Json)

def Call.run : Call → Result × Configs
  | .generateKey keys => WgServer.generateKey c keys
  | .setConfig args => WgServer.setConfig env c args
  | .addPeer id keys args => WgServer.addPeer env c args id keys
  | .setPeer args => WgServer.setPeer env c args
  | .removePeer args => WgServer.removePeer env c args
  | .setSetting args => WgServer.setSetting env c args
  | .start => WgServer.start env c
  | .stop => WgServer.stop c
  | .addRoute id args => WgServer.addRoute env c args id
  | .setRoute args => WgServer.setRoute env c args
  | .removeRoute args => WgServer.removeRoute env c args

def machine : Machine Configs Call where
  step c call := (call.run env c).2

end GlXe3000.Oui.Vpn.WgServer
