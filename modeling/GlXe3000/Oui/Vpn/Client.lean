import GlXe3000.Lib.Lua
import GlXe3000.Lib.Machine

/-! # The tunnels of `vpn-client.lua`

A tunnel is a section of `gl_vpnclient` that refers to a peer in `gl_wgclient`. Bringing it up writes
an interface and a peer to `network` and a zone with its forwardings to `firewall`; these sections
are named after the first 8 characters of the tunnel's id. -/

namespace GlXe3000.Oui.Vpn.Client
open Text

structure Configs where
  vpnclient : Package
  wgclient : Package
  network : Package
  firewall : Package

/-- Library functions. Of `table.sort`, which is not stable, only this much is known. -/
structure Env extends Lua where
  /-- `cjson.decode`; `none` is an error. -/
  decode : Text → Option Json
  sort : List (Text × Section) → List (Text × Section)
  sort_perm : ∀ l, (sort l).Perm l

variable (env : Env) (c : Configs) (args : Json)

/-! ## Lookups -/

def tunnelSections (p : Package) : List (Text × Section) := env.sort (p.ofType "tunnel")

def tunnelById (p : Package) (id : Option Json) : Option (Text × Section) :=
  (tunnelSections env p).find? fun e =>
    env.textOf (e.2.options "tunnel_id") = env.asString (Json.orElse id (.str []))

def wgPeer (p : Package) (groupId peerId : Text) : Option Section :=
  ((p.ofType "peer").find? fun e =>
    env.textOf (e.2.options "group_id") = groupId &&
      env.textOf (e.2.options "peer_id") = peerId).map Prod.snd

def peerOf (p : Package) (tunnel : Section) : Option Section :=
  wgPeer env p (env.textOf (tunnel.options "group_id"))
    (env.textOf (tunnel.options "ref_id"))

/-- `"vpnc" .. tostring(tunnel_id):sub(1, 8)`. -/
def ifaceName (tunnelId : Option Value) : Text :=
  "vpnc".toList ++ ((tunnelId.map fun v => env.asString v.toJson).getD "nil").take 8

def peerType (iface : Text) : Text := "wireguard_".toList ++ iface
def zoneName (iface : Text) : Text := "gl_vpnc_".toList ++ iface
def fwdName (iface : Text) : Text := zoneName iface ++ "_fwd".toList
def lanFwdName (iface : Text) : Text := zoneName iface ++ "_lan_fwd".toList

/-! ## Teardown -/

def teardown (tunnelId : Option Value) : Configs :=
  let iface := ifaceName env tunnelId
  { c with
    network := (c.network.delete iface).deleteType (peerType iface)
    firewall := ((c.firewall.delete (zoneName iface)).delete (fwdName iface)).delete
      (lanFwdName iface) }

/-- `a == b`; a list is equal to nothing, as it is read anew each time. -/
def sameId : Option Value → Option Value → Bool
  | none, none => true
  | some (.text a), some (.text b) => a = b
  | _, _ => false

def teardownAllExcept (keep : Option Value) : Configs :=
  (tunnelSections env c.vpnclient).foldl (fun c e =>
    if sameId (e.2.options "tunnel_id") keep then c
    else teardown env c (e.2.options "tunnel_id")) c

/-! ## Sections of a tunnel -/

/-- `^%[(.-)%]:(%d+)$`, behind the first bracket. -/
def bracketed : Text → Option (Text × Text)
  | [] => none
  | ch :: t =>
    match (strip "]:" (ch :: t)).filter isNumber with
    | some port => some ([], port)
    | none => (bracketed t).map fun r => (ch :: r.1, r.2)

/-- `^([^:]+):(%d+)$`. -/
def hostAndPort (t : Text) : Option (Text × Text) :=
  (cut ':' t).filter fun r => !r.1.isEmpty && isNumber r.2

def endPoint (peer : Section) : Option (Text × Nat) :=
  let t := env.textOf (peer.options "end_point")
  (((strip ['['] t).bind bracketed).or (hostAndPort t)).map fun r => (r.1, toNumber r.2)

/-- A number above 0, and at most `max` where there is one. -/
def positive (name : String) (n : Rat) (max : Option Rat) : List (String × Value) :=
  if 0 < n ∧ max.all (n ≤ ·) then [(name, .text (env.showNumber n))] else []

/-- The servers in `peer.dns`. -/
def dnsServers (peer : Section) : List (String × Value) :=
  let servers := ((env.textOf (peer.options "dns")).splitOnP fun ch =>
    ch = ',' || isSpace ch).filter fun t => !t.isEmpty
  if servers.isEmpty then [] else [("dns", .list servers)]

def addresses (peer : Section) : Except Result Value :=
  let values := [peer.options "address_v4", peer.options "address_v6"].filterMap id
  env.optionValue (.arr ((values.filter fun v => v ≠ .text []).map Value.toJson))

def interfaceValues (tunnel peer : Section) : Except Result (List (String × Value)) := do
  let addresses ← addresses env peer
  let mtu := ((env.numberOf (tunnel.options "mtu")).or
    (env.numberOf (peer.options "mtu"))).getD 0
  let listenPort := (env.numberOf (peer.options "listen_port")).getD 0
  return [("proto", .text "wireguard")] ++
    optional "private_key" (peer.options "private_key") ++ [("addresses", addresses)] ++
    positive env "mtu" mtu none ++ positive env "listen_port" listenPort (some 65535) ++
    dnsServers env peer

/-- `cjson.decode(peer.allowed_ips_json or "[]")`. -/
def allowedIps (peer : Section) : Except Result Value :=
  match peer.options "allowed_ips_json" with
  | some (.list _) => .error .raised
  | some (.text t) => (env.decode t).elim (.error .raised) env.optionValue
  | none => (env.decode "[]").elim (.error .raised) env.optionValue

def presharedKey (peer : Section) : List (String × Value) :=
  if peer.options "presharedkey_enable" = some (.text ['1']) then
    optional "preshared_key" (peer.options "preshared_key")
  else []

def peerValues (peer : Section) (host : Text) (port : Nat) :
    Except Result (List (String × Value)) := do
  let allowedIps ← allowedIps env peer
  return optional "public_key" (peer.options "public_key") ++
    [("endpoint_host", .text host), ("endpoint_port", .text (env.showNumber port)),
      ("allowed_ips", allowedIps), ("route_allowed_ips", .text ['1']),
      ("persistent_keepalive", .text (env.showNumber
        ((env.numberOf (peer.options "persistent_keepalive")).getD 25)))] ++
    presharedKey peer

def zoneSections (tunnel : Section) (iface : Text) : List Package.Draft :=
  let localAccess := isOn (tunnel.options "local_access")
  [{ name := zoneName iface
     type := "zone"
     options := [("name", .text iface), ("network", .text iface),
      ("input", .text (if localAccess then "ACCEPT" else "REJECT")),
      ("output", .text "ACCEPT"), ("forward", .text "REJECT"),
      ("masq", .text (if tunnel.options "masq" = some (.text ['0']) then ['0'] else ['1']))] },
    { name := fwdName iface
      type := "forwarding"
      options := [("src", .text "lan"), ("dest", .text iface)] }] ++
    if localAccess then
      [{ name := lanFwdName iface
         type := "forwarding"
         options := [("src", .text iface), ("dest", .text "lan")] }]
    else []

def addInterface (p : Package) (iface : Text) (interface peer : List (String × Value)) : Package :=
  (p.newSection iface "interface" interface).add (peerType iface) peer

/-- The options of the interface and of the peer, or what is wrong with the configuration. -/
def generate (tunnel peer : Section) :
    Except Result (List (String × Value) × List (String × Value)) := do
  let (host, port) ← (endPoint env peer).elim (.error (err 1 "invalid endpoint")) Except.ok
  check (1 ≤ port ∧ port ≤ 65535) (err 1 "invalid endpoint port")
  let interface ← interfaceValues env tunnel peer
  let values ← peerValues env peer host port
  return (interface, values)

def applyRuntime (tunnel : Section) : Result × Configs :=
  if tunnel.options "tunnel_type" = some (.text "wireguard") then
    match peerOf env c.wgclient tunnel with
    | none => (err 1 "referenced config no longer exists", c)
    | some peer =>
      let id := tunnel.options "tunnel_id"
      let c := teardownAllExcept env (teardown env c id) id
      match generate env tunnel peer with
      | .error e => (e, c)
      | .ok (interface, values) =>
        let iface := ifaceName env id
        (.ok,
          { c with
            network := addInterface c.network iface interface values
            firewall := c.firewall.newSections (zoneSections tunnel iface) })
  else (err 1 "only wireguard tunnels can be started on this build", c)

/-! ## Methods -/

structure Reference where
  groupId : Text
  refId : Text

/-- The first id of the first entry in `via.configs`. -/
def reference (via : Option Json) : Except Result (Option Reference) := do
  let configs ← fieldOf via "configs"
  let first ← itemOf configs 1
  let idList ← fieldOf first "id_list"
  let refId ← itemOf idList 1
  let groupId ← fieldOf first "group_id"
  return (groupId.bind Json.asText).bind fun g => (refId.bind Json.asText).map fun r => ⟨g, r⟩

def checkType (via : Option Json) : Except Result Unit := do
  let type ← fieldOf via "type"
  check (type.any (·.isText "wireguard"))
    (err 1 "only wireguard tunnels are supported on this build")

/-- The checks of `add_tunnel`. -/
def addedReference : Except Result Reference := do
  checkType (arg args "via")
  let found ← reference (arg args "via")
  let ref ← found.elim (.error (err 1 "missing config reference")) Except.ok
  check (wgPeer env c.wgclient ref.groupId ref.refId).isSome (err 1 "referenced config not found")
  return ref

def sectionName (id : Text) : Text := "t_".toList ++ id

def addedOptions (ref : Reference) (id : Text) : List (String × Value) :=
  [("tunnel_id", .text id),
    ("name", .text (((arg args "name").bind Json.asText).getD "Tunnel")),
    ("tunnel_type", .text "wireguard"), ("group_id", .text ref.groupId),
    ("ref_id", .text ref.refId), ("enabled", flag (arg args "enabled")), ("masq", .text ['1']),
    ("order", .text (env.showNumber (tunnelSections env c.vpnclient).length))]

def applyIf (c : Configs) (id : Option Json) (other : Section → Configs) : Result × Configs :=
  match tunnelById env c.vpnclient id with
  | none => (.raised, c)
  | some (_, tunnel) =>
    if isOn (tunnel.options "enabled") then applyRuntime env c tunnel
    else (.ok, other tunnel)

/-- `id` is the new id. -/
def addTunnel (id : Text) : Result × Configs :=
  match addedReference env c args with
  | .error e => (e, c)
  | .ok ref =>
    let c' := { c with
      vpnclient := c.vpnclient.newSection (sectionName id) "tunnel"
        (addedOptions env c args ref id) }
    if Json.truthy (arg args "enabled") then
      match tunnelById env c'.vpnclient (some (.str id)) with
      | none => (.raised, c')
      | some (_, tunnel) => applyRuntime env c' tunnel
    else (.ok, c')

/-- The reference that `set_tunnel` gets, if it gets one. -/
def newReference : Except Result (Option Reference) :=
  if Json.truthy (arg args "via") then do
    checkType (arg args "via")
    let found ← reference (arg args "via")
    let ref ← (found.filter fun r => (wgPeer env c.wgclient r.groupId r.refId).isSome).elim
      (.error (err 1 "referenced config not found")) Except.ok
    return some ref
  else .ok none

/-- The options that `set_tunnel` writes. -/
def tunnelOptions (ref : Option Reference) : List (String × Value) :=
  (ref.elim [] fun r => [("group_id", .text r.groupId), ("ref_id", .text r.refId)]) ++
    optional "enabled" ((arg args "enabled").map fun v => flag (some v))

def setTunnel : Result × Configs :=
  match tunnelById env c.vpnclient (arg args "tunnel_id") with
  | none => (err 1 "tunnel not found", c)
  | some (name, _) =>
    match newReference env c args with
    | .error e => (e, c)
    | .ok ref =>
      let c := { c with vpnclient := c.vpnclient.setAll name (tunnelOptions args ref) }
      applyIf env c (arg args "tunnel_id") fun tunnel =>
        teardown env c (tunnel.options "tunnel_id")

def stop : Result × Configs :=
  match tunnelById env c.vpnclient (arg args "tunnel_id") with
  | none => (err 1 "tunnel not found", c)
  | some (name, tunnel) =>
    (.ok, teardown env
      { c with vpnclient := c.vpnclient.set name "enabled" (.text ['0']) }
      (tunnel.options "tunnel_id"))

def removeTunnel : Result × Configs :=
  match tunnelById env c.vpnclient (arg args "tunnel_id") with
  | none => (err 1 "tunnel not found", c)
  | some (name, tunnel) =>
    (.ok, { teardown env c (tunnel.options "tunnel_id") with
      vpnclient := c.vpnclient.delete name })

/-- The options that `set_options` writes. -/
def optionValues (mtu : Rat) : List (String × Value) :=
  [("mtu", .text (env.showNumber mtu)), ("local_access", flag (arg args "local_access")),
    ("masq", .text (if (arg args "masq").bind Json.asBool = some false then ['0'] else ['1'])),
    ("service_policy", .text ['0']), ("killswitch", .text ['0'])]

def isTrue (v : Option Json) : Bool := v.bind Json.asBool = some true

/-- The checks of `set_options`. -/
def checkedMtu : Except Result Rat := do
  let mtu := ((arg args "mtu").bind env.number).getD 0
  check (mtu = 0 ∨ (68 ≤ mtu ∧ mtu ≤ 65535)) (err 1 "invalid MTU")
  check (!(isTrue (arg args "killswitch") || isTrue (arg args "service_policy")))
    (err 1 "kill switch options are not supported on this build")
  return mtu

def setOptions : Result × Configs :=
  match tunnelById env c.vpnclient (arg args "tunnel_id") with
  | none => (err 1 "tunnel not found", c)
  | some (name, _) =>
    match checkedMtu env args with
    | .error e => (e, c)
    | .ok mtu =>
      let c := { c with vpnclient := c.vpnclient.setAll name (optionValues env args mtu) }
      applyIf env c (arg args "tunnel_id") fun _ => c

/-- The positions of the tunnels, in the order of their ids in the arguments. -/
def orderTunnel : Result × Configs :=
  let ids := Json.orElse (arg args "id_list") (.obj [])
  if ids.isTable then
    (.ok, { c with
      vpnclient := ids.items.zipIdx.foldl (fun p i =>
        match tunnelById env p (some i.1) with
        | some (name, _) => p.set name "order" (.text (env.showNumber (i.2 + 1)))
        | none => p) c.vpnclient })
  else (.raised, c)

def setDefaultTunnel : Result × Configs :=
  (.ok, { c with
    vpnclient := c.vpnclient.newSection "settings" "settings"
      [("default_enabled", flag (arg args "enabled"))] })

/-! ## Sequences of calls -/

inductive Method
  /-- With the id that `new_id` gives. -/
  | addTunnel (id : Text)
  | setTunnel
  | stop
  | removeTunnel
  | setOptions
  | orderTunnel
  | setDefaultTunnel

inductive Event
  | call (method : Method) (args : Json) (env : Env)
  /-- Another object changes `gl_wgclient`. -/
  | configure (wgclient : Package)

def Event.run : Event → Configs → Result × Configs
  | .call (.addTunnel id) args env, c => Client.addTunnel env c args id
  | .call .setTunnel args env, c => Client.setTunnel env c args
  | .call .stop args env, c => Client.stop env c args
  | .call .removeTunnel args env, c => Client.removeTunnel env c args
  | .call .setOptions args env, c => Client.setOptions env c args
  | .call .orderTunnel args env, c => Client.orderTunnel env c args
  | .call .setDefaultTunnel args _, c => Client.setDefaultTunnel c args
  | .configure wgclient, c => (.ok, { c with wgclient := wgclient })

def machine : Machine Configs Event where
  step c e := (e.run c).2

end GlXe3000.Oui.Vpn.Client
