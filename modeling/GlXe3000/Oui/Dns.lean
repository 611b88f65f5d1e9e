import GlXe3000.Lib.Lua
import GlXe3000.Lib.Machine

/-! # Who sets the upstream servers: `adguardhome.lua` and `dns.lua`

Both objects write `server`, `noresolv` and `cachesize` of the `dnsmasq` section. `dns.set_config` writes
what the mode prescribes that it stores. `adguardhome.set_config` puts AdGuard in front and keeps a
backup in the same section, from which it restores. -/

namespace GlXe3000.Oui.Dns
open Text

structure Router where
  adguardhome : Package
  dhcp : Package
  glDns : Package
  dnsproxy : Package
  firewall : Package
  network : Package

structure Env extends Lua where
  /-- `read_provider`: a file of the catalogue that holds a table. -/
  readProvider : Text → Option Json
  command : Bool
  service : Bool
  /-- The package `dnsproxy` can be committed. -/
  writable : Bool

variable (env : Env) (r : Router) (args : Json)

/-! ## Sections -/

def dnsmasqSection (p : Package) : Text := (p.first "dnsmasq").getD "dnsmasq"

def glDnsName (p : Package) : Text := (p.first "dns").getD "dns"

/-- `gl_dns_section` makes the section if there is none. -/
def withGlDns (p : Package) : Package :=
  if (p.first "dns").isSome then p else p.setType "dns" "dns"

def storedMode (p : Package) : Json :=
  ((p.get (glDnsName p) "mode").map Value.toJson).getD (.str "auto")

def agh : Text := "config"

def isEnabled (p : Package) : Bool := isOn (p.get agh "enabled")

/-! ## AdGuard Home -/

def backup (p : Package) (ds : Text) (o : String) : Value := (p.get ds o.toList).getD (.text [])

/-- `backup_dnsmasq`. The library takes no empty table, and that is what it is given where there are no
servers. -/
def backupDnsmasq (p : Package) (ds : Text) : Except Result Package :=
  if isOn (p.get ds "gl_agh_backed_up") then .ok p
  else do
    let servers ← env.optionValue (((p.get ds "server").map Value.toJson).getD (.arr []))
    return p.setAll ds [("gl_agh_server_backup", servers),
      ("gl_agh_noresolv_backup", backup p ds "noresolv"),
      ("gl_agh_cachesize_backup", backup p ds "cachesize"), ("gl_agh_backed_up", .text ['1'])]

def adguard : Value := .list ["127.0.0.1#3053"]

def enableDnsmasqUpstream (p : Package) (ds : Text) : Except Result Package := do
  let p ← backupDnsmasq env p ds
  return p.setAll ds [("server", adguard), ("noresolv", .text ['1'])]

def restoreOption (p : Package) (ds : Text) (o from' : String) : Package :=
  match p.get ds from'.toList with
  | none | some (.text []) => p.unset ds o.toList
  | some v => p.set ds o.toList v

def restoreDnsmasq (p : Package) (ds : Text) : Except Result Package :=
  if !isOn (p.get ds "gl_agh_backed_up") then .ok p
  else do
    let servers ← env.optionValue
      (((p.get ds "gl_agh_server_backup").map Value.toJson).getD (.arr []))
    let p := p.set ds "server" servers
    let p := restoreOption p ds "noresolv" "gl_agh_noresolv_backup"
    let p := restoreOption p ds "cachesize" "gl_agh_cachesize_backup"
    return p.unsetAll ds ["gl_agh_server_backup", "gl_agh_noresolv_backup", "gl_agh_cachesize_backup",
      "gl_agh_backed_up"]

def redirect (p : Package) (name proto upper : String) : Package.Draft where
  name := name.toList
  type := "redirect"
  options := [("name", .text ("AdGuard Home direct DNS ".toList ++ upper.toList)),
    ("src", .text "lan"), ("proto", .text proto.toList), ("src_dport", .text "53"),
    ("dest_ip", (p.get "lan" "ipaddr").getD (.text "192.168.8.1")),
    ("dest_port", .text "3053"), ("target", .text "DNAT")]

def configureDirectDns (firewall network : Package) (enabled : Bool) : Package :=
  let p := firewall.deleteAll ["gl_agh_dns_udp", "gl_agh_dns_tcp"]
  if enabled then
    p.newSections [redirect network "gl_agh_dns_udp" "udp" "UDP",
      redirect network "gl_agh_dns_tcp" "tcp" "TCP"]
  else p

/-- The checks of `adguardhome.set_config`: whether AdGuard is to be enabled, with direct DNS, and the
section of `dnsmasq`. -/
def aghRequest : Except Result (Bool × Bool × Text) := do
  let enabled ← ((arg args "enabled").bind Json.asBool).elim
    (.error (err 1 "enabled must be boolean")) Except.ok
  let direct := (arg args "dns_enabled").bind Json.asBool
  check (!enabled || direct.isSome) (err 1 "dns_enabled must be boolean")
  let ds ← (r.dhcp.first "dnsmasq").elim (.error (err (-1) "dnsmasq not found")) Except.ok
  return (enabled, direct.getD false, ds)

/-- `adguardhome.set_config`. The package of AdGuard is committed before the others are edited. -/
def aghSetConfig : Result × Router :=
  match aghRequest r args with
  | .error e => (e, r)
  | .ok (enabled, direct, ds) =>
    let r := { r with
      adguardhome := r.adguardhome.setAll agh
        [("enabled", flagValue enabled), ("dns_enabled", flagValue (enabled && direct))] }
    match if enabled then enableDnsmasqUpstream env r.dhcp ds else restoreDnsmasq env r.dhcp ds with
    | .error e => (e, r)
    | .ok dhcp =>
      (.ok, { r with
        dhcp := dhcp
        firewall := configureDirectDns r.firewall r.network (enabled && direct) })

/-! ## Requests of `dns.set_config` -/

def asList : Option Json → List Json
  | some (.arr items) => items
  | none | some (.obj _) | some (.str []) => []
  | some v => [v]

def trim (t : Text) : Text := ((t.dropWhile isSpace).reverse.dropWhile isSpace).reverse

/-- `^%d+%.%d+%.%d+%.%d+$`, or a colon. -/
def isAddress (t : Text) : Bool :=
  (pieces '.' t).length = 4 && (pieces '.' t).all isNumber || ':' ∈ t

/-- `normalize_manual_server`. There is no message for an empty server. -/
def normalizeManualServer (value : Json) : Except Result Text :=
  let value := trim (env.asString (Json.orElse (some value) (.str [])))
  if value = [] then .error (err (-5) "")
  else
    match (cut '#' value).filter fun q => q.1 ≠ [] && q.2 ≠ [] with
    | some (ip, port) =>
      if !isAddress ip then .error (.err (-5) ("invalid manual dns ip: ".toList ++ ip))
      else if !isNumber port || toNumber port < 1 || 65535 < toNumber port then
        .error (.err (-5) ("invalid manual dns port: ".toList ++ port))
      else .ok (ip ++ '#' :: port)
    | none =>
      if !isAddress value then .error (.err (-5) ("invalid manual dns format: ".toList ++ value))
      else .ok value

def manualServers : Except Result (List Text) := do
  let servers ← (asList (arg args "manual_list")).mapM (normalizeManualServer env)
  check (!servers.isEmpty) (err (-5) "manual_list is empty")
  return servers

def secureProtocols : List Text :=
  ["dot", "doh", "doq", "odoh", "dnscrypt"]

/-- `[a-zA-Z0-9_-]`. -/
def isIdChar (ch : Char) : Bool := isAlnum ch || ch = '_' || ch = '-'

def resolverUrl (host : String) (proto id : Text) : Except Result (List Json) :=
  if id.isEmpty || !id.all isIdChar then .error (err (-5) "Invalid Resolver ID")
  else if proto = "doh" then .ok [.str ("https://".toList ++ host.toList ++ '/' :: id)]
  else if proto = "doq" then .ok [.str ("quic://".toList ++ id ++ '.' :: host.toList)]
  else .ok [.str ("tls://".toList ++ id ++ '.' :: host.toList)]

/-- `==` of decoded values; two tables are never the same. -/
def same : Option Json → Json → Bool
  | some .null, .null => true
  | some (.bool a), .bool b => a = b
  | some (.num a), .num b => a = b
  | some (.str a), .str b => a = b
  | _, _ => false

/-- The first server of the list with the name; a server that cannot be indexed raises an error. -/
def findServer (name : Json) : List Json → Except Result (Option Json)
  | [] => .ok none
  | server :: servers => do
    let n ← (server.index "name").mapError fun _ => Result.raised
    if same n name then return some server else findServer name servers

def providerServer (provider name : Json) : Except Result (Option Json) := do
  let path ← (env.checkString provider).elim (.error Result.raised) Except.ok
  match env.readProvider path with
  | none => return none
  | some file =>
    match Json.orElse (file.field "server_list") (.arr []) with
    | .arr servers => findServer name servers
    | .obj _ => return none
    | _ => .error .raised

def serverUrl (proto : Text) (server : Json) : Except Result Json := do
  let doh := if proto = "doh" then server.field "url_doh" else none
  let doq := if proto = "doq" then server.field "url_doq" else none
  let url := if Json.truthy doh then doh else if Json.truthy doq then doq
    else server.field "url_dot"
  check (Json.truthy url) (err (-5) "protocol not supported")
  return url.getD .null

/-- `secure_upstreams`, on what the request and the stored options give together. -/
def secureUpstreams (get : String → Option Json) : Except Result (List Json) := do
  let proto := ((get "proto").bind Json.asText).filter fun t => t ∈ secureProtocols
  check (Json.truthy (get "provider") && proto.isSome) (err (-5) "invalid provider or protocol")
  let provider := (get "provider").getD .null
  let proto := proto.getD []
  if provider.isText "nextdns" then
    resolverUrl "dns.nextdns.io" proto (env.asString (Json.orElse (get "nextdns_id") (.str [])))
  else if provider.isText "controld" then
    resolverUrl "dns.controld.com" proto
      (orDefault (env.asString (Json.orElse (get "controld_id") (.str []))) "p0")
  else if provider.isText "manual" then do
    check (!(asList (get "secure_manual_list")).isEmpty) (err (-5) "secure manual list is empty")
    (asList (get "secure_manual_list")).mapM fun v =>
      if (env.asString v).any fun ch => isSpace ch || ch.toNat < 32 || ch.toNat = 127 then
        .error (err (-5) "invalid secure manual entry")
      else .ok (.str (env.asString v))
  else do
    check (!(asList (get "servers_list")).isEmpty) (err (-5) "servers_list is empty")
    (asList (get "servers_list")).mapM fun name => do
      let server ← providerServer env provider name
      match server with
      | none => .error (err (-5) "secure servers not found")
      | some server => serverUrl proto server

/-- `args[name] or` what is stored. -/
def given (p : Package) (name : String) : Option Json :=
  if Json.truthy (arg args name) then arg args name
  else (p.get (glDnsName p) name.toList).map Value.toJson

inductive Mode
  | auto
  | manual (servers : List Text)
  | secure (urls : List Json)

def requestedMode (p : Package) : Json :=
  if Json.truthy (arg args "mode") then (arg args "mode").getD .null else storedMode p

/-- AdGuard keeps the other modes out. It is looked for by the type of its section. -/
def isOccupied (p : Package) : Bool :=
  (p.first "config").any fun n => isOn (p.get n "enabled")

def checkFlags : List String → Except Result Unit
  | [] => .ok ()
  | key :: keys => do
    check ((arg args key).all fun v => v.asBool.isSome) (.err (-5) ("invalid ".toList ++ key.toList))
    checkFlags keys

/-- The checks of `set_config` before anything is written. -/
def checkedMode : Except Result Mode := do
  checkFlags args ["force_dns", "override_vpn", "rebind_protection", "manual_local_dns"]
  let mode := requestedMode args r.glDns
  let auto := mode.isText "auto"
  let manual := mode.isText "manual"
  check (auto || manual || mode.isText "secure") (err (-5) "invalid mode")
  check (auto || !isOccupied r.adguardhome) (err (-4) "Dns Busy. Occupied by adguardhome")
  if auto then return .auto
  else if manual then return .manual (← manualServers env args)
  else return .secure (← secureUpstreams env (given args r.glDns))

/-! ## What `dns.set_config` writes -/

def Mode.name : Mode → String
  | .auto => "auto"
  | .manual _ => "manual"
  | .secure _ => "secure"

def copied (name : String) : Except Result (List (String × Value)) :=
  match arg args name with
  | none => .ok []
  | some v => do
    let v ← env.optionValue v
    return [(name, v)]

/-- A flag of the request, or what is stored, or `0`. -/
def keptFlag (p : Package) (name : String) : String × Value :=
  (name, ((arg args name).map flagValueOf).getD
    ((p.get (glDnsName p) name.toList).getD (.text ['0'])))
where
  flagValueOf (v : Json) : Value := flag (some v)

def modeOptions (mode : Mode) : List (String × Value) :=
  [("mode", .text mode.name.toList), ("manual_enable", flagValue (mode.name ≠ "auto")),
    ("manual_type", .text (if mode.name = "secure" then "secure" else "manual"))] ++
    match mode with
    | .manual servers => [("manual_list", .list servers)]
    | _ => []

/-- The options of `gl-dns-v2` that come from the request. -/
def requestOptions : Except Result (List (String × Value)) := do
  let provider ← copied env args "provider"
  let proto ← copied env args "proto"
  let protoManual ← copied env args "proto_manual"
  let nextdnsId ← copied env args "nextdns_id"
  let controldId ← copied env args "controld_id"
  let controldType := optional "controld_type" ((arg args "controld_type").map fun v =>
    .text (env.asString v))
  let serversList ← copied env args "servers_list"
  let secureManualList ← copied env args "secure_manual_list"
  return provider ++ proto ++ protoManual ++ nextdnsId ++ controldId ++ controldType ++
    serversList ++ secureManualList ++
    [keptFlag args r.glDns "manual_local_dns", keptFlag args r.glDns "override_vpn",
      keptFlag args r.glDns "force_dns"]

def setRebind (p : Package) (ds : Text) : Package :=
  match arg args "rebind_protection" with
  | none => p
  | some v => p.set ds "rebind_protection" (flag (some v))

def setLocaluse (p : Package) (ds : Text) : Package :=
  match arg args "manual_local_dns" with
  | none => p
  | some v =>
    if Json.truthy (some v) then p.set ds "localuse" (.text ['1'])
    else p.unset ds "localuse"

/-- The options of `dnsmasq` that the request changes itself. -/
def editDnsmasq (p : Package) (ds : Text) : Package := setLocaluse args (setRebind args p ds) ds

def applyAuto (p : Package) (ds : Text) : Package :=
  p.unsetAll ds ["server", "noresolv", "boguspriv", "cachesize"]

def applyManual (p : Package) (ds : Text) (servers : List Text) : Package :=
  (p.unsetAll ds ["server", "boguspriv", "cachesize"]).setAll ds
    [("server", .list servers), ("noresolv", .text ['1'])]

def secureServer : Value := .list ["127.0.0.1#5453"]

def applySecure (p : Package) (ds : Text) : Package :=
  (p.unsetAll ds ["boguspriv", "cachesize"]).setAll ds
    [("server", secureServer), ("noresolv", .text ['1'])]

def stopDnsproxy (p : Package) : Package :=
  if env.service then
    (p.setType "global" "dnsproxy").setAll "global" [("enabled", .text ['0'])]
  else p

def configureDnsproxy (p : Package) (urls : Value) : Package :=
  ((p.setType "global" "dnsproxy").setAll "global"
    [("enabled", .text ['1']), ("listen_addr", .list ["127.0.0.1"]),
      ("listen_port", .list ["5453"])]).newSection "servers" "dnsproxy"
    [("upstream", urls), ("bootstrap", .list ["8.8.8.8:53", "1.1.1.1:53"])]

/-- `dns.set_config`. In secure mode without the proxy the mode is stored all the same. -/
def dnsSetConfig : Result × Router :=
  match checkedMode env r args, requestOptions env r args with
  | .error e, _ => (e, r)
  | .ok _, .error e => (e, r)
  | .ok mode, .ok options =>
    let ds := dnsmasqSection r.dhcp
    let dhcp := editDnsmasq args r.dhcp ds
    let glDns := (withGlDns r.glDns).setAll (glDnsName r.glDns) (modeOptions mode ++ options)
    match mode with
    | .auto =>
      (.ok, { r with
        glDns := glDns
        dhcp := applyAuto dhcp ds
        dnsproxy := stopDnsproxy env r.dnsproxy })
    | .manual servers =>
      (.ok, { r with
        glDns := glDns
        dhcp := applyManual dhcp ds servers
        dnsproxy := stopDnsproxy env r.dnsproxy })
    | .secure urls =>
      if !env.command || !env.service then
        (err (-4) "dnsproxy is not installed", { r with glDns := glDns, dhcp := dhcp })
      else
        match env.optionValue (.arr urls) with
        | .error e => (e, r)
        | .ok urls =>
          if !env.writable then
            (err (-4) "cannot write dnsproxy configuration", { r with glDns := glDns, dhcp := dhcp })
          else
            (.ok, { r with
              glDns := glDns
              dhcp := applySecure dhcp ds
              dnsproxy := configureDnsproxy r.dnsproxy urls })

/-! ## Sequences of calls -/

inductive Call
  | adguardhome (args : Json)
  | dns (args : Json)

structure Event where
  env : Env
  call : Call

def machine : Machine Router Event where
  step r e := match e.call with
    | .adguardhome args => (aghSetConfig e.env r args).2
    | .dns args => (dnsSetConfig e.env r args).2

end GlXe3000.Oui.Dns
