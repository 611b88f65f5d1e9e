import GlXe3000.Lib.Lua
import GlXe3000.Lib.Machine

/-! # The OpenVPN server of `ovpn-server.lua`

`gl_ovpnserver` holds the configuration: a section `global`, a section `vpn` and users. An enabled
server has an instance in `openvpn`, and a zone, its forwardings and a rule in `firewall`. Clients are
set up with a bundle that is exported to a file. -/

namespace GlXe3000.Oui.Vpn.OvpnServer
open Text

structure Router where
  ovpnserver : Package
  openvpn : Package
  firewall : Package
  files : Text → Option Text

structure Env extends Lua where
  sha256 : Text → Text

variable (env : Env) (r : Router) (args : Json)

def vpn : Text := "vpn"
def global : Text := "global"
def iface : Text := "ovpnserver"
def exportFile : Text := "/etc/openvpn/ovpn/client.ovpn"

/-- A file in `CERT_DIR`. -/
def certFile (name : String) : Text := "/etc/openvpn/gl-ovpnserver/".toList ++ name.toList

/-! ## Configuration -/

section
variable (p : Package)

def vpnGet (option default : String) : Value := p.getOr vpn option default

/-- What `get_config` returns. -/
structure VpnConfig where
  mode : Value
  subnetv4 : Value
  mask : Value
  subnetv6 : Value
  start : Value
  endAddress : Value
  proto : Value
  port : Rat
  clientAuth : Nat
  cert : Value
  key : Value
  auth : Value
  cipher : Value
  lzo : Bool
  dh : Value
  ca : Value
  hmac : Bool
  ta : Value
  clientToClient : Bool
  verb : Value
  tapAddress : Value
  tapMask : Value

def vpnConfig : VpnConfig where
  mode := vpnGet p "dev_type" "tun"
  subnetv4 := vpnGet p "subnetv4" "10.8.0.0"
  mask := vpnGet p "mask" "255.255.255.0"
  subnetv6 := vpnGet p "subnetv6" ""
  start := vpnGet p "start" "10.8.0.2"
  endAddress := vpnGet p "end" "10.8.0.100"
  proto := vpnGet p "proto" "udp"
  port := (env.numberOf (p.get vpn "port")).getD 1194
  clientAuth := if vpnGet p "client_auth" "1" = .text ['1'] then 1 else 0
  cert := vpnGet p "cert" ""
  key := vpnGet p "key" ""
  auth := vpnGet p "auth" "SHA256"
  cipher := vpnGet p "cipher" "AES-256-GCM"
  lzo := vpnGet p "comp" "" = .text "lzo"
  dh := vpnGet p "dh" ""
  ca := vpnGet p "ca" ""
  hmac := vpnGet p "hmac" "0" = .text ['1']
  ta := vpnGet p "ta" ""
  clientToClient := vpnGet p "client_to_client" "0" = .text ['1']
  verb := vpnGet p "verb" "3"
  tapAddress := vpnGet p "tap_address" ""
  tapMask := vpnGet p "tap_mask" ""

def isEnabled : Bool := isOn (p.get global "enable")

/-- What `apply_runtime` and `export_config` take for `client_auth`. -/
def clientAuth : Bool := isOn (p.get vpn "client_auth")

end

def initialized : Bool :=
  (r.files (certFile "ca.crt")).isSome && (r.files (certFile "server.crt")).isSome &&
    (r.files (certFile "server.key")).isSome

/-- An operand of `..`, which takes no list. -/
def operand (v : Value) : Except Result Text := v.asText.elim (.error .raised) Except.ok

/-! ## What is generated -/

def tlsAuth (config : VpnConfig) : Except Result (List (String × Value)) :=
  if config.hmac && config.ta ≠ .text [] then
    match config.ta with
    | .list _ => .error .raised
    | .text ta =>
      .ok (if (r.files ta).isSome then [("tls_auth", .text (ta ++ " 0".toList))] else [])
  else .ok []

def loginOptions (p : Package) : List (String × Value) :=
  if clientAuth p then
    [("client_cert_not_required", .text ['1']), ("username_as_common_name", .text ['1']),
      ("auth_user_pass_verify", .text "/usr/lib/gl-oui-rpc/ovpnserver-auth.sh via-env"),
      ("script_security", .text ['2'])]
  else []

def serviceOptions : Except Result (List (String × Value)) := do
  let config := vpnConfig env r.ovpnserver
  let subnet ← operand config.subnetv4
  let mask ← operand config.mask
  let tls ← tlsAuth r config
  return [("enabled", .text ['1']), ("port", .text (env.showNumber config.port)),
      ("proto", config.proto), ("dev", .text iface), ("dev_type", .text "tun"),
      ("ca", .text (certFile "ca.crt")), ("cert", .text (certFile "server.crt")),
      ("key", .text (certFile "server.key")), ("dh", .text "none"), ("cipher", config.cipher),
      ("auth", config.auth), ("server", .text (subnet ++ ' ' :: mask))] ++
    (if config.subnetv6 ≠ .text [] then [("server_ipv6", config.subnetv6)] else []) ++
    [("ifconfig_pool_persist", .text "/tmp/openvpn-ovpnserver-ipp.txt"),
      ("keepalive", .text "10 120"), ("persist_key", .text ['1']),
      ("persist_tun", .text ['1']), ("user", .text "nobody"),
      ("status", .text "/tmp/openvpn-ovpnserver.log"), ("verb", config.verb),
      ("topology", .text "subnet"), ("duplicate_cn", .text ['1'])] ++
    (if config.lzo then [("compress", .text "lzo")] else []) ++
    (if config.clientToClient then [("client_to_client", .text ['1'])] else []) ++
    tls

def instanceOptions : Except Result (List (String × Value)) := do
  let options ← serviceOptions env r
  return options ++ loginOptions r.ovpnserver

def firewallNames : List Text :=
  ["gl_ovpnserver", "gl_ovpnserver_to_lan", "gl_ovpnserver_to_wan",
    "gl_ovpnserver_input"]

def firewallDrafts (p : Package) : List Package.Draft :=
  [{ name := "gl_ovpnserver"
     type := "zone"
     options := [("name", .text iface), ("device", .text iface),
      ("input", .text (if p.get global "access" = some (.text "ACCEPT")
        then "ACCEPT" else "REJECT")),
      ("output", .text "ACCEPT"), ("forward", .text "REJECT"),
      ("masq", flagValue (p.get global "masq" ≠ some (.text ['0'])))] },
    { name := "gl_ovpnserver_to_lan"
      type := "forwarding"
      options := [("src", .text iface), ("dest", .text "lan")] },
    { name := "gl_ovpnserver_to_wan"
      type := "forwarding"
      options := [("src", .text iface), ("dest", .text "wan")] },
    { name := "gl_ovpnserver_input"
      type := "rule"
      options := [("name", .text "Allow-OpenVPN-Server"), ("src", .text "wan"),
        ("proto", (vpnConfig env p).proto),
        ("dest_port", .text (env.showNumber (vpnConfig env p).port)),
        ("target", .text "ACCEPT")] }]

def applyRuntime : Result × Router :=
  if !initialized r then (err 1 "OpenVPN server certificate is not generated yet", r)
  else if vpnGet r.ovpnserver "dev_type" "tun" ≠ .text "tun" then
    (err 1 "TAP (bridged) mode is not supported on this build", r)
  else
    match instanceOptions env r with
    | .error e => (e, r)
    | .ok options =>
      (.ok,
        { r with
          openvpn := (r.openvpn.delete iface).newSection iface "openvpn" options
          firewall := (r.firewall.deleteAll firewallNames).newSections
            (firewallDrafts env r.ovpnserver) })

def refreshIfRunning : Result × Router :=
  if isEnabled r.ovpnserver then applyRuntime env r else (.ok, r)

/-! ## Settings -/

/-- `if not cursor:get(CONFIG, n) then cursor:set(CONFIG, n, type) end`. -/
def ensure (p : Package) (n type : Text) : Package :=
  if (p.find n).isSome then p else p.setType n type

/-- `^%d+%.%d+%.%d+%.%d+$`. -/
def isDotted (t : Text) : Bool := (pieces '.' t).length = 4 && (pieces '.' t).all isNumber

/-- The checks of `set_config` and what it writes. -/
def configOptions : Except Result (List (String × Value)) := do
  check (!(arg args "mode").any fun v => v.isText "tap")
    (err 1 "TAP (bridged) mode is not supported on this build")
  let subnetv4 ← (((arg args "subnetv4").bind Json.asText).filter isDotted).elim
    (.error (err 1 "invalid subnetv4")) Except.ok
  let mask ← (((arg args "mask").bind Json.asText).filter isDotted).elim
    (.error (err 1 "invalid mask")) Except.ok
  let port ← (((arg args "port").bind env.number).filter fun n => 1 ≤ n && n ≤ 65535).elim
    (.error (err 1 "invalid port")) Except.ok
  let proto ← (((arg args "proto").bind Json.asText).filter fun t =>
    t = "udp".toList || t = "tcp".toList).elim (.error (err 1 "invalid proto")) Except.ok
  let subnetv6 ← env.optionValue (Json.orElse (arg args "subnetv6") (.str []))
  let start ← env.optionValue (Json.orElse (arg args "start") (.str []))
  let endAddress ← env.optionValue (Json.orElse (arg args "end") (.str []))
  let auth ← env.optionValue (Json.orElse (arg args "auth") (.str "SHA256"))
  let cipher ← env.optionValue (Json.orElse (arg args "cipher") (.str "AES-256-GCM"))
  return [("dev_type", .text "tun"), ("subnetv4", .text subnetv4), ("mask", .text mask),
      ("subnetv6", subnetv6), ("start", start), ("end", endAddress), ("proto", .text proto),
      ("port", .text (env.showNumber port)),
      ("client_auth", flagValue (boolOf (arg args "client_auth"))), ("auth", auth),
      ("cipher", cipher), ("comp", .text (if boolOf (arg args "lzo") then "lzo" else [])),
      ("hmac", flagValue (boolOf (arg args "hmac")))] ++
    optional "ta" (((arg args "ta").bind Json.asText).map Value.text) ++
    [("client_to_client", flagValue (boolOf (arg args "client_to_client"))),
      ("verb", .text (env.asString (Json.orElse (arg args "verb") (.str ['3']))))]

def setConfig : Result × Router :=
  match configOptions env args with
  | .error e => (e, r)
  | .ok options =>
    refreshIfRunning env
      { r with ovpnserver := (ensure r.ovpnserver vpn "service").setAll vpn options }

/-- What `set_setting` writes to `global`. -/
def globalOptions : List (String × Value) :=
  optional "enable" ((arg args "enable").map fun v => flagValue (boolOf (some v))) ++
    optional "access" ((((arg args "access").bind Json.asText).filter fun t =>
      t = "ACCEPT".toList || t = "DROP".toList).map Value.text) ++
    [("masq", flagValue (boolOf (arg args "masq")))]

/-- What `set_setting` writes to `vpn`. -/
def scopeOptions : List (String × Value) :=
  if Json.truthy (arg args "access_scope") then
    [("access_scope", .text (env.showNumber (((arg args "access_scope").bind env.number).getD 1)))]
  else []

/-- The package that `set_setting` commits. -/
def settingPackage (p : Package) : Package :=
  (ensure ((ensure p global "general").setAll global (globalOptions args)) vpn
    "service").setAll vpn (scopeOptions env args)

def setSetting : Result × Router :=
  if boolOf (arg args "enable") && !initialized r then (err 1 "generate a certificate first", r)
  else
    let r := { r with ovpnserver := settingPackage env args r.ovpnserver }
    if isEnabled r.ovpnserver then applyRuntime env r
    else (.ok, { r with openvpn := r.openvpn.delete iface })

/-! ## Certificates -/

/-- What the commands of `generate_certificate` write to, in order. -/
def certificateFiles : List String :=
  ["ca.key", "ca.crt", "server.key", "server.csr", "server.ext", "server.crt", "client.key",
    "client.csr", "client.ext", "client.crt"]

/-- What became of a command: whether it succeeded, and what it wrote, if anything. -/
structure Outcome where
  ok : Bool
  written : Option Text

def writeFile (files : Text → Option Text) (path : Text) : Option Text → Text → Option Text
  | none => files
  | some t => Function.update files path (some t)

def runCommands (outcome : String → Outcome) :
    List String → (Text → Option Text) → Bool × (Text → Option Text)
  | [], files => (true, files)
  | name :: names, files =>
    let files := writeFile files (certFile name) (outcome name).written
    if (outcome name).ok then runCommands outcome names files else (false, files)

def generateCertificate (outcome : String → Outcome) : Result × Router :=
  let (ok, files) := runCommands outcome certificateFiles r.files
  -- The requests for signatures are removed whatever happened.
  let r := { r with
    files := Function.update (Function.update files (certFile "server.csr") none)
      (certFile "client.csr") none }
  if ok && initialized r then (.ok, r)
  else (err 1 "certificate generation failed - is openssl-util installed?", r)

/-! ## Users -/

/-- `user.username == username`. Lists are never equal. -/
def sameName : Option Value → Option Json → Bool
  | none, none => true
  | some (.text t), some (.str u) => t = u
  | _, _ => false

def userByName (p : Package) (username : Option Json) : Option (Text × Section) :=
  (p.ofType "user").find? fun e => sameName (e.2.options "username") username

/-- `[%w_%-%.]`. -/
def isNameChar (ch : Char) : Bool := isAlnum ch || ch = '_' || ch = '-' || ch = '.'

def newUser : Except Result (Text × Text) := do
  let username ← (((arg args "username").bind Json.asText).filter fun t =>
    !t.isEmpty && t.all isNameChar).elim (.error (err 1 "invalid username")) Except.ok
  let password ← (((arg args "password").bind Json.asText).filter fun t => 4 ≤ t.length).elim
    (.error (err 1 "password too short")) Except.ok
  check (userByName r.ovpnserver (some (.str username))).isNone (err 1 "user already exists")
  return (username, password)

def addUser (id : Text) : Result × Router :=
  match newUser r args with
  | .error e => (e, r)
  | .ok (username, password) =>
    (.ok, { r with
      ovpnserver := r.ovpnserver.newSection ("u_".toList ++ id) "user"
        [("username", .text username), ("password_hash", .text (env.sha256 password))] })

def removeUser : Result × Router :=
  match userByName r.ovpnserver (arg args "username") with
  | none => (err 1 "user not found", r)
  | some (name, _) => (.ok, { r with ovpnserver := r.ovpnserver.delete name })

/-! ## The bundle for clients -/

/-- A file without what `%s+$` matches. -/
def readTrimmed (path : Text) : Text :=
  ((((r.files path).getD []).reverse.dropWhile isSpace).reverse)

def optionLines (proto cipher auth address port : Text) : List Text :=
  ["client", "dev tun", "proto ".toList ++ proto,
    "remote ".toList ++ (address ++ ' ' :: port), "resolv-retry infinite", "nobind",
    "persist-key", "persist-tun", "remote-cert-tls server",
    "cipher ".toList ++ cipher, "auth ".toList ++ auth, "verb 3"]

def bundleLines (address : Text) : Except Result (List Text) := do
  let config := vpnConfig env r.ovpnserver
  let proto ← operand config.proto
  let cipher ← operand config.cipher
  let auth ← operand config.auth
  return optionLines proto cipher auth address (env.showNumber config.port) ++
    ((if clientAuth r.ovpnserver then ["auth-user-pass".toList] else []) ++
    (["<ca>".toList, readTrimmed r (certFile "ca.crt"), "</ca>".toList] ++
    if clientAuth r.ovpnserver then []
    else ["<cert>".toList, readTrimmed r (certFile "client.crt"), "</cert>".toList, "<key>".toList,
      readTrimmed r (certFile "client.key"), "</key>".toList]))

/-- `args.address`, or its first item. -/
def exportAddress : Except Result Text :=
  ((match arg args "address" with
    | some (.arr items) => items.head?.bind Json.asText
    | v => v.bind Json.asText).filter fun t => t ≠ []).elim
    (.error (err 1 "missing address")) Except.ok

def exportConfig (writable : Bool) : Result × Router :=
  if !initialized r then (err 1 "generate a certificate first", r)
  else
    match exportAddress args >>= bundleLines env r with
    | .error e => (e, r)
    | .ok lines =>
      if writable then
        (.ok, { r with
          files := Function.update r.files exportFile (some (['\n'].intercalate lines ++ ['\n'])) })
      else (err 1 "failed to write export file", r)

/-! ## Sequences of calls -/

/-- The methods that change something, with what the system does for them. -/
inductive Call
  | setConfig (args : Json)
  | setSetting (args : Json)
  | generateCertificate (outcome : String → Outcome)
  | addUser (id : Text) (args : Json)
  | removeUser (args : Json)
  | exportConfig (writable : Bool) (args : Json)

def Call.run : Call → Result × Router
  | .setConfig args => OvpnServer.setConfig env r args
  | .setSetting args => OvpnServer.setSetting env r args
  | .generateCertificate outcome => OvpnServer.generateCertificate r outcome
  | .addUser id args => OvpnServer.addUser env r args id
  | .removeUser args => OvpnServer.removeUser r args
  | .exportConfig writable args => OvpnServer.exportConfig env r args writable

def machine : Machine Router Call where
  step r call := (call.run env r).2

end GlXe3000.Oui.Vpn.OvpnServer
