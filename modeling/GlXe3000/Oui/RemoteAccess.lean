import GlXe3000.Lib.Lua
import GlXe3000.Lib.Machine

/-! # Remote access: `firewall.set_wan_access` and `local-access.set_config`

The ports of the admin UI and of `dropbear` are set by one object. The rules that open them towards
the WAN are written by another, for the ports that are configured at that time. -/

namespace GlXe3000.Oui.RemoteAccess
open Text

/-- The committed packages, and the listener file of `nginx`. -/
structure Router where
  oui : Package
  firewall : Package
  dropbear : Package
  uhttpd : Package
  listen : Option Text

/-- Library functions. A number is never written as an empty text, and a port is read back as it was
written. -/
structure Env extends Lua where
  tostring_ne_nil : ∀ n : Rat, tostring (.num n) ≠ []
  tonumber_tostring : ∀ n : Nat, 1 ≤ n → n ≤ 65535 → tonumber (tostring (.num n)) = some n

variable (env : Env) (r : Router) (args : Json)

def main : Text := "main"

/-! ## Ports -/

def portOf (p : Package) (o : String) (default : Nat) : Rat :=
  (env.numberOf (p.get main o.toList)).getD default

def httpsPort : Rat := portOf env r.oui "https_port" 443

def sshPort : Rat := portOf env r.dropbear "Port" 22

def askedPort (o : String) (default : Nat) : Rat := ((arg args o).bind env.number).getD default

def validPort (port : Rat) : Bool := 1 ≤ port && port ≤ 65535 && port.den = 1

def checkPorts : List Rat → List Rat → Bool
  | _, [] => true
  | seen, port :: ports => validPort port && !(port ∈ seen) && checkPorts (port :: seen) ports

structure Ports where
  http : Rat
  https : Rat
  luciHttp : Rat
  luciHttps : Rat
  ssh : Rat

def askedPorts : Ports where
  http := askedPort env args "http_port" 80
  https := askedPort env args "https_port" 443
  luciHttp := askedPort env args "luci_http_port" 8080
  luciHttps := askedPort env args "luci_https_port" 8443
  ssh := askedPort env args "ssh_port" 22

def Ports.all (ports : Ports) : List Rat :=
  [ports.http, ports.https, ports.luciHttp, ports.luciHttps, ports.ssh]

/-! ## `local-access.set_config` -/

/-- What becomes of the files: whether the new listener file can be written, whether `nginx` takes it,
and whether the old one can be put back. -/
structure Files where
  writable : Bool
  accepted : Bool
  restorable : Bool

/-- `write_listeners`. -/
def listeners (ports : Ports) (redirect : Bool) : Text :=
  let http := env.showNumber ports.http
  let https := env.showNumber ports.https
  "listen ".toList ++ http ++ " default_server;\n".toList ++
    "listen [::]:".toList ++ http ++ " default_server;\n".toList ++
    "listen ".toList ++ https ++ " ssl;\n".toList ++
    "listen [::]:".toList ++ https ++ " ssl;\n".toList ++
    "ssl_certificate /etc/gl-oui.crt;\n".toList ++
    "ssl_certificate_key /etc/gl-oui.key;\n".toList ++
    if redirect then
      "if ($scheme = http) \x7b return 301 https://$host".toList ++
        (if ports.https = 443 then [] else ':' :: https) ++ "$request_uri; \x7d\n".toList
    else []

def defaultListeners : Text :=
  "listen 80 default_server;\nlisten [::]:80 default_server;\n"

def sessionTimeout : List (String × Value) :=
  if Json.truthy (arg args "session_timeout") then
    let seconds := ((arg args "session_timeout").bind env.number).getD 300
    [("session_timeout", .text (env.showNumber (max 60 (min 10800 seconds))))]
  else []

def listenOn (port : Rat) : Value :=
  .list ["0.0.0.0:".toList ++ env.showNumber port, "[::]:".toList ++ env.showNumber port]

def ouiOptions (ports : Ports) : List (String × Value) :=
  [("http_port", .text (env.showNumber ports.http)),
    ("https_port", .text (env.showNumber ports.https)),
    ("redirect_https", flag (arg args "redirect_https")),
    ("luci_http_port", .text (env.showNumber ports.luciHttp)),
    ("luci_https_port", .text (env.showNumber ports.luciHttps))] ++ sessionTimeout env args

def dropbearOptions (ports : Ports) : List (String × Value) :=
  [("Port", .text (env.showNumber ports.ssh)), ("enable", flag (arg args "ssh_enabled"))]

def withPorts (ports : Ports) : Router :=
  { r with
    oui := r.oui.setAll main (ouiOptions env args ports)
    uhttpd := r.uhttpd.setAll main
      [("listen_http", listenOn env ports.luciHttp), ("listen_https", listenOn env ports.luciHttps),
        ("redirect_https", flag (arg args "luci_redirect_https"))]
    dropbear := r.dropbear.setAll main (dropbearOptions env args ports) }

/-- `local-access.set_config`. `nginx` tests the listener file in its place, and the old one is put
back if it is refused. -/
def setConfig (files : Files) : Result × Router :=
  let ports := askedPorts env args
  if !checkPorts [] ports.all then (err (-1) "invalid or conflicting port", r)
  else if !files.writable then (err (-1) "cannot write nginx listener config", r)
  else
    let redirect := ((arg args "redirect_https").bind Json.asBool).getD false
    let new := { r with listen := some (listeners env ports redirect) }
    if !files.accepted then
      (err (-1) "nginx rejected the requested ports",
        if files.restorable then { r with listen := some (r.listen.getD defaultListeners) } else new)
    else (.ok, withPorts env new args ports)

/-! ## `firewall.set_wan_access` -/

def wanAccess : Text := "wan_access"

def validIp (t : Text) : Bool :=
  2 ≤ t.length && t.length ≤ 64 &&
    if ':' ∈ t then t.all fun ch => isHex ch || ch = ':' || ch = '.'
    else (pieces '.' t).length = 4 &&
      (pieces '.' t).all fun octet => isNumber octet && toNumber octet ≤ 255

def addressOf (s : Section) : Option Text :=
  ((s.options "ipaddr").bind Value.asText).filter validIp

def whitelistSections : List (Text × Section) := r.oui.ofType "wan_whitelist"

/-- The addresses of `wan_whitelist`. -/
def whitelist : List Text := (whitelistSections r).filterMap fun e => addressOf e.2

/-- `wan_whitelist`, as a request would give it. -/
def storedEntries : Json :=
  .arr ((whitelistSections r).filterMap fun e => (addressOf e.2).map fun ipaddr =>
    .obj [("name", ((e.2.options "name").map Value.toJson).getD (.str [])),
      ("ipaddr", .str ipaddr)])

def cleanEntry (item : Json) : Except Result (Text × Text) := do
  let ipaddr ← (((item.field "ipaddr").bind Json.asText).filter validIp).elim
    (.error (err 1 "invalid whitelist address")) Except.ok
  return ((((item.field "name").bind Json.asText).map (List.take 64)).getD [], ipaddr)

def boolArg (o : String) (fallback : Bool) : Bool :=
  match arg args o with
  | none => fallback
  | some v => v.asBool = some true

structure Access where
  ping : Bool
  https : Bool
  ssh : Bool
  whitelisted : Bool
  entries : List (Text × Text)

def Access.sources (a : Access) : List Text :=
  if a.whitelisted then a.entries.map Prod.snd else []

def request : Except Result Access := do
  let current := fun o : String => r.oui.get wanAccess o.toList
  let whitelisted := boolArg args "enable_whitelist" (isOn (current "enable_whitelist"))
  let entries := (arg args "whitelist").getD (storedEntries r)
  check entries.isTable (err 1 "invalid whitelist")
  let entries ← entries.items.mapM cleanEntry
  check (!whitelisted || !entries.isEmpty) (err 1 "whitelist cannot be empty")
  return {
    ping := boolArg args "enable_ping" (current "enable_ping" ≠ some (.text ['0']))
    https := boolArg args "enable_https" (isOn (current "enable_https"))
    ssh := boolArg args "enable_ssh" (isOn (current "enable_ssh"))
    whitelisted := whitelisted
    entries := entries }

def httpsRule : Text := "gl_remote_admin_https"
def sshRule : Text := "gl_remote_admin_ssh"
def pingAllow : Text := "gl_wan_ping_allow"
def pingBlock : Text := "gl_wan_ping_block"

/-- The sections of `firewall` that are written anew each time. -/
def ownRules : List Text :=
  [pingAllow, pingBlock, "gl_remote_admin_accept", "gl_remote_admin_redirect",
    httpsRule, sshRule]

/-- `set_sources`. -/
def sourceOptions (sources : List Text) : List (String × Value) :=
  optional "src_ip" (if sources.isEmpty then none else some (.list sources))

def allowPings (p : Package) : List Text :=
  ((p.ofType "rule").filter fun e =>
    e.2.options "name" = some (.text "Allow-Ping")).map Prod.fst

def enableRules (p : Package) (names : List Text) (on : Bool) : Package :=
  names.foldl (fun p n => p.set n "enabled" (flagValue on)) p

def writeRule (p : Package) (n : Text) (on : Bool) (options : List (String × Value)) : Package :=
  if on then p.newSection n "rule" options else p

def pingRule (name target : String) : List (String × Value) :=
  [("name", .text name.toList), ("src", .text "wan"), ("proto", .text "icmp"),
    ("icmp_type", .text "echo-request"), ("target", .text target.toList)]

def remoteRule (name : String) (port : Rat) (sources : List Text) : List (String × Value) :=
  [("name", .text name.toList), ("src", .text "wan"), ("proto", .text "tcp"),
    ("dest_port", .text (env.showNumber port)), ("target", .text "ACCEPT")] ++
    sourceOptions sources

def writePing (p : Package) (a : Access) : Package :=
  let pings := allowPings p
  let p := enableRules p pings (a.ping && !a.whitelisted)
  let p := writeRule p pingAllow (a.ping && (a.whitelisted || pings.isEmpty))
    (pingRule "GL WAN Ping" "ACCEPT" ++ sourceOptions a.sources)
  writeRule p pingBlock (!a.ping || a.whitelisted) (pingRule "Block WAN ping" "DROP")

def sshRunning : Bool := r.dropbear.get main "enable" ≠ some (.text ['0'])

def writeRemote (p : Package) (a : Access) : Package :=
  let p := writeRule p httpsRule a.https
    (remoteRule env "GL Remote HTTPS" (httpsPort env r) a.sources)
  writeRule p sshRule (a.ssh && sshRunning r)
    (remoteRule env "GL Remote SSH" (sshPort env r) a.sources)

def entryOptions (e : Text × Text) : List (String × Value) :=
  [("name", .text e.1), ("ipaddr", .text e.2)]

def addEntries (p : Package) (entries : List (Text × Text)) : Package :=
  entries.foldl (fun p e => p.add "wan_whitelist" (entryOptions e)) p

def accessOptions (a : Access) : List (String × Value) :=
  [("enable_ping", flagValue a.ping), ("enable_https", flagValue a.https),
    ("enable_ssh", flagValue a.ssh), ("enable_whitelist", flagValue a.whitelisted)]

def storeAccess (p : Package) (a : Access) : Package :=
  (addEntries (p.deleteType "wan_whitelist") a.entries).setAll wanAccess (accessOptions a)

def withWanAccess (p : Package) : Package :=
  if (p.typeOf wanAccess).isSome then p else p.setType wanAccess wanAccess

/-- `firewall.set_wan_access`. What was edited before an error is not committed. -/
def setWanAccess : Result × Router :=
  match request r args with
  | .error e => (e, r)
  | .ok a =>
    (.ok, { r with
      firewall := writeRemote env r (writePing (r.firewall.deleteAll ownRules) a) a
      oui := storeAccess (withWanAccess r.oui) a })

/-! ## Calls -/

inductive Call
  | setWanAccess (args : Json)
  | setConfig (args : Json) (files : Files)

def machine : Machine Router Call where
  step r
    | .setWanAccess args => (setWanAccess env r args).2
    | .setConfig args files => (setConfig env r args files).2

end GlXe3000.Oui.RemoteAccess
