import GlXe3000.Lib.Lua

/-! # The subnets of `vlan_subnet.lua`

The helpers of the object: IPv4 arithmetic, and what they read from and write to the packages
`network`, `dhcp`, `firewall` and `wireless`. A subnet is a section of `network`: one of the three
fixed ones, or an interface with a name like `vlan10`. -/

namespace GlXe3000.Oui.Subnet
open Text

/-- The surroundings: library functions, and the address and prefix length that `ubus` reports for
an interface. -/
structure Env extends Lua where
  wan : Text → Option (Text × Nat)

/-! ## Addresses -/

def ipToNumber (ip : Text) : Option Nat :=
  match pieces '.' ip with
  | [a, b, c, d] =>
    if isNumber a && isNumber b && isNumber c && isNumber d then
      if 255 < toNumber a ∨ 255 < toNumber b ∨ 255 < toNumber c ∨ 255 < toNumber d then none
      else some (toNumber a * 16777216 + toNumber b * 65536 + toNumber c * 256 + toNumber d)
    else none
  | _ => none

def ipArg (v : Json) : Option Nat := v.asText.bind ipToNumber

def numberToIp (n : Nat) : Text :=
  Nat.toDigits 10 (n / 16777216 % 256) ++ '.' :: Nat.toDigits 10 (n / 65536 % 256) ++ '.' ::
    Nat.toDigits 10 (n / 256 % 256) ++ '.' :: Nat.toDigits 10 (n % 256)

def isPrivateIp (n : Nat) : Bool :=
  let a := n / 16777216
  let b := n / 65536 % 256
  a = 10 || (a = 172 && 16 ≤ b && b ≤ 31) || (a = 192 && b = 168)

def validateGateway (ip : Json) : Bool := (ipArg ip).any isPrivateIp

def prefixToNetmask (len : Nat) : Option Text :=
  if len < 1 ∨ 32 < len then none else some (numberToIp (2 ^ 32 - 2 ^ (32 - len)))

/-- `network_overlap`; what is no address overlaps nothing. -/
def networkOverlap (ip1 mask1 ip2 mask2 : Option Nat) : Bool :=
  match ip1, mask1, ip2, mask2 with
  | some n1, some m1, some n2, some m2 => n1 &&& min m1 m2 = n2 &&& min m1 m2
  | _, _, _, _ => false

def validateNetmask (netmask : Json) : Bool :=
  (ipArg netmask).any fun n =>
    n ≠ 0 && (2 ^ 32 - 1 - n) &&& (2 ^ 32 - 1 - n + 1) = 0

def ipToDhcpOffset (ip gateway netmask : Json) : Option Nat :=
  match ipArg ip, ipArg gateway, ipArg netmask with
  | some i, some g, some m => if i < (g &&& m) + 1 then none else some (i - (g &&& m))
  | _, _, _ => none

/-! ## Networks -/

def fixedSubnets : List Text := ["lan", "guest", "iot"]

def displayNameMap : List (Text × Text) :=
  [("lan", "main"), ("guest", "guest"), ("iot", "iot")]

def networkMap : List (Text × Text) :=
  [("main", "lan"), ("guest", "guest"), ("iot", "iot")]

/-- `^vlan(%d+)$`. -/
def vlanDigits (network : Text) : Option Text :=
  (strip "vlan" network).bind fun d => if isNumber d then some d else none

def isCustomName (network : Text) : Bool := (vlanDigits network).isSome

def vlanIdOf (network : Text) : Option Nat := (vlanDigits network).map toNumber

def isFixedSubnet (network : Text) : Bool := network ∈ fixedSubnets

/-- The order of `table.sort`. -/
def textLe (a b : Text) : Bool := a.map Char.toNat ≤ b.map Char.toNat

section
variable (p : Package)

def getAllCustomNetworks : List Text :=
  (((p.ofType "interface").map Prod.fst).filter isCustomName).insertionSort
    fun a b => textLe a b

def getAllSubnetNetworks : List Text :=
  (fixedSubnets.filter fun n => (p.find n).isSome) ++ getAllCustomNetworks p

def getDisplayName (network : Text) : Value :=
  (p.get network "display_name").getD
    (.text ((displayNameMap.lookup network).getD network))

/-- `value == arg`; a list is equal to nothing. -/
def sameText (v : Value) (arg : Json) : Bool :=
  match v with
  | .text t => arg.isText t
  | .list _ => false

def displayNameExists (displayName : Json) (exclude : Option Text) : Bool :=
  (getAllSubnetNetworks p).any fun n =>
    some n ≠ exclude && sameText (getDisplayName p n) displayName

def resolveDisplayNameToNetwork (displayName : Option Json) : Option Text :=
  match displayName.bind Json.asText with
  | none | some [] => none
  | some name =>
    (networkMap.lookup name).orElse fun _ =>
      (getAllSubnetNetworks p).find? fun n => getDisplayName p n = .text name

end

section
variable (env : Env) (p : Package)

/-- `tonumber((c:get(...)))`. -/
def getNumber (network option : Text) : Option Rat :=
  (p.getText network option).bind env.tonumber

def getVlanIdForNetwork (network : Text) : Option Rat :=
  if network = "lan" then some 1
  else if network = "guest" then some ((getNumber env p network "vlan_id").getD 9)
  else if network = "iot" then some ((getNumber env p network "vlan_id").getD 10)
  else (vlanIdOf network).map fun n => (n : Rat)

def checkVlanIdRange (vlanId : Rat) : Bool := vlanId = vlanId.floor && 9 ≤ vlanId && vlanId ≤ 4000

def checkVlanIdConflict (vlanId : Rat) : Bool :=
  (getAllSubnetNetworks p).any fun n => getVlanIdForNetwork env p n = some vlanId

def buildWanLogicalInterfaceList : List Text :=
  ["wan".toList, "wwan".toList, "tethering".toList, "repeater".toList] ++
    ((p.ofType "interface").map Prod.fst).filter fun n =>
      (strip "modem_" n).isSome

def subnetConflictRpcError (network : Text) : Result :=
  if network = "wan" then err (-7) "conflict with wan ip"
  else if network = "lan" then err (-8) "conflict with lan ip"
  else if network = "guest" then err (-9) "conflict with guest ip"
  else if network = "iot" then err (-11) "conflict with iot ip"
  else .err (-14) ("conflict with ".toList ++ network)

def defaultNetmask : Text := "255.255.255.0"

/-- An address as it is stored, for `ip_to_number`: a list is none. -/
def rawAddress : Value → Option Nat
  | .text t => ipToNumber t
  | .list _ => none

def notDisabled (network : Text) : Bool := p.get network "disabled" ≠ some (.text ['1'])

/-- The other network's range, as it is stored, is checked for a common address. -/
def conflictsWith (gateway netmask : Json) (network : Text) : Bool :=
  match p.get network "ipaddr" with
  | none => false
  | some ip =>
    networkOverlap (ipArg gateway) (ipArg netmask) (rawAddress ip)
      (rawAddress ((p.get network "netmask").getD (.text defaultNetmask)))

def conflictsWithWan (gateway netmask : Json) (interface : Text) : Bool :=
  match env.wan interface with
  | none => false
  | some (address, len) =>
    networkOverlap (ipArg gateway) (ipArg netmask) (ipToNumber address)
      (ipToNumber ((prefixToNetmask len).getD defaultNetmask))

def checkSubnetConflict (gateway netmask : Json) (exclude : Text) : Option Text :=
  match (getAllSubnetNetworks p).find? fun n =>
      n ≠ exclude && notDisabled p n && conflictsWith p gateway netmask n with
  | some n => some n
  | none =>
    if (buildWanLogicalInterfaceList p).any (conflictsWithWan env gateway netmask) then
      some "wan"
    else none

end

/-! ## What is reported of a subnet -/

/-- `^([^/]+)/?(%d*)$`. -/
def splitCidr (t : Text) : Option (Text × Text) :=
  match cut '/' t with
  | none => if t.isEmpty then none else some (t, [])
  | some (bare, len) => if bare.isEmpty || !len.all isDigit then none else some (bare, len)

def firstAddress : Value → Option Text
  | .text t => some t
  | .list ts => ts.head?

def addressAndLength (p : Package) (network : Text) : Text × Option Nat :=
  match (p.get network "ipaddr").bind firstAddress with
  | none => ([], none)
  | some raw =>
    match splitCidr raw with
    | none => (raw, none)
    | some (bare, len) => (bare, if len.isEmpty then none else some (toNumber len))

/-- The fields of `get_subnet_info` that the methods go by. -/
structure Info where
  ip : Text
  netmask : Value
  displayName : Value

def getSubnetInfo (p : Package) (network : Text) : Info where
  ip := (addressAndLength p network).1
  netmask := (p.get network "netmask").getD
    (.text ((((addressAndLength p network).2).bind prefixToNetmask).getD defaultNetmask))
  displayName := getDisplayName p network

/-! ## DHCP -/

/-- `rpc_dhcp_field_present`. -/
def present : Option Json → Bool
  | none => false
  | some (.str t) => !t.all isSpace
  | some _ => true

def parseDhcpRangeParams (env : Env) (args gateway netmask : Json) :
    Except Text (Option (Rat × Rat)) :=
  let startIp := args.field "dhcp_start_ip"
  let endIp := args.field "dhcp_end_ip"
  let start := args.field "dhcp_start"
  let limit := args.field "dhcp_limit"
  let hasIpRange := present startIp || present endIp
  let hasOffsetRange := present start || present limit
  if hasIpRange && hasOffsetRange then
    .error "cannot mix dhcp_start_ip/dhcp_end_ip with dhcp_start/dhcp_limit"
  else if !(hasIpRange || hasOffsetRange) then .ok none
  else if !validateGateway gateway then
    .error "interface IP (gateway) required for DHCP pool"
  else if hasIpRange then
    if !(Json.truthy startIp && Json.truthy endIp) then
      .error "both dhcp_start_ip and dhcp_end_ip are required"
    else
      match startIp.bind (ipToDhcpOffset · gateway netmask),
        endIp.bind (ipToDhcpOffset · gateway netmask) with
      | some s, some e =>
        if e < s then .error "invalid dhcp range" else .ok (some (s, (e - s + 1 : Nat)))
      | _, _ => .error "invalid dhcp range"
  else
    match start.bind env.number, limit.bind env.number with
    | some s, some l =>
      if s < 1 ∨ l < 1 then .error "invalid dhcp_start or dhcp_limit"
      else .ok (some (s.floor, l.floor))
    | _, _ => .error "invalid dhcp_start or dhcp_limit"

def findDhcpSection (p : Package) (network : Text) : Option Text :=
  if (p.find network).isSome then some network
  else (((p.ofType "dhcp").filter fun e =>
    e.2.options "interface" = some (.text network)).map Prod.fst).getLast?

def setDhcpOptionList (p : Package) (sid optionField : Text) (number : Char) (value : Text) :
    Package :=
  let existing := ((p.get sid optionField).map Value.entries).getD []
  let kept := existing.filter fun v => (strip [number, ','] v).isNone
  let kept := if value.isEmpty then kept else kept ++ [number :: ',' :: value]
  p.set sid optionField (.list kept)

/-- The addresses of a list; an entry that is no text, or is empty, is passed over. -/
def validAddresses : List Json → Option (List Text)
  | [] => some []
  | .str (c :: t) :: rest =>
    if (ipToNumber (c :: t)).isSome then (validAddresses rest).map ((c :: t) :: ·) else none
  | _ :: rest => validAddresses rest

/-- `table.concat(valid, ",")`. -/
def joinCommas (ts : List Text) : Text := (ts.intersperse [',']).flatten

def setAddressOption (p : Package) (sid optionField : Text) (number : Char) (value : Option Json)
    (msg : String) : Except Text Package :=
  match value with
  | none => .ok p
  | some v =>
    if v.isTable then
      match validAddresses v.items with
      | none => .error msg.toList
      | some valid => .ok (setDhcpOptionList p sid optionField number (joinCommas valid))
    else .error msg.toList

/-- The fields of the argument `cfg` of `set_dhcp_config`. -/
structure DhcpConfig where
  dhcpEnable : Option Json
  range : Option (Rat × Rat)
  leasetime : Option Text
  dns : Option Json
  lpr : Option Json

def ensureDhcpSection (p : Package) (network : Text) : Text × Package :=
  match findDhcpSection p network with
  | some sid => (sid, p)
  | none => (network, (p.setType network "dhcp").set network "interface"
      (.text network))

def setDhcpConfig (env : Env) (p : Package) (network : Text) (cfg : DhcpConfig) :
    Except Text Package := do
  let (sid, p) := ensureDhcpSection p network
  let p := match cfg.dhcpEnable with
    | none => p
    | some v =>
      if Json.truthy (some v) then p.unset sid "ignore"
      else p.set sid "ignore" (.text ['1'])
  let p := match cfg.range with
    | none => p
    | some (start, limit) =>
      (p.set sid "start" (.text (env.showNumber start))).set sid "limit"
        (.text (env.showNumber limit))
  let p := match cfg.leasetime with
    | none => p
    | some t => p.set sid "leasetime" (.text t)
  let p ← setAddressOption p sid "dhcp_option" '6' cfg.dns "invalid dns"
  setAddressOption p sid "dhcp_option_force" '9' cfg.lpr "invalid lpr"

/-- `^%d+[smhd]$`. -/
def isLeasetime (t : Text) : Bool :=
  match t.getLast? with
  | some c => (c = 's' || c = 'm' || c = 'h' || c = 'd') && isNumber t.dropLast
  | none => false

def normalizeLeasetime (env : Env) : Option Json → Option Text
  | none => none
  | some v =>
    if (v.asText.map isLeasetime).getD false then v.asText
    else
      match env.number v with
      | none => some "12h"
      | some n =>
        if n ≤ 0 then some "12h"
        else if 60 ≤ n ∧ (n / 60).floor = n / 60 then some (env.showNumber (n / 60) ++ ['h'])
        else some (env.showNumber n ++ ['m'])

/-! ## Firewall and isolation -/

def findSectionBySrc (p : Package) (type network dest : Text) : Option Text :=
  ((p.ofType type).find? fun e => e.2.options "src" = some (.text network) &&
    e.2.options "dest" = some (.text dest)).map Prod.fst

def blockId (network : Text) : Text := "gl_".toList ++ network ++ "_block_private".toList
def forwardingId (network : Text) : Text := "gl_".toList ++ network ++ "_to_wan".toList

def setWanAccessMode (p : Package) (network : Text) (mode : Rat) : Package :=
  let block := (findSectionBySrc p "rule" network "wan").getD (blockId network)
  let fwd := (findSectionBySrc p "forwarding" network "wan").getD
    (forwardingId network)
  if mode = 2 then (p.delete fwd).delete block
  else
    let p := (p.setType fwd "forwarding").setAll fwd
      [("src", .text network), ("dest", .text "wan")]
    if mode = 1 then
      (p.setType block "rule").setAll block
        [("name", .text ("Block-".toList ++ network ++ "-private-wan".toList)),
          ("src", .text network), ("dest", .text "wan"),
          ("dest_ip", .list ["10.0.0.0/8", "172.16.0.0/12", "192.168.0.0/16"]),
          ("target", .text "REJECT")]
    else p.delete block

def setIsolateState (p : Package) (network : Text) (isolate : Bool) : Package :=
  ((p.ofType "wifi-iface").filter fun e =>
    e.2.options "network" = some (.text network)).foldl
    (fun p e => if isolate then p.set e.1 "isolate" (.text ['1'])
      else p.unset e.1 "isolate") p

end GlXe3000.Oui.Subnet
