import GlXe3000.Oui.Subnet.Config

/-! # The methods that change subnets

A method works on a cursor and commits one package after the other. What it returns comes with the
packages as they are committed then, so that an error does not have to leave them as they were. -/

namespace GlXe3000.Oui.Subnet
open Text

structure Configs where
  network : Package
  dhcp : Package
  firewall : Package
  wireless : Package

variable (env : Env) (c : Configs) (args : Json)

/-- `args.isolate`, or else `args.ap_isolate`. -/
def isolateReq : Option Json := (arg args "isolate").or (arg args "ap_isolate")

/-- `args.enabled and "0" or "1"`. -/
def disabledValue (enabled : Json) : Value :=
  .text (if Json.truthy (some enabled) then ['0'] else ['1'])

def addressValue (v : Json) : Value := .text (v.asText.getD [])

/-- The option `disabled`, where the arguments say something about it. -/
def setEnabled (p : Package) (network : Text) : Package :=
  match arg args "enabled" with
  | none => p
  | some enabled => p.set network "disabled" (disabledValue enabled)

/-- There is no conflict with another range; a subnet without an address has none. -/
def noConflict (p : Package) (ip netmask : Json) (exclude : Text) : Except Result Unit :=
  if ip.isEmptyText then .ok ()
  else
    match checkSubnetConflict env p ip netmask exclude with
    | some n => .error (subnetConflictRpcError n)
    | none => .ok ()

/-- The package `network`, edited if there is something to edit. -/
def editIf (given : Bool) (edit : Except Result Package) : Except Result Package :=
  if given then edit else .ok c.network

/-! ## `set_fixed_subnet` -/

/-- `rpc_dhcp_field_present(v) and v or other`. -/
def presentOr (v : Option Json) (other : Json) : Json :=
  if present v && Json.truthy v then v.getD other else other

def fixedIp (network : Text) : Json :=
  presentOr (arg args "ip") (.str (getSubnetInfo c.network network).ip)

def newNetmask (network : Text) : Json :=
  Json.orElse (arg args "netmask") (Value.toJson (getSubnetInfo c.network network).netmask)

def editIp (p : Package) (network : Text) (ip : Json) : Package :=
  let p := p.unset network "ipaddr"
  if ip.isEmptyText then p else p.set network "ipaddr" (addressValue ip)

def setFixedAddress (network : Text) : Except Result Package := do
  let ip := fixedIp c args network
  let netmask := newNetmask c args network
  check (ip.isEmptyText || validateGateway ip) (err (-1) "ip must be a private IPv4 address")
  check (validateNetmask netmask) (err (-1) "invalid netmask")
  noConflict env c.network ip netmask network
  let p := if (arg args "ip").isSome then editIp c.network network ip else c.network
  return if Json.truthy (arg args "netmask") then
      p.set network "netmask" (addressValue netmask)
    else p

/-- The checks and the edits of the package `network`. The argument by which a subnet would be named
anew is the one by which it is found, so that its name stays as it is. -/
def fixedNetwork : Except Result (Text × Package) := do
  let displayName := Json.orElse (arg args "display_name") ((arg args "name").getD .null)
  let network ← (displayName.asText.bind fun n => networkMap.lookup n).elim
    (.error (err (-1) "invalid display_name")) Except.ok
  check (c.network.find network).isSome
    (.err (-20) (network ++ " network is not configured".toList))
  let p ← editIf c ((arg args "ip").isSome || (arg args "netmask").isSome)
    (setFixedAddress env c args network)
  return (network, if network = "lan" then p else setEnabled args p network)

/-- The package `firewall`, where a mode is asked for. -/
def setMode (network : Text) : Package :=
  match arg args "wan_access_mode" with
  | none => c.firewall
  | some v => setWanAccessMode c.firewall network ((env.number v).getD 0)

/-- The package `wireless`, where isolation is asked for. -/
def setIsolation (network : Text) : Package :=
  match isolateReq args with
  | none => c.wireless
  | some v => setIsolateState c.wireless network (v.asBool = some true)

/-- The package `dhcp`, which comes last. -/
def changeDhcp (network : Text) (gateway netmask : Json) : Except Result Package := do
  let range ← (parseDhcpRangeParams env args gateway netmask).mapError (.err (-15) ·)
  (setDhcpConfig env c.dhcp network
    { dhcpEnable := arg args "dhcp_enable"
      range := range
      leasetime := normalizeLeasetime env (arg args "leasetime")
      dns := arg args "dns"
      lpr := arg args "lpr" }).mapError (.err (-1) ·)

/-- What is committed when the package `dhcp` is edited. -/
def committedBeforeDhcp (network : Text) (p : Package) : Configs :=
  { c with
    network := p
    firewall := setMode env c args network
    wireless := setIsolation c args network }

/-- The end of a method that edits a subnet: the commits of `network`, `firewall` and `wireless`, and
then the package `dhcp`. `ip` is the address of the subnet. -/
def commitAll (edited : Except Result (Text × Package)) (ip : Text → Json) : Result × Configs :=
  match edited with
  | .error e => (e, c)
  | .ok (network, p) =>
    let done := committedBeforeDhcp env c args network p
    match changeDhcp env c args network (ip network) (newNetmask c args network) with
    | .error e => (e, done)
    | .ok dhcp => (.ok, { done with dhcp := dhcp })

def setFixedSubnet : Result × Configs :=
  commitAll env c args (fixedNetwork env c args) (fixedIp c args)

/-! ## `update_custom_subnet` -/

/-- `args.ip`, or else `args.gateway`, or else the address there is. -/
def customIp (network : Text) : Json :=
  presentOr (arg args "ip") (presentOr (arg args "gateway")
    (.str (getSubnetInfo c.network network).ip))

def setCustomAddress (network : Text) : Except Result Package := do
  let ip := customIp c args network
  let netmask := newNetmask c args network
  check (ip.isEmptyText || validateGateway ip) (err (-1) "invalid ip or gateway")
  check (ip.isEmptyText || validateNetmask netmask) (err (-1) "invalid netmask")
  noConflict env c.network ip netmask network
  return if ip.isEmptyText then
      ((c.network.set network "proto" (.text "none")).unset network
        "ipaddr").unset network "netmask"
    else
      ((c.network.set network "proto" (.text "static")).set network
        "ipaddr" (addressValue ip)).set network "netmask" (addressValue netmask)

def rename (p : Package) (network : Text) : Except Result Package :=
  match arg args "display_name" with
  | none => .ok p
  | some name =>
    if Json.truthy (some name) && !sameText (getSubnetInfo c.network network).displayName name then do
      check (!displayNameExists p name (some network)) (err (-19) "display_name conflict")
      let v ← env.optionValue name
      return p.set network "display_name" v
    else .ok p

/-- The checks and the edits of the package `network`. -/
def customNetwork : Except Result (Text × Package) := do
  let network ← (resolveDisplayNameToNetwork c.network (arg args "name")).elim
    (.error (err (-20) "subnet not found")) Except.ok
  check (isCustomName network) (err (-20) "subnet not found")
  check ((arg args "vlan_id").all fun v =>
      env.number v = (vlanIdOf network).map fun n => (n : Rat))
    (err (-1) "changing vlan_id is not supported yet - remove and re-add the subnet")
  let p ← editIf c
    ((arg args "ip").isSome || (arg args "gateway").isSome || (arg args "netmask").isSome)
    (setCustomAddress env c args network)
  let p ← rename env c args p network
  return (network, setEnabled args p network)

def updateCustomSubnet : Result × Configs :=
  commitAll env c args (customNetwork env c args) (customIp c args)

/-! ## `add_custom_subnet` -/

/-- The address of the new interface, from `args.ip` or `args.gateway`. -/
def addedIp : Option Json :=
  if present (arg args "ip") && Json.truthy (arg args "ip") then arg args "ip"
  else if present (arg args "gateway") && Json.truthy (arg args "gateway") then arg args "gateway"
  else none

/-- `args.ip ~= args.gateway`, for two that are present. -/
def ipAndGatewayDiffer : Bool :=
  match arg args "ip", arg args "gateway" with
  | some (.str a), some (.str b) => a ≠ b
  | some (.num a), some (.num b) => a ≠ b
  | some (.bool a), some (.bool b) => a ≠ b
  | some .null, some .null => false
  | _, _ => true

def addedNetmask : Json := Json.orElse (arg args "netmask") (.str defaultNetmask)

def vlanName (vlanId : Rat) : Text := "vlan".toList ++ env.showNumber vlanId

def checkAddedAddress (network : Text) : Except Result Unit :=
  match addedIp args with
  | none => .ok ()
  | some ip => noConflict env c.network ip (addedNetmask args) network

def addedName (network : Text) : Json :=
  Json.orElse (arg args "display_name") (Json.orElse (arg args "name") (.str network))

def addedRange : Except Result (Rat × Rat) :=
  match arg args "dhcp_enable" with
  | some (.bool false) => .ok (100, 150)
  | _ => do
    let range ← (parseDhcpRangeParams env args ((addedIp args).getD (.str [])) (addedNetmask args)).mapError
      (.err (-15) ·)
    return range.getD (100, 150)

def addDevices (network id : Text) : Package :=
  let device := network ++ "_dev".toList
  let bridge := network ++ "_br".toList
  let p := (c.network.setType device "device").setAll device
    [("name", .text ("eth1.".toList ++ id)), ("type", .text "8021q"),
      ("ifname", .text "eth1"), ("vid", .text id)]
  (p.setType bridge "device").setAll bridge
    [("name", .text ("br-vlan".toList ++ id)), ("type", .text "bridge"),
      ("ports", .list ["eth1.".toList ++ id])]

def addAddress (p : Package) (network : Text) : Package :=
  match addedIp args with
  | some ip => ((p.set network "proto" (.text "static")).set network
      "ipaddr" (addressValue ip)).set network "netmask"
      (addressValue (addedNetmask args))
  | none => p.set network "proto" (.text "none")

def addInterface (network id : Text) : Package :=
  addAddress args (((addDevices c network id).setType network "interface").set network
    "device" (.text ("br-vlan".toList ++ id))) network

/-- The package `network` with the new subnet. -/
def addSections (vlanId : Rat) (displayName : Value) : Package :=
  let network := vlanName env vlanId
  let p := (addInterface c args network (env.showNumber vlanId)).set network "display_name"
    displayName
  match arg args "enabled" with
  | some (.bool false) => p.set network "disabled" (.text ['1'])
  | _ => p

/-- The new subnet: its interface, its pool and the package `network`. -/
structure Added where
  network : Text
  range : Rat × Rat
  package : Package

/-- The checks and the edits of the package `network`. -/
def addedNetwork : Except Result Added := do
  check ((getAllCustomNetworks c.network).length < 16) (err (-18) "max 16 custom subnets")
  let vlanId ← (((arg args "vlan_id").bind env.number).filter checkVlanIdRange).elim
    (.error (err (-12) "vlan_id must be 9-4000")) Except.ok
  check (!checkVlanIdConflict env c.network vlanId) (err (-13) "vlan_id conflict")
  check (!(present (arg args "ip") && present (arg args "gateway") && ipAndGatewayDiffer args))
    (err (-1) "ip and gateway conflict for interface address")
  check ((addedIp args).all validateGateway) (err (-1) "invalid ip or gateway")
  check ((addedIp args).isSome || (arg args "dhcp_enable").bind Json.asBool ≠ some true)
    (err (-15) "DHCP requires interface IP (gateway)")
  check ((addedIp args).isNone || validateNetmask (addedNetmask args)) (err (-1) "invalid netmask")
  let network := vlanName env vlanId
  checkAddedAddress env c args network
  let displayName := addedName args network
  check ((env.asString displayName).length ≤ 32)
    (err (-1) "display_name length must be less than 32")
  check (!displayNameExists c.network displayName none) (err (-19) "display_name conflict")
  let range ← addedRange env args
  let v ← env.optionValue displayName
  return ⟨network, range, addSections env c args vlanId v⟩

/-- `has_l3 and (args.dhcp_enable ~= false) or false`. -/
def addedDhcpEnable : Bool :=
  (addedIp args).isSome && (arg args "dhcp_enable").bind Json.asBool ≠ some false

/-- The package `dhcp` of the new subnet. -/
def addDhcp (a : Added) : Except Result Package :=
  (setDhcpConfig env c.dhcp a.network
    { dhcpEnable := some (.bool (addedDhcpEnable args))
      range := some a.range
      leasetime := some ((normalizeLeasetime env (arg args "leasetime")).getD "12h")
      dns := arg args "dns"
      lpr := arg args "lpr" }).mapError (.err (-1) ·)

def addCustomSubnet : Result × Configs :=
  match addedNetwork env c args with
  | .error e => (e, c)
  | .ok a =>
    match addDhcp env c args a with
    | .error e => (e, { c with network := a.package })
    | .ok dhcp =>
      (.ok,
        { network := a.package
          dhcp := dhcp
          firewall := setWanAccessMode c.firewall a.network
            (((arg args "wan_access_mode").bind env.number).getD 0)
          wireless :=
            if (isolateReq args).bind Json.asBool = some true then
              setIsolateState c.wireless a.network true
            else c.wireless })

/-! ## `remove_custom_subnet` -/

def removeCustomSubnet : Result × Configs :=
  if Json.truthy (arg args "name") then
    match resolveDisplayNameToNetwork c.network (arg args "name") with
    | none => (err (-20) "subnet not found", c)
    | some network =>
      if isFixedSubnet network then (err (-17) "fixed subnet cannot be deleted", c)
      else
        let vlan := "vlan".toList ++ ((vlanIdOf network).map fun n => env.showNumber n).getD []
        (.ok,
          { c with
            network := ((c.network.delete network).delete (vlan ++ "_br".toList)).delete
              (vlan ++ "_dev".toList)
            dhcp := c.dhcp.delete network
            firewall := (c.firewall.delete (forwardingId network)).delete (blockId network) })
  else (err (-1) "name required", c)

/-! ## Sequences of calls -/

inductive Method
  | setFixedSubnet
  | addCustomSubnet
  | updateCustomSubnet
  | removeCustomSubnet
  deriving DecidableEq

structure Call where
  method : Method
  args : Json
  env : Env

def Call.run (call : Call) (c : Configs) : Result × Configs :=
  match call.method with
  | .setFixedSubnet => setFixedSubnet call.env c call.args
  | .addCustomSubnet => addCustomSubnet call.env c call.args
  | .updateCustomSubnet => updateCustomSubnet call.env c call.args
  | .removeCustomSubnet => removeCustomSubnet call.env c call.args

end GlXe3000.Oui.Subnet
