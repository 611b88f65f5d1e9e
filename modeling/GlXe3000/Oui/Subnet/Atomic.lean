import GlXe3000.Oui.Subnet.Methods

/-! # What a failed call leaves behind

The arguments for DHCP are checked last, when the other packages are committed. An error about them
leaves those packages changed; every other error comes before the first commit. -/

namespace GlXe3000.Oui.Subnet

def absent (args : Json) (names : List String) : Prop :=
  ∀ name ∈ names, present (arg args name) = false

/-- A pool by its first and last address, in order and above the address of the network. -/
structure AddressPool (args gateway netmask : Json) : Prop where
  only : absent args ["dhcp_start", "dhcp_limit"]
  order : ∃ ip mask first last, ipArg gateway = some ip ∧ ipArg netmask = some mask ∧
    (arg args "dhcp_start_ip").bind ipArg = some first ∧
    (arg args "dhcp_end_ip").bind ipArg = some last ∧ (ip &&& mask) < first ∧ first ≤ last

/-- A pool by the place of its first address and its length. -/
structure OffsetPool (env : Env) (args : Json) : Prop where
  only : absent args ["dhcp_start_ip", "dhcp_end_ip"]
  positive : ∃ start limit, (arg args "dhcp_start").bind env.number = some start ∧
    (arg args "dhcp_limit").bind env.number = some limit ∧ 1 ≤ start ∧ 1 ≤ limit

/-- The pool is not asked for, or the subnet has a private address and it is asked for in one way. -/
def Pool (env : Env) (args gateway netmask : Json) : Prop :=
  absent args ["dhcp_start_ip", "dhcp_end_ip", "dhcp_start", "dhcp_limit"] ∨
    validateGateway gateway = true ∧ (AddressPool args gateway netmask ∨ OffsetPool env args)

namespace Call
variable (call : Call) (c : Configs)

/-- The subnet that a call changes, if there is one with the name that it gives. -/
def network : Option Text :=
  match call.method with
  | .setFixedSubnet => (Json.orElse (arg call.args "display_name")
      ((arg call.args "name").getD .null)).asText.bind fun n => networkMap.lookup n
  | .updateCustomSubnet => resolveDisplayNameToNetwork c.network (arg call.args "name")
  | .addCustomSubnet | .removeCustomSubnet => none

/-- The address that the subnet is to have: that of the arguments, or the one that it has. -/
def gateway (network : Text) : Json :=
  match call.method with
  | .setFixedSubnet => fixedIp c call.args network
  | _ => customIp c call.args network

end Call

section
variable {env : Env} {p : Package} {c : Configs} {args gateway netmask : Json} {network : Text}

end

end GlXe3000.Oui.Subnet
