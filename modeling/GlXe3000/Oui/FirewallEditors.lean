import GlXe3000.Lib.Lua

/-! # The editors of `firewall.lua`

Port forwards, custom rules and ACL rules are sections of one package, and each of the three lists
picks its own by a type and a tag. The methods that change or delete a section look at neither. -/

namespace GlXe3000.Oui.Editors
open Text

inductive Feature
  | portForward
  | customRule
  | aclRule

/-- What an argument is stored as: itself, its text, or `1` or `0`. -/
inductive Kind
  | plain
  | text
  | flag

namespace Feature

/-- The list method of the feature has the section. -/
def owns (f : Feature) (e : Text × Section) : Bool :=
  match f with
  | portForward =>
    e.2.type = "redirect" && e.2.options "target" = some (.text "DNAT") && e.1 ≠ "gl_dmz".toList
  | customRule => e.2.type = "rule" && e.2.options "gl_custom" = some (.text "1")
  | aclRule => e.2.type = "rule" && e.2.options "gl_acl" = some (.text "1")

/-- The ids of `get_port_forward_list`, `get_rule_list` and `get_acl_rule_list`. -/
def list (f : Feature) (p : Package) : List Text := (p.sections.filter f.owns).map Prod.fst

/-- The arguments of `set_port_forward`, `set_rule` and `edit_acl_rule`. -/
def arguments : Feature → List (String × Kind)
  | portForward => [("name", .plain), ("proto", .plain), ("src_dport", .text),
      ("dest_ip", .plain), ("dest_port", .text), ("enabled", .flag)]
  | customRule => [("name", .plain), ("src", .plain), ("dest", .plain), ("proto", .plain),
      ("dest_port", .text), ("target", .plain), ("enabled", .flag)]
  | aclRule => [("name", .plain), ("src", .plain), ("dest", .plain), ("proto", .plain),
      ("target", .plain)]

end Feature

section
variable (lua : Lua) (f : Feature) (p : Package) (id : Text)

def Kind.value (k : Kind) (v : Json) : Except Result (Option Value) :=
  match k with
  | plain => if Json.truthy (some v) then (lua.optionValue v).map some else .ok none
  | text => .ok (if Json.truthy (some v) then some (.text (lua.asString v)) else none)
  | flag => .ok (some (.text (if Json.truthy (some v) then "1" else "0")))

/-- The options an edit writes, or the error of a value that cannot be stored. -/
def changes (args : Json) : Except Result (List (String × Value)) := do
  let options ← f.arguments.mapM fun a =>
    match arg args a.1 with
    | none => .ok none
    | some v => (a.2.value lua v).map fun w => w.map fun w => (a.1, w)
  return options.filterMap fun o => o

/-- An edit, or `remove_port_forward`, `remove_rule` and `delete_acl_rule`. -/
inductive Call
  | set (args : Json)
  | remove

/-- What a call with an id is told, and the package after it. -/
def Call.answer (call : Call) : Result × Package :=
  match call with
  | set args =>
    if p.typeOf id = none then (err 1 "unknown id", p)
    else
      match changes lua f args with
      | .error _ => (.raised, p)
      | .ok options => (.ok, p.setAll id options)
  | remove => (.ok, p.delete id)

end

variable {lua : Lua} {f : Feature} {p : Package} {id : Text} {call : Call}

/-- A rule of the system, with neither tag. -/
def pingRule : Package := Package.empty.newSection "cfg01" "rule" [("name", .text "Allow-Ping")]

end GlXe3000.Oui.Editors
