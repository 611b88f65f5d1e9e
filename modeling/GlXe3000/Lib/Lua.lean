import GlXe3000.Lib.Json
import GlXe3000.Lib.Package

/-! # Methods that edit packages

A method is a Lua function that reads and writes packages through a library. It returns a table, with
a code and a message if it has failed, or an error is raised on the way. -/

namespace GlXe3000

inductive Result
  | ok
  | err (code : Int) (msg : Text)
  | raised
  deriving DecidableEq

def err (code : Int) (msg : String) : Result := .err code msg.toList

def arg (args : Json) (name : String) : Option Json := args.field name.toList

/-- `(v or {}).name`. -/
def fieldOf (v : Option Json) (name : String) : Except Result (Option Json) :=
  ((Json.orElse v (.obj [])).index name.toList).mapError fun _ => .raised

/-- `(v or {})[i]`. -/
def itemOf (v : Option Json) (i : Nat) : Except Result (Option Json) :=
  match Json.orElse v (.obj []) with
  | .arr items => .ok (items[i - 1]?)
  | .obj _ | .str _ => .ok none
  | _ => .error .raised

def Value.toJson : Value → Json
  | .text t => .str t
  | .list ts => .arr (ts.map Json.str)

def optional (name : String) (v : Option Value) : List (String × Value) :=
  (v.map fun v => (name, v)).toList

/-- `v == "1"`. -/
def isOn (v : Option Value) : Bool := v = some (.text ['1'])

/-- `"1"` or `"0"`. -/
def flagValue (b : Bool) : Value := .text (if b then ['1'] else ['0'])

/-- `v and "1" or "0"`. -/
def flag (v : Option Json) : Value := flagValue (Json.truthy v)

theorem isOn_flagValue (b : Bool) : isOn (flagValue b).stored = b := by
  cases b <;> rfl

theorem isOn_flag (v : Option Json) : isOn (flag v).stored = Json.truthy v := isOn_flagValue _

/-- `v == true or v == 1 or v == "1"`. -/
def boolOf : Option Json → Bool
  | some (.bool b) => b
  | some (.num n) => n = 1
  | some (.str t) => t = ['1']
  | _ => false

theorem exists_nat_of_floor {q : Rat} (hpos : 0 ≤ q) (hfloor : q = q.floor) : ∃ n : Nat, q = n := by
  have hnonneg : 0 ≤ q.floor := Rat.le_floor_iff.2 (by simpa using hpos)
  refine ⟨q.floor.toNat, ?_⟩
  rw [← Int.toNat_of_nonneg hnonneg] at hfloor
  exact_mod_cast hfloor

namespace Lua
variable (lua : Lua)

def optionValue (v : Json) : Except Result Value :=
  match v with
  | .arr items =>
    match items.mapM lua.checkString with
    | some (t :: ts) => .ok (.list (t :: ts))
    | _ => .error .raised
  | v =>
    match lua.checkString v with
    | some t => .ok (.text t)
    | none => .error .raised

/-- `tostring(v or "")`. -/
def textOf (v : Option Value) : Text := (v.map fun v => lua.asString v.toJson).getD []

/-- `tonumber(v)`. -/
def numberOf (v : Option Value) : Option Rat := v.bind fun v => lua.number v.toJson

theorem optionValue_texts {ts : List Text} (h : ts ≠ []) :
    lua.optionValue (.arr (ts.map Json.str)) = .ok (.list ts) := by
  have hmap : (ts.map Json.str).mapM lua.checkString = some ts := by
    clear h
    induction ts with
    | nil => rfl
    | cons t ts ih => simp [checkString, ih]
  cases ts with
  | nil => exact absurd rfl h
  | cons t ts => rw [optionValue, hmap]

theorem optionValue_text (harr : ∀ items, v ≠ .arr items)
    (h : lua.optionValue v = .ok w) : ∃ t, w = .text t := by
  unfold optionValue at h
  split at h
  · next items => exact absurd rfl (harr items)
  · split at h
    · next t _ =>
      cases h
      exact ⟨t, rfl⟩
    · cases h

theorem textOf_stored (t : Text) : lua.textOf (Value.text t).stored = t := by
  cases t <;> rfl

end Lua
end GlXe3000
