import GlXe3000.Lib.Text

/-! # Decoded JSON as a Lua script sees it

A script gets its arguments as decoded JSON and asks for their types as it goes. `nil` is the absence
of a value, and not a `Json`; `null` is a value of its own that counts as true and cannot be
indexed. -/

namespace GlXe3000

inductive Json
  | null
  | bool (b : Bool)
  | num (n : Rat)
  | str (t : Text)
  | arr (items : List Json)
  | obj (fields : List (Text × Json))

namespace Json

def isTable : Json → Bool
  | .arr _ | .obj _ => true
  | _ => false

def asText : Json → Option Text
  | .str t => some t
  | _ => none

def asBool : Json → Option Bool
  | .bool b => some b
  | _ => none

/-- `v == ""`. -/
def isEmptyText : Json → Bool
  | .str [] => true
  | _ => false

/-- Indexing by a name. A string may be indexed, and has no such field; what is neither a string nor
a table raises an error. -/
def index (name : Text) : Json → Except Unit (Option Json)
  | .obj fields => .ok (fields.lookup name)
  | .arr _ | .str _ => .ok none
  | _ => .error ()

def field (name : Text) : Json → Option Json
  | .obj fields => fields.lookup name
  | _ => none

def item (i : Nat) : Json → Option Json
  | .arr items => items[i - 1]?
  | _ => none

/-- What `ipairs` visits. -/
def items : Json → List Json
  | .arr items => items
  | _ => []

/-- Only `nil` and `false` count as false. -/
def truthy : Option Json → Bool
  | none | some (.bool false) => false
  | _ => true

/-- `a or b`. -/
def orElse (a : Option Json) (b : Json) : Json :=
  match a with
  | none | some (.bool false) => b
  | some a => a

theorem orElse_of_not_truthy (h : ¬truthy a = true) (b : Json) : orElse a b = b := by
  unfold truthy at h
  split at h
  · rfl
  · rfl
  · exact absurd rfl h

/-- `v == t` for a text `t`. -/
def isText (v : Json) (t : Text) : Bool := v.asText = some t

end Json

structure Lua where
  /-- `tonumber` of a text. -/
  tonumber : Text → Option Rat
  /-- `tostring` of a value that is no text. -/
  tostring : Json → Text

namespace Lua
variable (lua : Lua)

/-- `tonumber`. -/
def number : Json → Option Rat
  | .num n => some n
  | .str t => lua.tonumber t
  | _ => none

/-- `tostring`. -/
def asString : Json → Text
  | .str t => t
  | v => lua.tostring v

/-- What a library function that wants a string makes of a value; `none` is an error. -/
def checkString : Json → Option Text
  | .str t => some t
  | .num n => some (lua.tostring (.num n))
  | _ => none

def showNumber (n : Rat) : Text := lua.tostring (.num n)

/-- A `Lua` that reads and writes whole numbers. -/
def decimal : Lua where
  tonumber t := if Text.isNumber t then some (Text.toNumber t) else none
  tostring
    | .num n => Nat.toDigits 10 n.num.natAbs
    | .bool b => if b then "true" else "false"
    | _ => "table"

end Lua

/-! ## Checks

A method checks its arguments one by one and returns at the first that fails. -/

/-- Goes on if `c` holds, and ends with `e` if not. -/
def check {ε : Type} (c : Bool) (e : ε) : Except ε Unit := if c then .ok () else .error e

section
variable {ε α β : Type}

theorem check_eq_ok : check c e = .ok u ↔ c = true := by
  cases c <;> simp [check]

theorem elim_eq_ok {o : Option α} : o.elim (.error e) Except.ok = .ok a ↔ o = some a := by
  cases o <;> simp

theorem bind_eq_ok {f : α → Except ε β} : (x >>= f) = .ok b ↔ ∃ a, x = .ok a ∧ f a = .ok b := by
  cases x with
  | error e => simp [bind, Except.bind]
  | ok a => simp [bind, Except.bind]

theorem exists_of_mapM_eq_ok {f : α → Except ε β} {l : List α}
    (h : l.mapM f = .ok l') (hb : b ∈ l') : ∃ a ∈ l, f a = .ok b := by
  induction l generalizing l' with
  | nil =>
    cases h
    cases hb
  | cons a l ih =>
    rw [List.mapM_cons] at h
    obtain ⟨b', hb', h⟩ := bind_eq_ok.1 h
    obtain ⟨l'', hl, h⟩ := bind_eq_ok.1 h
    cases h
    obtain rfl | hb := List.mem_cons.1 hb
    · exact ⟨a, List.mem_cons_self, hb'⟩
    · obtain ⟨a', ha, hf⟩ := ih hl hb
      exact ⟨a', List.mem_cons_of_mem _ ha, hf⟩

end
end GlXe3000
