import GlXe3000.Lib.Text

/-! # Modem firmware versions

As `upgrade.lua` reads and compares them: `is_upgrade_valid` matches both against one pattern and
compares the captures as texts. -/

namespace GlXe3000.Cellular.Upgrade
open Text

/-- The captures of `(%w+)R(%d+)A(%d+).+%.(%d+)$`. -/
structure Version where
  model : Text
  release : Text
  major : Text
  build : Text
  deriving DecidableEq

/-- The matches at the start of a text, in the order in which the matcher finds them. -/
def Version.matchesAt (t : Text) : List Version :=
  (runs isAlnum t).flatMap fun (model, t) =>
  (literal 'R' t).flatMap fun t =>
  (runs isDigit t).flatMap fun (release, t) =>
  (literal 'A' t).flatMap fun t =>
  (runs isDigit t).flatMap fun (major, t) =>
  (runs (fun _ => true) t).flatMap fun (_, t) =>
  (literal '.' t).flatMap fun t =>
  (runs isDigit t).filterMap fun (build, t) =>
    if t.isEmpty then some { model, release, major, build } else none

def Version.parse (t : Text) : Option Version := search (fun t => (matchesAt t).head?) t

/-- -1 for another model or branch, 0 for a newer version, 1 for one that is not newer. -/
def isUpgradeValid (cur new : Text) : Int :=
  match Version.parse cur, Version.parse new with
  | some c, some n =>
    if c.model = n.model ∧ c.release = n.release ∧ n.build.head? = c.build.head? then
      if c.major < n.major ∨ (n.major = c.major ∧ c.build < n.build) then 0 else 1
    else -1
  | _, _ => -1

example : isUpgradeValid "RM520NGLAAR03A07M4G_01.203" "RM520NGLAAR03A08M4G_01.205" =
    0 := by decide

end GlXe3000.Cellular.Upgrade
