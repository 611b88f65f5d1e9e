import GlXe3000.Lib.Process
import GlXe3000.Lib.Text

/-! # `gl-cellular-rat` and the RPCs that set the network mode

The preference lives in four places: the modem's `mode_pref`, `gl-cellular.rat.mode_pref`,
`network.wwan.modes` and, while a fallback is in force, `/var/run/gl-cellular-rat.state`. The
scripts are processes over a world with all of them. An AT command that sets something is executed
or not, and its reply comes or not; a reply that comes is true. -/

namespace GlXe3000.Cellular.Rat
open Text

structure Modem where
  modePref : Text
  nr5gDisableMode : Nat
  /-- Frequency and PCI of `AT+QNWLOCK="common/4g"`. -/
  lock4g : Option (Nat × Nat)
  /-- PCI, frequency, SCS and band of `AT+QNWLOCK="common/5g"`. -/
  lock5g : Option (Nat × Nat × Nat × Nat)
  deriving DecidableEq

inductive Setting
  | modePref (pref : Text)
  | nr5gDisableMode (n : Nat)
  | lock4g (lock : Option (Nat × Nat))
  | lock5g (lock : Option (Nat × Nat × Nat × Nat))
  deriving DecidableEq

def Modem.set (m : Modem) : Setting → Modem
  | .modePref pref => { m with modePref := pref }
  | .nr5gDisableMode n => { m with nr5gDisableMode := n }
  | .lock4g lock => { m with lock4g := lock }
  | .lock5g lock => { m with lock5g := lock }

structure World where
  modem : Modem
  /-- `gl-cellular.rat.mode_pref` and `gl-cellular.rat.fallback_pref`. -/
  modePref : Text := []
  fallbackPref : Text := []
  /-- `network.wwan.modes`. -/
  modes : Text := []
  /-- `gl-cellular.state.operator_mode`. -/
  operatorMode : Text := []
  /-- The options of the section `gl-cellular.tower_slot1`, if it is there. -/
  tower : Option (List (Text × Text)) := none
  /-- `/var/run/gl-cellular-rat.state`. -/
  state : Option Text := none
  deriving DecidableEq

inductive Act
  /-- `[ -e /var/run/gl-cellular-flashing ]`. -/
  | flashing
  | query
  | set (c : Setting)
  | ratModePref | ratFallbackPref
  | modes
  | setModes (v : Text)
  | operatorMode
  | tower
  | setTower (v : Option (List (Text × Text)))
  | state
  | setState (v : Option Text)
  deriving DecidableEq

abbrev Answer : Act → Type
  | .flashing | .set _ => Bool
  | .query | .ratModePref | .ratFallbackPref | .modes | .operatorMode => Text
  | .tower => Option (List (Text × Text))
  | .state => Option Text
  | .setModes _ | .setTower _ | .setState _ => Unit

abbrev Script := Proc Act Answer

structure Air where
  flashing : Bool := false
  done : Bool := true
  heard : Bool := true
  deriving DecidableEq

def World.answer (e : Air) : (a : Act) → World → Answer a × World
  | .flashing, w => (e.flashing, w)
  | .query, w => (if e.heard then w.modem.modePref else [], w)
  | .set c, w => (e.done && e.heard, { w with modem := if e.done then w.modem.set c else w.modem })
  | .ratModePref, w => (w.modePref, w)
  | .ratFallbackPref, w => (w.fallbackPref, w)
  | .modes, w => (w.modes, w)
  | .setModes v, w => ((), { w with modes := v })
  | .operatorMode, w => (w.operatorMode, w)
  | .tower, w => (w.tower, w)
  | .setTower v, w => ((), { w with tower := v })
  | .state, w => (w.state, w)
  | .setState v, w => ((), { w with state := v })

def flashing : Script Bool := .perform Act.flashing
def set (c : Setting) : Script Bool := .perform (Act.set c)
def setState (v : Option Text) : Script Unit := .perform (Act.setState v)

/-! ## `gl-cellular-rat` -/

def validPref (pref : Text) : Bool :=
  ["AUTO".toList, "LTE".toList, "LTE:NR5G".toList, "NR5G".toList, "WCDMA".toList].contains pref

def currentPref : Script Text := .perform Act.query

def configuredPref : Script Text := do
  let pref ← .perform Act.ratModePref
  return orDefault pref "AUTO"

/-- `nr5g_disable_mode` is kept in step with the preference. -/
def pairNr5g (want : Text) : Script Unit := do
  if want = "AUTO" ∨ want = "NR5G" then
    let _ ← set (.nr5gDisableMode 0)
    return
  if want = "LTE:NR5G" then
    let _ ← set (.nr5gDisableMode 1)
    return
  return

def setPref (want : Text) : Script Bool := do
  unless validPref want do return false
  let have' ← currentPref
  if have' = want then return true
  unless ← set (.modePref want) do return false
  pairNr5g want
  return true

def setConfigured : Script Bool := do
  let pref ← configuredPref
  setPref pref

def cmdApply : Script Bool := do
  let fb ← .perform Act.state
  if fb.getD [] = [] then setConfigured
  else
    if ← setPref (fb.getD []) then return true
    setConfigured

def cmdRestore : Script Bool := do
  let fb ← .perform Act.state
  if fb.isNone then return true
  setState none
  setConfigured

/-- What the fallback asks for: `fallback_pref` where it names a preference, else LTE. -/
def fallbackWant (option : Text) : Text :=
  let want := orDefault option "LTE"
  if validPref want then want else "LTE"

def cmdFallback : Script Bool := do
  let option ← .perform Act.ratFallbackPref
  let have' ← currentPref
  if have' = fallbackWant option then return true
  setState (some (fallbackWant option))
  setPref (fallbackWant option)

def unlessFlashing (cmd : Script Bool) : Script Bool := do
  if ← flashing then return false
  cmd

/-! ## What the scripts do not touch -/

section
variable {uses : Act → Prop} (hquery : ¬uses .query) (hset : ∀ c, ¬uses (.set c))
include hset

theorem covered_set (c : Setting) : Proc.Covered uses (fun _ _ => False) (set c) fun _ => True :=
  .of_not_use (hset c)

theorem covered_pairNr5g (want : Text) :
    Proc.Covered uses (fun _ _ => False) (pairNr5g want) fun _ => True := by
  unfold pairNr5g
  split
  · exact covered_set hset _
  · split
    · exact covered_set hset _
    · trivial

include hquery

theorem covered_setPref (want : Text) :
    Proc.Covered uses (fun _ _ => False) (setPref want) fun _ => True := by
  simp [setPref, currentPref, set, hquery, hset, covered_pairNr5g hset]

theorem covered_setConfigured (hpref : ¬uses .ratModePref) :
    Proc.Covered uses (fun _ _ => False) setConfigured fun _ => True := by
  simp [setConfigured, configuredPref, hpref, covered_setPref hquery hset]

theorem covered_apply (hflash : ¬uses .flashing) (hstate : ¬uses .state)
    (hpref : ¬uses .ratModePref) :
    Proc.Covered uses (fun _ _ => False) (unlessFlashing cmdApply) fun _ => True := by
  have hconfigured := covered_setConfigured hquery hset hpref
  simp [unlessFlashing, cmdApply, flashing, hflash, hstate, hconfigured,
    covered_setPref hquery hset]

end

end GlXe3000.Cellular.Rat
