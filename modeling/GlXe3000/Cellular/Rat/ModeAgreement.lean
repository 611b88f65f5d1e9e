import GlXe3000.Lib.Machine
import GlXe3000.Cellular.Rat.Rpc

/-! # The network mode the user asked for

The RPCs tell the modem, and `set_sim_config` stores a `network_type`; the dial that follows runs
`gl-cellular-rat apply`, which knows `gl-cellular.rat.mode_pref` only. None of the RPCs writes that
option and a mode asked for as `network_mode` is not stored at all, so the dial puts the modem back
on the configured preference and `get_sim_config` goes on reporting `network.wwan.modes`. -/

namespace GlXe3000.Cellular.Rat
open Text

inductive Op
  | sim (d : SimConfig)
  | tower (a : Tower)
  deriving DecidableEq

def Op.script : Op → Script (Option Text)
  | .sim d => setSimConfig d
  | .tower a => setCellTower a

/-- A mode in the modem's vocabulary and in that of `get_sim_config`. -/
structure Ask where
  pref : Text
  mode : Text
  deriving DecidableEq

def unlockMode (modes : Text) : Text :=
  let mode := upper (orDefault modes "auto")
  if mode = "LTE" ∨ mode = "NR5G" then mode else "AUTO"

def Op.asks : Op → World → Option Ask
  | .sim d, _ => d.networkMode.bind fun m => (modePrefs (upper m)).map fun pref => ⟨pref, upper m⟩
  | .tower a, w =>
    if !a.lock then some ⟨unlockPref w.modes, unlockMode w.modes⟩
    else if upper a.networkType = "LTE" then some ⟨"LTE:NR5G", "LTE"⟩
    else if upper a.networkType = "NR5G" then some ⟨"NR5G:LTE", "NR5G"⟩
    else none

def answers (air : Nat → Air) (i : Nat) : (a : Act) → World → Answer a × World :=
  World.answer (air i)

structure Session where
  world : World
  asked : Option Ask := none

def Session.step (s : Session) (e : Op × (Nat → Air)) : Session :=
  let r := e.1.script.exec (answers e.2) 0 s.world
  { world := r.2.2
    asked := if r.1.isNone then (e.1.asks s.world).or s.asked else s.asked }

def machine : Machine Session (Op × (Nat → Air)) := ⟨Session.step⟩

/-- `gl-cellular-rat apply`, as the qcm proto runs it before every dial. -/
def dial (air : Nat → Air) (w : World) : World :=
  ((unlessFlashing cmdApply).exec (answers air) 0 w).2.2

/-- What `gl-cellular.rat` asks for. -/
def World.configured (w : World) : Text := orDefault w.modePref "AUTO"

/-- The dial's script gets to the modem: no flash is going on, the configured preference is one the
script knows, and the modem executes the command. -/
def Reaches (air : Nat → Air) (w : World) : Prop :=
  (air 0).flashing = false ∧ validPref w.configured = true ∧ (air 4).done = true

instance (air : Nat → Air) (w : World) : Decidable (Reaches air w) := by
  unfold Reaches; infer_instance

theorem answer_modePref (e : Air) (a : Act) (w : World) :
    (w.answer e a).2.modePref = w.modePref := by
  cases a <;> rfl

/-- `network.wwan.modes` is written. -/
def Act.writesModes : Act → Prop
  | .setModes _ => True
  | _ => False

theorem answer_modes (e : Air) (a : Act) (w : World) (h : ¬a.writesModes) :
    (w.answer e a).2.modes = w.modes := by
  cases a with
  | setModes v => exact absurd trivial h
  | _ => rfl

/-! ## What the scripts leave on the modem -/

section
variable {air : Nat → Air} {w : World} {i : Nat}

theorem set_modePref (want : Text) :
    ((set (.modePref want)).exec (answers air) i w).2.2.modem.modePref =
      if (air i).done = true then want else w.modem.modePref := by
  simp only [set, Proc.exec_perform, answers, World.answer]
  split <;> rfl

theorem pairNr5g_modePref (want : Text) :
    ((pairNr5g want).exec (answers air) i w).2.2.modem.modePref = w.modem.modePref := by
  have hset : ∀ n, ((set (.nr5gDisableMode n)).exec (answers air) i w).2.2.modem.modePref =
      w.modem.modePref := by
    intro n
    simp only [set, Proc.exec_perform, answers, World.answer]
    split <;> rfl
  unfold pairNr5g
  split
  · exact hset 0
  · split
    · exact hset 1
    · rfl

theorem currentPref_eq {want : Text} (h : (currentPref.exec (answers air) i w).1 = want)
    (hv : validPref want = true) : w.modem.modePref = want := by
  simp only [currentPref, Proc.exec_perform, answers, World.answer] at h
  split at h
  · exact h
  · subst h; simp [validPref] at hv

/-- The command is sent unless the modem says it is there already, so whether the query is heard
makes no difference. -/
theorem setPref_modePref (want : Text) :
    ((setPref want).exec (answers air) i w).2.2.modem.modePref =
      if validPref want = true ∧ (air (i + 1)).done = true then want else w.modem.modePref := by
  unfold setPref
  split
  · next hv =>
    rw [Proc.exec_bind]
    split
    · next hhave =>
      have hmode : w.modem.modePref = want := currentPref_eq hhave hv
      simp [currentPref, answers, World.answer, hmode]
    · rw [Proc.exec_bind]
      have hset : ((set (.modePref want)).exec (answers air) (i + 1) w).2.2.modem.modePref =
          if (air (i + 1)).done = true then want else w.modem.modePref := set_modePref want
      simp only [hv, true_and]
      rw [← hset]
      split
      · rw [Proc.exec_bind]
        exact pairNr5g_modePref want
      · rfl
  · next hv => simp [hv]

theorem setConfigured_modePref :
    (setConfigured.exec (answers air) i w).2.2.modem.modePref =
      if validPref w.configured = true ∧ (air (i + 2)).done = true then w.configured
      else w.modem.modePref := by
  unfold setConfigured
  rw [Proc.exec_bind]
  exact setPref_modePref _

theorem dial_modePref (h : w.state = none) :
    (dial air w).modem.modePref = if Reaches air w then w.configured else w.modem.modePref := by
  unfold dial unlessFlashing
  rw [Proc.exec_bind]
  split
  · next hf =>
    have hair : (air 0).flashing = true := hf
    simp [Reaches, hair, flashing, answers, World.answer]
  · next hf =>
    have hair : (air 0).flashing = false := eq_false_of_ne_true hf
    have happly : cmdApply.exec (answers air) 1 w = setConfigured.exec (answers air) 2 w := by
      simp [cmdApply, answers, World.answer, h]
    change (cmdApply.exec (answers air) 1 w).2.2.modem.modePref = _
    simp only [happly, setConfigured_modePref, Reaches, hair, true_and]

theorem dial_modes : (dial air w).modes = w.modes := by
  have hcovered : Proc.Covered Act.writesModes (fun _ _ => False) (unlessFlashing cmdApply)
      fun _ => True := covered_apply id (fun _ => id) id id id
  exact hcovered.exec_invariant (P := fun v : World => v.modes = w.modes)
    (fun i a v ha hv => (answer_modes _ a v ha).trans hv) rfl

end

theorem run_configured (s : Session) (ops : List (Op × (Nat → Air))) :
    (machine.run s ops).world.configured = s.world.configured := by
  have hstep : ∀ t e, (machine.step t e).world.modePref = t.world.modePref := by
    intro t e
    exact Proc.exec_invariant (P := fun w : World => w.modePref = t.world.modePref)
      (fun i a w hw => (answer_modePref _ a w).trans hw) _ rfl
  have hrun : (machine.run s ops).world.modePref = s.world.modePref := by
    induction ops generalizing s with
    | nil => rfl
    | cons e ops ih => rw [Machine.run_cons, ih, hstep]
  simp only [World.configured, hrun]

/-- After a dial with no fallback in force, the modem and `get_sim_config` agree with what was asked
for last exactly where the configured preference does, or the dial leaves the modem alone and it is
there already, and `network.wwan.modes` names the mode. -/
theorem dial_keeps_asked_mode_iff (s : Session) (ops : List (Op × (Nat → Air))) (air : Nat → Air)
    (hstate : (machine.run s ops).world.state = none) :
    ∀ a ∈ (machine.run s ops).asked, ((dial air (machine.run s ops).world).modem.modePref = a.pref ∧
      (dial air (machine.run s ops).world).networkMode = a.mode) ↔
    (if Reaches air (machine.run s ops).world then s.world.configured = a.pref
      else (machine.run s ops).world.modem.modePref = a.pref) ∧
      (machine.run s ops).world.networkMode = a.mode := by
  intro a _
  have hmode : (dial air (machine.run s ops).world).networkMode =
      (machine.run s ops).world.networkMode := by
    simp only [World.networkMode, dial_modes]
  rw [hmode, dial_modePref hstate, run_configured]
  refine and_congr_left fun _ => ?_
  split <;> exact .rfl

def factory : World :=
  { modem := { modePref := "AUTO", nr5gDisableMode := 0, lock4g := none, lock5g := none } }

/-- AUTO is what the defaults say, and stays. -/
theorem auto_kept_by_dial :
    (dial (fun _ => {}) (machine.run ⟨factory, none⟩
        [(.sim { networkMode := some "auto" }, fun _ => {})]).world).modem.modePref =
      "AUTO" ∧
    (dial (fun _ => {}) (machine.run ⟨factory, none⟩
        [(.sim { networkMode := some "auto" }, fun _ => {})]).world).networkMode =
      "AUTO" :=
  (dial_keeps_asked_mode_iff ⟨factory, none⟩
    [(.sim { networkMode := some "auto" }, fun _ => {})] (fun _ => {}) rfl
    ⟨"AUTO", "AUTO"⟩ (by decide)).2 (by decide)

/-- A request for LTE is accepted and the modem switches; the dial puts it back on AUTO, and AUTO is
what `get_sim_config` reported all along. -/
theorem lte_lost_on_dial :
    let s := machine.run ⟨factory, none⟩ [(.sim { networkMode := some "LTE" }, fun _ => {})]
    s.world.state = none ∧ s.asked = some ⟨"LTE", "LTE"⟩ ∧
      s.world.modem.modePref = "LTE" ∧ s.world.networkMode = "AUTO" ∧
      (dial (fun _ => {}) s.world).modem.modePref = "AUTO" ∧
      (dial (fun _ => {}) s.world).networkMode = "AUTO" := by
  decide

end GlXe3000.Cellular.Rat
