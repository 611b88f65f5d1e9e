import GlXe3000.Cellular.Rat.ModeAgreement

/-! # The LTE fallback of the watchdog

A fallback in force is a file that `gl-cellular-rat` owns and, in the watchdog, the time it began.
The release timer runs on the latter only, so a file without it is a fallback nothing ends: the
watchdog starts with no such time and does not look at the file. -/

namespace GlXe3000.Cellular.Rat.Fallback
open Text

/-- The options and the variables of `gl-cellular-boot-redial` that concern the fallback. -/
structure Watchdog where
  /-- `LTE_FALLBACK` is 1. -/
  lteFallback : Bool
  after : Int
  hold : Int
  count : Nat := 0
  since : Nat := 0
  deriving DecidableEq

/-- A call of `gl-cellular-rat fallback`: whether it ended with status 0, whether
`lte_fallback_enter` returned 0 after it, and the preference the modem had then. -/
structure Report where
  exit : Bool
  entered : Bool
  mode : Text
  deriving DecidableEq

structure State where
  world : World
  dog : Watchdog
  reports : List Report := []
  deriving DecidableEq

def lteFallbackEnter (air : Nat → Air) (now : Nat) (s : State) : Bool × State :=
  if !s.dog.lteFallback then (false, s)
  else
    let s := { s with dog.count := s.dog.count + 1 }
    if (s.dog.count : Int) < s.dog.after then (false, s)
    else if s.world.state.isSome then (false, s)
    else
      let r := (unlessFlashing cmdFallback).exec (answers air) 0 s.world
      let entered := r.2.2.state.isSome
      let s := { s with
        world := r.2.2
        reports := ⟨r.1, entered, r.2.2.modem.modePref⟩ :: s.reports }
      if entered then (true, { s with dog.since := now }) else (false, s)

def lteFallbackRelease (air : Nat → Air) (now : Nat) (s : State) : State :=
  if !s.dog.lteFallback then s
  else if s.dog.since = 0 then s
  else if s.world.state.isNone then { s with dog.since := 0 }
  else if (now : Int) - s.dog.since < s.dog.hold then s
  else
    { s with
      world := ((unlessFlashing cmdRestore).exec (answers air) 0 s.world).2.2
      dog.since := 0
      dog.count := 0 }

/-- `lte_fallback_enter` gets to the script. -/
def State.runsFallback (s : State) : Bool :=
  s.dog.lteFallback && decide (s.dog.after ≤ s.dog.count + 1) && s.world.state.isNone

/-- `lte_fallback_release` gets to the script. -/
def State.runsRestore (s : State) (now : Nat) : Bool :=
  s.dog.lteFallback && decide (s.dog.since ≠ 0) && s.world.state.isSome &&
    decide (s.dog.hold ≤ (now : Int) - s.dog.since)

inductive Event
  | enter (air : Nat → Air) (now : Nat)
  | release (air : Nat → Air) (now : Nat)
  /-- A tick with traffic: `lte_fallback_count=0`. -/
  | goodTick
  | restart (lteFallback : Bool) (after hold : Int)
  /-- The same in the middle of an entry or a release: the script gets to do `n` actions. -/
  | restartInEnter (n : Nat) (air : Nat → Air) (lteFallback : Bool) (after hold : Int)
  | restartInRelease (n now : Nat) (air : Nat → Air) (lteFallback : Bool) (after hold : Int)
  | dial (air : Nat → Air)
  | ui (op : Op) (air : Nat → Air)
  /-- `gl-cellular.rat` is edited. -/
  | config (modePref fallbackPref : Text)

def State.step (s : State) : Event → State
  | .enter air now => (lteFallbackEnter air now s).2
  | .release air now => lteFallbackRelease air now s
  | .goodTick => { s with dog.count := 0 }
  | .restart lteFallback after hold => { s with dog := { lteFallback, after, hold } }
  | .restartInEnter n air lteFallback after hold =>
    { s with
      world := if s.runsFallback then (unlessFlashing cmdFallback).cut (answers air) n 0 s.world
        else s.world
      dog := { lteFallback, after, hold } }
  | .restartInRelease n now air lteFallback after hold =>
    { s with
      world := if s.runsRestore now then (unlessFlashing cmdRestore).cut (answers air) n 0 s.world
        else s.world
      dog := { lteFallback, after, hold } }
  | .dial air => { s with world := Rat.dial air s.world }
  | .ui op air => { s with world := (op.script.exec (answers air) 0 s.world).2.2 }
  | .config modePref fallbackPref => { s with world := { s.world with modePref, fallbackPref } }

def machine : Machine State Event := ⟨State.step⟩

/-- `/var/run` is empty after a boot. -/
def boot (w : World) (lteFallback : Bool) (after hold : Int) : State :=
  { world := { w with state := none }, dog := { lteFallback, after, hold } }

/-! ## The scripts and the file -/

/-- `/var/run/gl-cellular-rat.state` is written or removed. -/
def writesState : Act → Prop
  | .setState _ => True
  | _ => False

theorem answer_state (e : Air) (a : Act) (w : World) (h : ¬writesState a) :
    (w.answer e a).2.state = w.state := by
  cases a with
  | setState v => exact absurd trivial h
  | _ => rfl

section
variable {air : Nat → Air} {w : World} {i : Nat}

theorem exec_state {α : Type} {m : Script α} {Q : α → Prop}
    (h : m.Covered writesState (fun _ _ => False) Q) :
    (m.exec (answers air) i w).2.2.state = w.state :=
  h.exec_invariant (P := fun v : World => v.state = w.state)
    (fun _ a v ha hv => (answer_state _ a v ha).trans hv) rfl

theorem dial_state : (dial air w).state = w.state :=
  exec_state (covered_apply id (fun _ => id) id id id)

theorem covered_setSimConfig (d : SimConfig) :
    (setSimConfig d).Covered writesState (fun _ _ => False) fun _ => True := by
  have htype : (storeType d.networkType).Covered writesState (fun _ _ => False) fun _ => True := by
    cases d.networkType with
    | none => trivial
    | some t => exact .of_not_use id
  unfold setSimConfig
  refine htype.bind fun _ _ => ?_
  split
  · trivial
  · refine (covered_set (fun _ => id) _).bind fun ok _ => ?_
    split <;> trivial

theorem covered_storeTower (a : Tower) (network : Text) (pci freq : Nat) :
    (storeTower a network pci freq).Covered writesState (fun _ _ => False) fun _ => True := by
  unfold storeTower
  refine Proc.Covered.bind (.of_not_use id) fun old _ => ?_
  exact Proc.Covered.bind (.of_not_use id) fun _ _ => trivial

theorem covered_lockLte (a : Tower) (pci freq : Nat) :
    (lockLte a pci freq).Covered writesState (fun _ _ => False) fun _ => True := by
  unfold lockLte
  refine (covered_set (fun _ => id) _).bind fun _ _ => ?_
  refine (covered_set (fun _ => id) _).bind fun _ _ => ?_
  refine (covered_set (fun _ => id) _).bind fun ok _ => ?_
  split
  · exact covered_storeTower a _ pci freq
  · trivial

theorem covered_lockNr5g (a : Tower) (pci freq scs band : Nat) :
    (lockNr5g a pci freq scs band).Covered writesState (fun _ _ => False) fun _ => True := by
  unfold lockNr5g
  refine (covered_set (fun _ => id) _).bind fun _ _ => ?_
  refine (covered_set (fun _ => id) _).bind fun _ _ => ?_
  refine (covered_set (fun _ => id) _).bind fun ok _ => ?_
  split
  · exact covered_storeTower a _ pci freq
  · trivial

theorem covered_lockTower (a : Tower) :
    (lockTower a).Covered writesState (fun _ _ => False) fun _ => True := by
  unfold lockTower
  refine Proc.Covered.bind (.of_not_use id) fun operator _ => ?_
  dsimp only
  split
  · split
    · split
      · exact covered_lockLte a _ _
      · split
        · split
          · exact covered_lockNr5g a _ _ _ _
          · trivial
        · trivial
    · trivial
  · trivial

theorem covered_unlockTower : unlockTower.Covered writesState (fun _ _ => False) fun _ => True := by
  unfold unlockTower
  refine (covered_set (fun _ => id) _).bind fun four _ => ?_
  refine (covered_set (fun _ => id) _).bind fun five _ => ?_
  split
  · refine Proc.Covered.bind (.of_not_use id) fun _ _ => ?_
    refine Proc.Covered.bind (.of_not_use id) fun modes _ => ?_
    refine (covered_set (fun _ => id) _).bind fun _ _ => ?_
    exact (covered_set (fun _ => id) _).bind fun _ _ => trivial
  · trivial

theorem covered_setCellTower (a : Tower) :
    (setCellTower a).Covered writesState (fun _ _ => False) fun _ => True := by
  unfold setCellTower
  split
  · trivial
  · split
    · exact covered_lockTower a
    · exact covered_unlockTower

theorem ui_state (op : Op) : (op.script.exec (answers air) i w).2.2.state = w.state := by
  cases op with
  | sim d => exact exec_state (covered_setSimConfig d)
  | tower a => exact exec_state (covered_setCellTower a)

theorem validPref_fallbackWant (option : Text) : validPref (fallbackWant option) = true := by
  unfold fallbackWant
  dsimp only
  split
  · assumption
  · decide

/-- The sixth action of the script sets the preference. -/
theorem fallback_modePref (hdone : (air (i + 5)).done = true) (hnone : w.state = none)
    (h : ((unlessFlashing cmdFallback).exec (answers air) i w).1 = true ∨
      ((unlessFlashing cmdFallback).exec (answers air) i w).2.2.state.isSome = true) :
    ((unlessFlashing cmdFallback).exec (answers air) i w).2.2.modem.modePref =
      fallbackWant w.fallbackPref := by
  have hv := validPref_fallbackWant w.fallbackPref
  revert h
  unfold unlessFlashing
  rw [Proc.exec_bind]
  split
  · rintro (h | h)
    · cases h
    · have hstate : w.state.isSome = true := h
      rw [hnone] at hstate
      cases hstate
  · intro _
    unfold cmdFallback
    rw [Proc.exec_bind, Proc.exec_bind]
    split
    · next hhave => exact currentPref_eq hhave hv
    · rw [Proc.exec_bind]
      exact (setPref_modePref _).trans (if_pos ⟨hv, hdone⟩)

theorem restore_state (h : (air i).flashing = false) :
    ((unlessFlashing cmdRestore).exec (answers air) i w).2.2.state = none := by
  unfold unlessFlashing
  rw [Proc.exec_bind]
  split
  · next hf => cases h.symm.trans hf
  · unfold cmdRestore
    rw [Proc.exec_bind]
    split
    · next hnone => exact Option.isNone_iff_eq_none.1 hnone
    · rw [Proc.exec_bind]
      exact exec_state (covered_setConfigured id (fun _ => id) id)

theorem cut_fallback_state (h : n ≤ 3) :
    ((unlessFlashing cmdFallback).cut (answers air) n i w).state = w.state := by
  have hcmd : ∀ n ≤ 2, ∀ i, (cmdFallback.cut (answers air) n i w).state = w.state := by
    intro n hn i
    match n, hn with
    | 0, _ => rfl
    | 1, _ => rfl
    | 2, _ => rfl
  match n, h with
  | 0, _ => rfl
  | n + 1, h =>
    change ((if (air i).flashing then pure false else cmdFallback).cut (answers air) n (i + 1)
      w).state = w.state
    split
    · cases n <;> rfl
    · exact hcmd n (Nat.le_of_succ_le_succ h) _

end

/-! ## Runs -/

/-- A fallback in force has its timer, and success was reported only with the modem on LTE. -/
structure Armed (s : State) : Prop where
  timer : s.world.state.isSome = true → 0 < s.dog.since
  reports : ∀ r ∈ s.reports, r.exit = true ∨ r.entered = true → r.mode = "LTE"

/-- The clock does not stand at zero, LTE is what a fallback asks for and the modem takes the command;
a release that is due does not meet the flash flag; and the watchdog is not restarted while a fallback
is in force, nor in an entry that has come to write the file. -/
def Calm (s : State) : Event → Prop
  | .enter air now => 0 < now ∧ fallbackWant s.world.fallbackPref = "LTE" ∧
    (s.runsFallback = true → (air 5).done = true)
  | .release air now => s.runsRestore now = true → (air 0).flashing = false
  | .restart .. | .restartInRelease .. => s.world.state = none
  | .restartInEnter n .. => s.world.state = none ∧ (s.runsFallback = true → n ≤ 3)
  | _ => True

instance (s : State) : DecidablePred (Calm s) := by
  intro e; cases e <;> unfold Calm <;> infer_instance

theorem Armed.enter {air : Nat → Air} (hs : Armed s)
    (hcalm : Calm s (.enter air now)) : Armed (lteFallbackEnter air now s).2 := by
  obtain ⟨hnow, hwant, hdone⟩ := hcalm
  unfold lteFallbackEnter
  split
  · exact hs
  · dsimp only
    split
    · exact ⟨hs.timer, hs.reports⟩
    · split
      · exact ⟨hs.timer, hs.reports⟩
      · next hon hcount hfile =>
        have hruns : s.runsFallback = true := by
          simp_all [State.runsFallback]
        have hnone : s.world.state = none := by simpa using hfile
        have hmode := fun h => (fallback_modePref (hdone hruns) hnone h).trans hwant
        split
        · exact ⟨fun _ => hnow, List.forall_mem_cons.2 ⟨hmode, hs.reports⟩⟩
        · next hnot => exact ⟨fun h => absurd h hnot, List.forall_mem_cons.2 ⟨hmode, hs.reports⟩⟩

theorem Armed.release {air : Nat → Air} (hs : Armed s)
    (hcalm : Calm s (.release air now)) : Armed (lteFallbackRelease air now s) := by
  unfold lteFallbackRelease
  split
  · exact hs
  · split
    · exact hs
    · split
      · next hnone =>
        refine ⟨fun h => ?_, hs.reports⟩
        rw [Option.isNone_iff_eq_none.1 hnone] at h
        cases h
      · split
        · exact hs
        · next hon hsince hfile hdue =>
          have hruns : s.runsRestore now = true := by
            simp_all [State.runsRestore, Option.isSome_iff_ne_none]
          refine ⟨fun h => ?_, hs.reports⟩
          rw [restore_state (hcalm hruns)] at h
          cases h

theorem Armed.step {s : State} (hcalm : Calm s e) (hs : Armed s) : Armed (s.step e) := by
  -- A restart is harmless where it leaves no file.
  have hnone : ∀ {t : State}, t.world.state = none → t.reports = s.reports → Armed t := by
    intro t hfile hreports
    refine ⟨fun h => ?_, hreports ▸ hs.reports⟩
    rw [hfile] at h
    cases h
  cases e with
  | enter air now => exact hs.enter hcalm
  | release air now => exact hs.release hcalm
  | goodTick => exact ⟨hs.timer, hs.reports⟩
  | restart lteFallback after hold => exact hnone hcalm rfl
  | restartInEnter n air lteFallback after hold =>
    refine hnone ?_ rfl
    dsimp only [State.step]
    split
    · next hruns => exact (cut_fallback_state (hcalm.2 hruns)).trans hcalm.1
    · exact hcalm.1
  | restartInRelease n now air lteFallback after hold =>
    refine hnone ?_ rfl
    dsimp only [State.step]
    split
    · next hruns =>
      have hfile : s.world.state = none := hcalm
      simp [State.runsRestore, hfile] at hruns
    · exact hcalm
  | dial air =>
    have hfile : (s.step (.dial air)).world.state = s.world.state := dial_state
    exact ⟨fun h => hs.timer (hfile ▸ h), hs.reports⟩
  | ui op air =>
    have hfile : (s.step (.ui op air)).world.state = s.world.state := ui_state op
    exact ⟨fun h => hs.timer (hfile ▸ h), hs.reports⟩
  | config modePref fallbackPref => exact ⟨hs.timer, hs.reports⟩

/-- In every run from a boot whose steps are calm, the fallback is not orphaned. -/
theorem fallback_not_orphaned (w : World) (lteFallback : Bool) (after hold : Int)
    (es : List Event) (h : machine.Admits Calm (boot w lteFallback after hold) es) :
    let s := machine.run (boot w lteFallback after hold) es
    (s.world.state.isSome = true → 0 < s.dog.since) ∧
      ∀ r ∈ s.reports, r.exit = true ∨ r.entered = true → r.mode = "LTE" := by
  have hboot : Armed (boot w lteFallback after hold) :=
    ⟨fun h => (by cases h), fun r hr => (by cases hr)⟩
  have harmed := Machine.invariant (fun s e => Armed.step) h hboot
  exact ⟨harmed.timer, harmed.reports⟩

/-- The second failure in a row enters the fallback, and a release before its time keeps it. -/
theorem fallback_armed_until_due :
    let es := [Event.enter (fun _ => {}) 100, .enter (fun _ => {}) 200, .dial fun _ => {},
      .release (fun _ => {}) 300]
    machine.Admits Calm (boot factory true 2 900) es ∧
      (machine.run (boot factory true 2 900) es).world.state.isSome = true ∧
      0 < (machine.run (boot factory true 2 900) es).dog.since :=
  ⟨by decide, by decide, (fallback_not_orphaned factory true 2 900 _ (by decide)).1 (by decide)⟩

/-- A restart of the watchdog in a fallback loses the timer and keeps the file, so no tick with
traffic ends it. And an entry whose command the modem refuses is reported as one all the same. -/
theorem restart_orphans_fallback :
    let es := [Event.enter (fun _ => {}) 100, .enter (fun _ => {}) 200]
    let s := machine.run (boot factory true 2 900) (es ++ [.restart true 2 900])
    let refused := lteFallbackEnter (fun _ => { done := false }) 200
      (machine.run (boot factory true 2 900) [.enter (fun _ => {}) 100])
    (s.world.state = some "LTE" ∧ s.dog.since = 0 ∧
      (machine.run s [.release (fun _ => {}) 100000]).world.state = some "LTE") ∧
    refused.1 = true ∧ refused.2.world.modem.modePref = "AUTO" := by
  decide

end GlXe3000.Cellular.Rat.Fallback
