import GlXe3000.Lib.Machine
import GlXe3000.Portal.Detector

/-! # Updates of the state file

The detector and the methods change the file in the same way: they read it, write some fields over
what they have read, and replace it. If the other party replaces the file in between, its update is
lost. -/

namespace GlXe3000.Portal.Shared
open Portal

/-! ## The two parties at once -/

structure Update where
  party : Party
  fields : Table
  deriving DecidableEq

def Update.apply (file : StateFile) (u : Update) : StateFile :=
  .table ((file.load u.party).update u.fields)

structure State where
  world : World
  detector : Script Outcome
  rpc : Script Unit
  reading : Party → Option Table
  updates : List Update

inductive Event
  | wake
  | restart
  | detector (e : Env)
  | call (c : Call)
  | rpc (e : Env)

def nextReading (reading : Option Table) : (a : Action) → a.Answer → Option Table
  | .readState _, base => some base
  | .writeState _ _ _, _ => none
  | _, _ => reading

def written : Action → List Update
  | .writeState p _ fields => [⟨p, fields⟩]
  | _ => []

def State.note (s : State) (p : Party) (e : Env) (a : Action) : State :=
  { s with
    world := (answer e a s.world).2
    reading := Function.update s.reading p (nextReading (s.reading p) a (answer e a s.world).1)
    updates := s.updates ++ written a }

def State.step (s : State) : Event → State
  | .wake => if s.detector.isDone then { s with detector := tick } else s
  | .restart => { s with detector := tick, reading := Function.update s.reading .detector none }
  | .call c => if s.rpc.isDone then { s with rpc := c.script } else s
  | .detector e =>
    match s.detector with
    | .ret _ => s
    | .act a k => { s.note .detector e a with detector := k (answer e a s.world).1 }
  | .rpc e =>
    match s.rpc with
    | .ret _ => s
    | .act a k => { s.note .rpc e a with rpc := k (answer e a s.world).1 }

def machine : Machine State Event := ⟨State.step⟩

/-! ## Scripts without certain actions -/

abbrev Free {α : Type} (uses : Action → Prop) (m : Script α) : Prop :=
  m.Covered uses (fun _ _ => False) fun _ => True

structure SparesIncludes (uses : Action → Prop) : Prop where
  confdir : ¬uses .confdir
  read : ∀ f, ¬uses (.readInclude f)
  write : ∀ f content, ¬uses (.writeInclude f content)
  remove : ∀ f, ¬uses (.removeInclude f)

section
variable {α β : Type} {uses : Action → Prop}

theorem Free.bind {f : α → Script β} (hm : Free uses m) (hf : ∀ x, Free uses (f x)) :
    Free uses (m >>= f) :=
  Proc.Covered.bind hm fun x _ => hf x

theorem free_perform (h : ¬uses a) : Free uses (perform a) := Proc.Covered.of_not_use h

theorem Free.onlyIf (h : Free uses m) : Free uses (onlyIf c m) := by
  cases c with
  | false => trivial
  | true => exact h

namespace SparesIncludes
variable {f : Include}

theorem writeInclude (h : SparesIncludes uses) : Free uses (writeInclude f content) :=
  (free_perform (h.read f)).bind fun _ => (free_perform (h.write f content)).onlyIf

theorem removeInclude (h : SparesIncludes uses) : Free uses (removeInclude f) :=
  (free_perform (h.read f)).bind fun _ => (free_perform (h.remove f)).onlyIf

theorem setInclude (h : SparesIncludes uses) : Free uses (setInclude f content) := by
  refine (free_perform h.confdir).bind fun _ => Free.onlyIf ?_
  cases content with
  | none => exact h.removeInclude
  | some content => exact h.writeInclude

theorem setPortalDns (h : SparesIncludes uses) : Free uses (setPortalDns dns) := by
  refine (free_perform h.confdir).bind fun _ => Free.onlyIf ?_
  cases overrideContent dns with
  | none => trivial
  | some content => exact h.writeInclude

end SparesIncludes

theorem free_isEngaged (h : ¬uses (.loadState .detector)) : Free uses (isEngaged s) := by
  unfold isEngaged
  split
  · trivial
  · exact (free_perform h).bind fun _ => trivial

theorem free_outcome (h : ¬uses (.loadState .detector)) : Free uses (outcome s detected) := by
  unfold outcome
  split
  · trivial
  · exact (free_perform h).bind fun _ => trivial

end

/-! ## The protocol of an update -/

def mayUpdate (p : Party) (reading : Option Table) : Action → Prop
  | .readState q => q = p ∧ reading = none
  | .writeState q base _ => q = p ∧ reading = some base
  | _ => True

def Pairs {α : Type} (p : Party) (reading : Option Table) (m : Script α) : Prop :=
  m.Obeys (mayUpdate p) nextReading reading fun reading _ => reading = none

def isUpdate : Action → Prop
  | .readState _ | .writeState _ _ _ => True
  | _ => False

theorem includes_apart : SparesIncludes isUpdate := ⟨id, fun _ => id, fun _ _ => id, fun _ => id⟩

section
variable {α β : Type} {p : Party} {m : Script α} {f : α → Script β}

theorem pairs_of_free (h : Free isUpdate m) : Pairs p none m := by
  have hobeys : m.Obeys (mayUpdate p) nextReading none fun reading _ => reading = none ∧ True := by
    refine Proc.Obeys.of_covered h fun a ha => ?_
    cases a with
    | readState q => exact absurd trivial ha
    | writeState q base fields => exact absurd trivial ha
    | _ => exact ⟨trivial, fun _ => rfl⟩
  exact hobeys.mono fun _ _ h => h.1

theorem Pairs.bind (hm : Pairs p none m) (hf : ∀ x, Pairs p none (f x)) :
    Pairs p none (m >>= f) := by
  refine Proc.Obeys.bind hm fun reading x h => ?_
  subst h
  exact hf x

theorem pairs_perform (h : ¬isUpdate a) : Pairs p none (perform a) :=
  pairs_of_free (free_perform h)

theorem pairs_onlyIf {c : Bool} {m : Script Unit} (h : Pairs p none m) :
    Pairs p none (onlyIf c m) := by
  cases c with
  | false => rfl
  | true => exact h

end

/-! ## The scripts -/

section
variable {p : Party}

theorem pairs_updateState : Pairs p none (updateState p fields) :=
  ⟨⟨rfl, rfl⟩, fun _ => ⟨trivial, fun _ => ⟨⟨rfl, rfl⟩, fun _ => rfl⟩⟩⟩

theorem pairs_setInclude : Pairs p none (setInclude f content) :=
  pairs_of_free includes_apart.setInclude

theorem free_addRules : Free isUpdate (addRules targets) := by
  induction targets with
  | nil => trivial
  | cons target targets ih => exact (free_perform id).bind fun _ => ih

theorem free_clearPortalRoutes : Free isUpdate clearPortalRoutes :=
  (free_perform id).bind fun _ => free_perform id

theorem free_setPortalRoutes : Free isUpdate (setPortalRoutes dns) := by
  refine (free_perform id).bind fun _ => Free.onlyIf ?_
  exact free_clearPortalRoutes.bind fun _ => free_addRules.bind fun _ => free_perform id

theorem pairs_clearAll (h : Pairs p none m) : Pairs p none (do
    restorePortalDns
    clearPortalRebind
    clearPortalForward
    clearPortalRoutes
    m) :=
  pairs_setInclude.bind fun _ => pairs_setInclude.bind fun _ => pairs_setInclude.bind fun _ =>
    (pairs_of_free free_clearPortalRoutes).bind fun _ => h

theorem pairs_passPortal : Pairs .detector none passPortal :=
  (pairs_perform id).bind fun _ => pairs_clearAll
    ((pairs_onlyIf pairs_updateState).bind fun _ => pairs_updateState)

theorem pairs_losePortal : Pairs .detector none losePortal :=
  (pairs_perform id).bind fun _ => pairs_clearAll
    ((pairs_onlyIf pairs_updateState).bind fun _ => pairs_updateState)

theorem pairs_missPortal : Pairs .detector none (missPortal lastError) :=
  pairs_setInclude.bind fun _ => pairs_setInclude.bind fun _ =>
    (pairs_of_free free_clearPortalRoutes).bind fun _ => pairs_updateState

theorem pairs_meetPortal : Pairs .detector none (meetPortal s url) := by
  have hengage : Pairs .detector none (engage s) :=
    (pairs_of_free (free_isEngaged id)).bind fun _ =>
      (pairs_of_free includes_apart.setPortalDns.onlyIf).bind fun _ => pairs_onlyIf pairs_updateState
  exact pairs_setInclude.bind fun _ => pairs_setInclude.bind fun _ =>
    (pairs_of_free free_setPortalRoutes).bind fun _ => hengage.bind fun _ => pairs_updateState

theorem pairs_tryProbes : Pairs .detector none (tryProbes s device ps lastError) := by
  induction ps generalizing lastError with
  | nil => exact pairs_missPortal.bind fun _ => rfl
  | cons probe rest ih =>
    refine (pairs_perform id).bind fun response => ?_
    split
    · exact pairs_passPortal.bind fun _ => rfl
    · exact pairs_meetPortal.bind fun _ => rfl
    · exact ih

theorem pairs_tick : Pairs .detector none tick := by
  refine (pairs_perform id).bind fun settings => ?_
  cases uplinkOf settings with
  | none => exact pairs_losePortal.bind fun _ => rfl
  | some uplink =>
    refine Pairs.bind ?_ fun _ => pairs_of_free (free_outcome id)
    exact pairs_updateState.bind fun _ => pairs_tryProbes

theorem free_closeDns : Free isUpdate closeDns := by
  refine (free_perform id).bind fun _ => Free.onlyIf ?_
  exact (free_perform id).bind fun _ => includes_apart.removeInclude

theorem free_openDns : Free isUpdate (openDns dns) := by
  refine (free_perform id).bind fun _ => Free.onlyIf ?_
  cases overrideContent dns with
  | none => trivial
  | some content =>
    have hroutes : Free isUpdate (setRoutes dns) := (free_perform id).bind fun _ => free_addRules
    exact hroutes.bind fun _ => includes_apart.writeInclude

theorem pairs_call (c : Call) : Pairs .rpc none c.script := by
  cases c with
  | enterBareMode =>
    exact (pairs_perform id).bind fun _ => (pairs_of_free free_openDns).bind fun _ => pairs_updateState
  | exitBareMode => exact (pairs_of_free free_closeDns).bind fun _ => pairs_updateState
  | disconnect | applyConfig => exact pairs_of_free free_closeDns

end

/-! ## One update at a time -/

def other : Party → Party
  | .detector => .rpc
  | .rpc => .detector

theorem eq_other_of_ne (h : q ≠ p) : q = other p := by
  cases p
  all_goals cases q
  all_goals first | rfl | exact absurd rfl h

theorem other_ne (p : Party) : other p ≠ p := by
  cases p
  all_goals decide

/-- A party begins an update only when the other is not in the middle of one. -/
def OneAtATime (s : State) : Event → Prop
  | .detector _ => ∀ p, s.detector.next = some (.readState p) → s.reading .rpc = none
  | .rpc _ => ∀ p, s.rpc.next = some (.readState p) → s.reading .detector = none
  | .wake | .restart | .call _ => True

structure Current (file : StateFile) (s : State) : Prop where
  read : ∀ p base, s.reading p = some base → base = s.world.state.load p
  alone : ∀ p, s.reading p = none ∨ s.reading (other p) = none
  serial : s.world.state = s.updates.foldl Update.apply file

structure Inv (file : StateFile) (s : State) : Prop where
  detector : Pairs .detector (s.reading .detector) s.detector
  rpc : Pairs .rpc (s.reading .rpc) s.rpc
  current : Current file s

section
variable {file : StateFile} {s : State} {p q : Party} {e : Env} {a : Action} {base fields : Table}

theorem reading_note_self : (s.note p e a).reading p =
    nextReading (s.reading p) a (answer e a s.world).1 := Function.update_self _ _ _

theorem reading_note_of_ne (h : q ≠ p) : (s.note p e a).reading q = s.reading q :=
  Function.update_of_ne h _ _

theorem Current.congr {s' : State} (h : Current file s) (hstate : s'.world.state = s.world.state)
    (hreading : s'.reading = s.reading) (hupdates : s'.updates = s.updates) : Current file s' := by
  refine ⟨?_, ?_, ?_⟩
  · rw [hreading, hstate]
    exact h.read
  · rw [hreading]
    exact h.alone
  · rw [hstate, hupdates]
    exact h.serial

theorem Current.note_of_not_update (h : Current file s) (ha : ¬isUpdate a) :
    Current file (s.note p e a) := by
  have hsame : (s.note p e a).world.state = s.world.state ∧
      (s.note p e a).reading = s.reading ∧ (s.note p e a).updates = s.updates := by
    unfold State.note
    cases a with
    | readState q => exact absurd trivial ha
    | writeState q base fields => exact absurd trivial ha
    | _ => exact ⟨rfl, Function.update_eq_self _ _, List.append_nil _⟩
  obtain ⟨hstate, hreading, hupdates⟩ := hsame
  exact h.congr hstate hreading hupdates

theorem Current.note_readState (h : Current file s) (halone : s.reading (other p) = none) :
    Current file (s.note p e (.readState p)) := by
  have hself : (s.note p e (.readState p)).reading p = some (s.world.state.load p) :=
    Function.update_self _ _ _
  have hother : (s.note p e (.readState p)).reading (other p) = none :=
    (reading_note_of_ne (other_ne p)).trans halone
  have hcases : ∀ q, q = p ∨ q = other p := fun q => (em (q = p)).imp_right eq_other_of_ne
  refine ⟨fun q base hq => ?_, fun q => ?_, ?_⟩
  · obtain rfl | rfl := hcases q
    · exact (Option.some.inj (hself.symm.trans hq)).symm
    · cases hother.symm.trans hq
  · obtain rfl | rfl := hcases q
    · exact .inr hother
    · exact .inl hother
  · change s.world.state = (s.updates ++ []).foldl Update.apply file
    rw [List.append_nil]
    exact h.serial

theorem Current.note_writeState (h : Current file s) (hread : s.reading p = some base) :
    Current file (s.note p e (.writeState p base fields)) := by
  have hself : (s.note p e (.writeState p base fields)).reading p = none := Function.update_self _ _ _
  have hother : (s.note p e (.writeState p base fields)).reading (other p) = none := by
    rw [reading_note_of_ne (other_ne p)]
    refine (h.alone p).resolve_left fun hnone => ?_
    cases hnone.symm.trans hread
  have hnone : ∀ q, (s.note p e (.writeState p base fields)).reading q = none := fun q => by
    obtain rfl | hq := em (q = p)
    · exact hself
    · rw [eq_other_of_ne hq]
      exact hother
  refine ⟨fun q base' hq => ?_, fun q => .inl (hnone q), ?_⟩
  · cases (hnone q).symm.trans hq
  · change StateFile.table (base.update fields) =
      (s.updates ++ [Update.mk p fields]).foldl Update.apply file
    rw [List.foldl_append, ← h.serial, h.read p base hread]
    rfl

theorem Current.note (h : Current file s) (hmay : mayUpdate p (s.reading p) a)
    (hbegin : ∀ q, a = .readState q → s.reading (other p) = none) :
    Current file (s.note p e a) := by
  cases a with
  | readState q =>
    obtain ⟨rfl, -⟩ := hmay
    exact h.note_readState (hbegin q rfl)
  | writeState q base fields =>
    obtain ⟨rfl, hread⟩ := hmay
    exact h.note_writeState hread
  | _ => exact h.note_of_not_update id

theorem reading_of_isDone {α : Type} {m : Script α} (h : Pairs p reading m)
    (hdone : m.isDone = true) : reading = none := by
  cases m with
  | ret x => exact h
  | act a k => cases hdone

theorem step_inv (h : Inv file s) (hone : OneAtATime s ev) : Inv file (machine.step s ev) := by
  obtain ⟨hdetector, hrpc, hcurrent⟩ := h
  cases ev with
  | wake =>
    change Inv file (if s.detector.isDone then { s with detector := tick } else s)
    split
    · next hdone =>
      refine ⟨?_, hrpc, hcurrent.congr rfl rfl rfl⟩
      rw [reading_of_isDone hdetector hdone]
      exact pairs_tick
    · exact ⟨hdetector, hrpc, hcurrent⟩
  | restart =>
    have hself : Function.update s.reading .detector none .detector = none := Function.update_self _ _ _
    have hother : Function.update s.reading .detector none .rpc = s.reading .rpc :=
      Function.update_of_ne (by decide) _ _
    refine ⟨?_, ?_, fun q base hq => ?_, fun q => ?_, hcurrent.serial⟩
    · change Pairs .detector (Function.update s.reading .detector none .detector) tick
      rw [hself]
      exact pairs_tick
    · change Pairs .rpc (Function.update s.reading .detector none .rpc) s.rpc
      rw [hother]
      exact hrpc
    · cases q with
      | detector => cases hself.symm.trans hq
      | rpc => exact hcurrent.read .rpc base (hother.symm.trans hq)
    · cases q with
      | detector => exact .inl hself
      | rpc => exact .inr hself
  | detector e =>
    obtain ⟨w, detector, rpc, reading, updates⟩ := s
    cases detector with
    | ret x => exact ⟨hdetector, hrpc, hcurrent⟩
    | act a k =>
      have hbegin : ∀ q, a = .readState q → reading .rpc = none := fun q ha => hone q (ha ▸ rfl)
      refine ⟨?_, ?_, (hcurrent.note hdetector.1 hbegin).congr rfl rfl rfl⟩
      · have hself := reading_note_self (s := ⟨w, .act a k, rpc, reading, updates⟩) (p := .detector)
          (e := e) (a := a)
        exact hself ▸ hdetector.2 _
      · have hother := reading_note_of_ne (s := ⟨w, .act a k, rpc, reading, updates⟩)
          (p := .detector) (e := e) (a := a) (by decide : Party.rpc ≠ .detector)
        exact hother ▸ hrpc
  | call c =>
    change Inv file (if s.rpc.isDone then { s with rpc := c.script } else s)
    split
    · next hdone =>
      refine ⟨hdetector, ?_, hcurrent.congr rfl rfl rfl⟩
      rw [reading_of_isDone hrpc hdone]
      exact pairs_call c
    · exact ⟨hdetector, hrpc, hcurrent⟩
  | rpc e =>
    obtain ⟨w, detector, rpc, reading, updates⟩ := s
    cases rpc with
    | ret x => exact ⟨hdetector, hrpc, hcurrent⟩
    | act a k =>
      have hbegin : ∀ q, a = .readState q → reading .detector = none := fun q ha => hone q (ha ▸ rfl)
      refine ⟨?_, ?_, (hcurrent.note hrpc.1 hbegin).congr rfl rfl rfl⟩
      · have hother := reading_note_of_ne (s := ⟨w, detector, .act a k, reading, updates⟩)
          (p := .rpc) (e := e) (a := a) (by decide : Party.detector ≠ .rpc)
        exact hother ▸ hdetector
      · have hself := reading_note_self (s := ⟨w, detector, .act a k, reading, updates⟩) (p := .rpc)
          (e := e) (a := a)
        exact hself ▸ hrpc.2 _

end

structure State.Fresh (s : State) : Prop where
  detector : ∃ outcome, s.detector = .ret outcome
  rpc : s.rpc = .ret ()
  reading : ∀ p, s.reading p = none
  updates : s.updates = []

theorem State.Fresh.inv {s : State} (h : s.Fresh) : Inv s.world.state s := by
  obtain ⟨outcome, hdetector⟩ := h.detector
  refine ⟨?_, ?_, fun p base hp => ?_, fun p => .inl (h.reading p), ?_⟩
  · rw [hdetector]
    exact h.reading .detector
  · rw [h.rpc]
    exact h.reading .rpc
  · cases (h.reading p).symm.trans hp
  · rw [h.updates]
    rfl

/-- If no update begins while another is being made, the state file is what the updates give one after
the other, in the order in which they have been written. -/
theorem updates_serial {s : State} {es : List Event} (hs : s.Fresh)
    (hes : machine.Admits OneAtATime s es) :
    (machine.run s es).world.state = (machine.run s es).updates.foldl Update.apply s.world.state :=
  (Machine.invariant (I := Inv s.world.state) (fun _ _ hone h => step_inv h hone) hes
    hs.inv).current.serial

def boot : State where
  world := ⟨true, fun _ => none, [], none, .missing⟩
  detector := .ret ⟨none, 0⟩
  rpc := .ret ()
  reading := fun _ => none
  updates := []

theorem boot_fresh : boot.Fresh := ⟨⟨_, rfl⟩, rfl, fun _ => rfl, rfl⟩

def upEnv (now : Nat) : Env where
  settings := some ⟨some "phy1-sta0", true, ["10.0.3.5"], false⟩
  probe := fun _ _ _ => .error "timeout"
  repeaterDns := ["10.0.3.5"]
  time := now

def beginPass : List Event := [.wake, .detector (upEnv 1), .detector (upEnv 1)]

def finishUpdate : List Event := [.detector (upEnv 2), .detector (upEnv 2)]

def enter : List Event := .call .enterBareMode :: List.replicate 13 (.rpc (upEnv 3))

/-- The user enters bare mode after that. -/
theorem updates_serial_entered :
    let t := machine.run boot (beginPass ++ finishUpdate ++ enter)
    machine.Admits OneAtATime boot (beginPass ++ finishUpdate ++ enter) ∧ t.updates.length = 2 ∧
      (t.world.state.load .detector).bareMode = some true ∧
      t.world.state = t.updates.foldl Update.apply .missing := by
  have hadmits : machine.Admits OneAtATime boot (beginPass ++ finishUpdate ++ enter) :=
    ⟨trivial, fun _ _ => rfl, fun _ _ => rfl, fun _ _ => rfl, fun _ _ => rfl, trivial,
      fun _ _ => rfl, fun _ _ => rfl, fun _ _ => rfl, fun _ _ => rfl, fun _ _ => rfl, fun _ _ => rfl,
      fun _ _ => rfl, fun _ _ => rfl, fun _ _ => rfl, fun _ _ => rfl, fun _ _ => rfl, fun _ _ => rfl,
      fun _ _ => rfl, trivial⟩
  exact ⟨hadmits, by decide, by decide, updates_serial boot_fresh hadmits⟩

def entered : Update where
  party := .rpc
  fields := { bareMode := some true, autoBareMode := some false, updated := some 3 }

def detecting : Update where
  party := .detector
  fields :=
    { detecting := some true, status := some "portal detecting...", lastError := some [],
      updated := some 2 }

/-- The user enters bare mode while the detector is between the two: it is not in bare mode. -/
theorem bare_mode_lost :
    let t := machine.run boot (beginPass ++ enter ++ finishUpdate)
    boot.Fresh ∧ t.updates = [entered, detecting] ∧
      (t.world.state.load .detector).bareMode = some false ∧
      t.world.state ≠ [entered, detecting].foldl Update.apply .missing ∧
      t.world.state ≠ [detecting, entered].foldl Update.apply .missing := by
  refine ⟨boot_fresh, ?_⟩
  decide

end GlXe3000.Portal.Shared
