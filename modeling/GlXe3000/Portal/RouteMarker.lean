import GlXe3000.Portal.StateFile

/-! # The marker of the routing rules

The detector notes the targets of its rules in a marker, so that it need not write them at every pass.
The methods of `repeater.lua` remove and add rules of the same priority, and leave the marker as it
is. -/

namespace GlXe3000.Portal.Shared
open Portal Text

/-! ## Targets and lines -/

theorem not_mem_of_isDottedQuad (h : isDottedQuad t = true) : ' ' ∉ t := by
  intro hmem
  have hall := (Bool.and_eq_true_iff.1 h).2
  obtain hdot | ⟨piece, hpiece, hmem⟩ := mem_pieces (c := '.') hmem
  · cases hdot
  · have hnumber := (Bool.and_eq_true_iff.1 (List.all_eq_true.1 hall piece hpiece)).2
    cases List.all_eq_true.1 hnumber ' ' hmem

theorem not_mem_of_mem_portalTargets (h : t ∈ portalTargets dns) : ' ' ∉ t := by
  obtain h | h := List.mem_append.1 h
  · exact not_mem_of_isDottedQuad (List.mem_filter.1 h).2
  · have hranges : ∀ t ∈ portalRanges, ' ' ∉ t := by decide
    exact hranges t h

theorem pieces_markerLine (dns : List Text) : pieces ' ' (markerLine dns) = portalTargets dns := by
  refine pieces_intercalate (fun hnil => ?_) fun t ht => not_mem_of_mem_portalTargets ht
  cases (List.append_eq_nil_iff.1 hnil).2

theorem mem_addRule : t ∈ addRule rules target ↔ t ∈ rules ∨ t = target := by
  unfold addRule
  split
  · next hmem =>
    refine ⟨.inl, fun h => h.elim id fun heq => ?_⟩
    rw [heq]
    exact hmem
  · rw [List.mem_append, List.mem_singleton]

theorem mem_foldl_addRule {targets : List Text} :
    t ∈ targets.foldl addRule rules ↔ t ∈ rules ∨ t ∈ targets := by
  induction targets generalizing rules with
  | nil => simp
  | cons target targets ih => rw [List.foldl_cons, ih, mem_addRule, or_assoc, List.mem_cons]

/-! ## The protocol of the rules -/

inductive Phase
  | unknown
  | unmarked
  | building (rules : List Text)
  | marked (line : Text)

def Phase.next : Phase → (a : Action) → a.Answer → Phase
  | _, .removeMarker, _ => .unmarked
  | _, .flushRules, _ => .building []
  | .building rules, .addRule target, _ => .building (addRule rules target)
  | _, .writeMarker line, _ => .marked line
  | _, .readMarker, some line => .marked line
  | phase, _, _ => phase

/-- Rules are written without a marker, and the marker names those that have been written. -/
def Phase.allows : Phase → Action → Prop
  | .unmarked, .flushRules => True
  | .building _, .addRule _ => True
  | .building rules, .writeMarker line => ∀ t, t ∈ rules ↔ t ∈ pieces ' ' line
  | _, .flushRules | _, .addRule _ | _, .writeMarker _ => False
  | _, _ => True

abbrev Routes {α : Type} (phase : Phase) (m : Script α) (Q : Phase → α → Prop) : Prop :=
  m.Obeys Phase.allows Phase.next phase Q

def isRoute : Action → Prop
  | .readMarker | .removeMarker | .writeMarker _ | .flushRules | .addRule _ => True
  | _ => False

theorem includes_aside : SparesIncludes isRoute := ⟨id, fun _ => id, fun _ _ => id, fun _ => id⟩

section
variable {α β : Type} {phase : Phase} {m : Script α} {f : α → Script β} {Q : Phase → β → Prop}

theorem routes_of_free (h : Free isRoute m) : Routes phase m fun phase' _ => phase' = phase := by
  have hobeys : Routes phase m fun phase' _ => phase' = phase ∧ True := by
    refine Proc.Obeys.of_covered h fun a ha => ?_
    cases a with
    | readMarker | removeMarker | flushRules => exact absurd trivial ha
    | writeMarker line => exact absurd trivial ha
    | addRule target => exact absurd trivial ha
    | _ =>
      cases phase
      all_goals exact ⟨trivial, fun _ => rfl⟩
  exact hobeys.mono fun _ _ h => h.1

theorem routes_free_bind (hm : Free isRoute m) (hf : ∀ x, Routes phase (f x) Q) :
    Routes phase (m >>= f) Q := by
  refine Proc.Obeys.bind (routes_of_free hm) fun phase' x h => ?_
  subst h
  exact hf x

end

/-! ## The scripts -/

section
variable {phase : Phase}

theorem free_updateState {p : Party} {fields : Table} : Free isRoute (updateState p fields) :=
  (free_perform id).bind fun _ => (free_perform id).bind fun _ => free_perform id

theorem routes_clearPortalRoutes :
    Routes phase clearPortalRoutes fun phase' _ => phase' = .building [] := by
  cases phase
  all_goals exact ⟨trivial, fun _ => ⟨trivial, fun _ => rfl⟩⟩

theorem routes_addRules {targets : List Text} : Routes (.building rules) (addRules targets)
    fun phase' _ => phase' = .building (targets.foldl addRule rules) := by
  induction targets generalizing rules with
  | nil => rfl
  | cons target targets ih => exact ⟨trivial, fun _ => ih⟩

theorem routes_setPortalRoutes :
    Routes phase (setPortalRoutes dns) fun phase' _ => phase' = .marked (markerLine dns) := by
  have hwrite : ∀ phase, Routes phase (do
      clearPortalRoutes
      addRules (portalTargets dns)
      perform (.writeMarker (markerLine dns))) fun phase' _ => phase' = .marked (markerLine dns) := by
    intro phase
    refine Proc.Obeys.bind routes_clearPortalRoutes fun _ _ h => ?_
    subst h
    refine Proc.Obeys.bind routes_addRules fun _ _ h => ?_
    subst h
    refine ⟨fun t => ?_, fun _ => rfl⟩
    rw [mem_foldl_addRule, pieces_markerLine]
    simp
  have hread : ∀ current : Option Text, Routes (phase.next .readMarker current)
      (onlyIf (current ≠ some (markerLine dns)) (do
        clearPortalRoutes
        addRules (portalTargets dns)
        perform (.writeMarker (markerLine dns)))) fun phase' _ => phase' = .marked (markerLine dns) := by
    intro current
    by_cases hcurrent : current = some (markerLine dns)
    · subst hcurrent
      rw [decide_eq_false (by simp)]
      cases phase
      all_goals rfl
    · rw [decide_eq_true hcurrent]
      exact hwrite _
  cases phase
  all_goals exact ⟨trivial, hread⟩

theorem routes_clearAll (h : Free isRoute m) : Routes phase (do
    restorePortalDns
    clearPortalRebind
    clearPortalForward
    clearPortalRoutes
    m) fun _ _ => True := by
  refine routes_free_bind includes_aside.setInclude fun _ => ?_
  refine routes_free_bind includes_aside.setInclude fun _ => ?_
  refine routes_free_bind includes_aside.setInclude fun _ => ?_
  refine Proc.Obeys.bind routes_clearPortalRoutes fun _ _ _ => ?_
  exact (routes_of_free h).mono fun _ _ _ => trivial

theorem routes_passPortal : Routes phase passPortal fun _ _ => True := by
  refine routes_free_bind (free_perform id) fun _ => routes_clearAll ?_
  exact free_updateState.onlyIf.bind fun _ => free_updateState

theorem routes_losePortal : Routes phase losePortal fun _ _ => True := by
  refine routes_free_bind (free_perform id) fun _ => routes_clearAll ?_
  exact free_updateState.onlyIf.bind fun _ => free_updateState

theorem routes_missPortal : Routes phase (missPortal lastError) fun _ _ => True := by
  refine routes_free_bind includes_aside.setInclude fun _ => ?_
  refine routes_free_bind includes_aside.setInclude fun _ => ?_
  refine Proc.Obeys.bind routes_clearPortalRoutes fun _ _ _ => ?_
  exact (routes_of_free free_updateState).mono fun _ _ _ => trivial

theorem routes_meetPortal {s : Settings} : Routes phase (meetPortal s url)
    fun phase' _ => phase' = .marked (markerLine s.dns) := by
  have hengage : Free isRoute (engage s) :=
    (free_isEngaged id).bind fun _ => includes_aside.setPortalDns.onlyIf.bind fun _ =>
      free_updateState.onlyIf
  refine routes_free_bind includes_aside.setInclude fun _ => ?_
  refine routes_free_bind includes_aside.setInclude fun _ => ?_
  refine Proc.Obeys.bind routes_setPortalRoutes fun _ _ h => ?_
  subst h
  exact routes_of_free (hengage.bind fun _ => free_updateState)

theorem routes_tryProbes {s : Settings} :
    Routes phase (tryProbes s device ps lastError)
      fun phase' detected => detected = true → phase' = .marked (markerLine s.dns) := by
  induction ps generalizing lastError with
  | nil => exact Proc.Obeys.bind routes_missPortal fun _ _ _ => (fun h => nomatch h)
  | cons probe rest ih =>
    refine routes_free_bind (free_perform id) fun response => ?_
    split
    · exact Proc.Obeys.bind routes_passPortal fun _ _ _ => (fun h => nomatch h)
    · exact Proc.Obeys.bind routes_meetPortal fun _ _ h => fun _ => h
    · exact ih

/-- How a pass ends: the marker names the targets of the portal that it has detected. -/
def Ends (phase : Phase) (x : Outcome) : Prop :=
  ∀ dns, x.portal = some dns → phase = .marked (markerLine dns)

theorem routes_tick : Routes phase tick Ends := by
  refine routes_free_bind (free_perform id) fun settings => ?_
  cases uplinkOf settings with
  | none => exact Proc.Obeys.bind routes_losePortal fun _ _ _ => (fun _ h => nomatch h)
  | some uplink =>
    obtain ⟨s, device⟩ := uplink
    have hdetect : Routes phase (detect s device)
        fun phase' detected => detected = true → phase' = .marked (markerLine s.dns) :=
      routes_free_bind free_updateState fun _ => routes_tryProbes
    refine Proc.Obeys.bind hdetect fun phase' detected h => ?_
    cases detected with
    | true =>
      intro dns hdns
      cases hdns
      exact h rfl
    | false => exact routes_free_bind (free_perform id) fun _ => (fun _ h => nomatch h)

end

/-! ## The marker and the rules -/

def Agree (w : World) : Prop := ∀ line, w.marker = some line → ∀ t, t ∈ w.rules ↔ t ∈ pieces ' ' line

def Phase.Holds (w : World) : Phase → Prop
  | .unknown => Agree w
  | .unmarked => w.marker = none
  | .building rules => w.marker = none ∧ w.rules = rules
  | .marked line => w.marker = some line ∧ Agree w

section
variable {w w' : World} {phase : Phase} {e : Env} {a : Action}

theorem agree_of_unmarked (h : w.marker = none) : Agree w := fun line hline => by
  rw [h] at hline
  cases hline

theorem Phase.Holds.agree (h : phase.Holds w) : Agree w := by
  cases phase with
  | unknown => exact h
  | unmarked => exact agree_of_unmarked h
  | building rules => exact agree_of_unmarked h.1
  | marked line => exact h.2

theorem Phase.Holds.congr (h : phase.Holds w) (hmarker : w'.marker = w.marker)
    (hrules : w'.rules = w.rules) : phase.Holds w' := by
  have hagree : Agree w → Agree w' := fun h line hline => by
    rw [hrules]
    exact h line (hmarker ▸ hline)
  cases phase with
  | unknown => exact hagree h
  | unmarked => exact hmarker.trans h
  | building rules => exact ⟨hmarker.trans h.1, hrules.trans h.2⟩
  | marked line => exact ⟨hmarker.trans h.1, hagree h.2⟩

theorem Phase.Holds.next (h : phase.Holds w) (hallows : phase.allows a) :
    (phase.next a (answer e a w).1).Holds (answer e a w).2 := by
  cases a with
  | removeMarker =>
    cases phase
    all_goals exact rfl
  | flushRules =>
    cases phase with
    | unmarked => exact ⟨h, rfl⟩
    | _ => cases hallows
  | addRule target =>
    cases phase with
    | building rules => exact ⟨h.1, congrArg (addRule · target) h.2⟩
    | _ => cases hallows
  | writeMarker line =>
    cases phase with
    | building rules =>
      refine ⟨rfl, fun line' hline t => ?_⟩
      cases hline
      obtain ⟨-, rfl⟩ := h
      exact hallows t
    | _ => cases hallows
  | readMarker =>
    cases hmarker : w.marker with
    | none =>
      have hread : phase.next .readMarker (answer e .readMarker w).1 = phase := by
        change phase.next .readMarker w.marker = phase
        rw [hmarker]
        cases phase
        all_goals rfl
      rw [hread]
      exact h
    | some line =>
      have hread : phase.next .readMarker (answer e .readMarker w).1 = .marked line := by
        change phase.next .readMarker w.marker = .marked line
        rw [hmarker]
        cases phase
        all_goals rfl
      rw [hread]
      exact ⟨hmarker, h.agree⟩
  | _ =>
    cases phase
    all_goals exact Phase.Holds.congr h rfl rfl

end

/-! ## Runs -/

def isMarker : Action → Prop
  | .removeMarker | .writeMarker _ => True
  | _ => False

theorem includes_unmarked : SparesIncludes isMarker := ⟨id, fun _ => id, fun _ _ => id, fun _ => id⟩

theorem free_call (c : Call) : Free isMarker c.script := by
  have hadd : ∀ targets, Free isMarker (addRules targets) := fun targets => by
    induction targets with
    | nil => trivial
    | cons target targets ih => exact (free_perform id).bind fun _ => ih
  have hupdate : ∀ fields, Free isMarker (updateState .rpc fields) := fun fields =>
    (free_perform id).bind fun _ => (free_perform id).bind fun _ => free_perform id
  have hclose : Free isMarker closeDns := by
    refine (free_perform id).bind fun _ => Free.onlyIf ?_
    exact (free_perform id).bind fun _ => includes_unmarked.removeInclude
  have hopen : ∀ dns, Free isMarker (openDns dns) := fun dns => by
    refine (free_perform id).bind fun _ => Free.onlyIf ?_
    cases overrideContent dns with
    | none => trivial
    | some content =>
      have hroutes : Free isMarker (setRoutes dns) := (free_perform id).bind fun _ => hadd _
      exact hroutes.bind fun _ => includes_unmarked.writeInclude
  cases c with
  | enterBareMode => exact (free_perform id).bind fun dns => (hopen dns).bind fun _ => hupdate _
  | exitBareMode => exact hclose.bind fun _ => hupdate _
  | disconnect | applyConfig => exact hclose

def changesRules : Action → Bool
  | .flushRules | .addRule _ => true
  | _ => false

/-- The methods change the rules only while the detector sleeps and there is no marker. -/
def LeavesMarked (s : State) : Event → Prop
  | .rpc _ => ∀ a, s.rpc.next = some a → changesRules a = true →
      s.detector.isDone = true ∧ s.world.marker = none
  | .wake | .restart | .detector _ | .call _ => True

structure Truthful (s : State) : Prop where
  detector : ∃ phase : Phase, Routes phase s.detector Ends ∧ phase.Holds s.world
  rpc : Free isMarker s.rpc

section
variable {s : State} {e : Env}

theorem Truthful.agree (h : Truthful s) : Agree s.world := by
  obtain ⟨phase, -, hholds⟩ := h.detector
  exact hholds.agree

theorem rpc_truthful (h : Truthful s) (hleaves : LeavesMarked s (.rpc e)) :
    Truthful (machine.step s (.rpc e)) := by
  obtain ⟨w, detector, rpc, reading, updates⟩ := s
  obtain ⟨⟨phase, hroutes, hholds⟩, hfree⟩ := h
  cases rpc with
  | ret x => exact ⟨⟨phase, hroutes, hholds⟩, hfree⟩
  | act a k =>
    have hrest : Free isMarker (k (answer e a w).1) := (hfree.2 _).resolve_left id
    cases ha : changesRules a with
    | false =>
      refine ⟨⟨phase, hroutes, hholds.congr ?_ ?_⟩, hrest⟩
      · change (answer e a w).2.marker = w.marker
        cases a with
        | removeMarker => exact absurd trivial hfree.1
        | writeMarker line => exact absurd trivial hfree.1
        | _ => rfl
      · change (answer e a w).2.rules = w.rules
        cases a with
        | flushRules => cases ha
        | addRule target => cases ha
        | _ => rfl
    | true =>
      -- the pass that has ended has detected no portal, since there is no marker
      obtain ⟨hdone, hmarker⟩ : detector.isDone = true ∧ w.marker = none := hleaves a rfl ha
      have hnone : (answer e a w).2.marker = none := by
        cases a with
        | flushRules => exact hmarker
        | addRule target => exact hmarker
        | _ => cases ha
      refine ⟨⟨.unknown, ?_, agree_of_unmarked hnone⟩, hrest⟩
      cases detector with
      | act b l => cases hdone
      | ret x =>
        intro dns hdns
        have hphase : phase = .marked (markerLine dns) := hroutes dns hdns
        subst hphase
        cases hmarker.symm.trans hholds.1

theorem step_truthful (h : Truthful s) (hleaves : LeavesMarked s ev) :
    Truthful (machine.step s ev) := by
  cases ev with
  | wake =>
    change Truthful (if s.detector.isDone then { s with detector := tick } else s)
    split
    · exact ⟨⟨.unknown, routes_tick, h.agree⟩, h.rpc⟩
    · exact h
  | restart => exact ⟨⟨.unknown, routes_tick, h.agree⟩, h.rpc⟩
  | call c =>
    change Truthful (if s.rpc.isDone then { s with rpc := c.script } else s)
    split
    · exact ⟨h.detector, free_call c⟩
    · exact h
  | rpc e => exact rpc_truthful h hleaves
  | detector e =>
    obtain ⟨w, detector, rpc, reading, updates⟩ := s
    obtain ⟨⟨phase, hroutes, hholds⟩, hfree⟩ := h
    cases detector with
    | ret x => exact ⟨⟨phase, hroutes, hholds⟩, hfree⟩
    | act a k => exact ⟨⟨_, hroutes.2 _, hholds.next hroutes.1⟩, hfree⟩

end

/-- If the methods change the rules only while the detector sleeps and there is no marker, the rules
are always those of the marker, and after a pass that has detected a portal they are there. -/
theorem marker_truthful {s : State} {es : List Event} (hs : Truthful s)
    (hes : machine.Admits LeavesMarked s es) :
    Agree (machine.run s es).world ∧
      ∀ x dns, (machine.run s es).detector = .ret x → x.portal = some dns →
        ∀ t ∈ portalTargets dns, t ∈ (machine.run s es).world.rules := by
  have h := Machine.invariant (I := Truthful) (fun _ _ hleaves h => step_truthful h hleaves) hes hs
  refine ⟨h.agree, fun x dns hdone hdns t ht => ?_⟩
  obtain ⟨phase, hroutes, hholds⟩ := h.detector
  rw [hdone] at hroutes
  have hphase : phase = .marked (markerLine dns) := hroutes dns hdns
  subst hphase
  rw [hholds.2 _ hholds.1, pieces_markerLine]
  exact ht

theorem boot_truthful : Truthful boot := by
  refine ⟨⟨.unknown, (fun _ h => nomatch h), agree_of_unmarked rfl⟩, trivial⟩

def portalEnv : Env :=
  { upEnv 1 with probe := fun _ _ _ => .ok ⟨302, some "http://login.example.com/", none, []⟩ }

def wholePass : List Event := .wake :: List.replicate 24 (.detector portalEnv)

def leave : List Event := .call .exitBareMode :: List.replicate 6 (.rpc portalEnv)

theorem admits_wholePass (s : State) : machine.Admits LeavesMarked s wholePass := by
  refine Machine.Admits.of_forall (fun ev hev s => ?_) s
  obtain rfl | hev := List.mem_cons.1 hev
  · trivial
  · rw [List.eq_of_mem_replicate hev]
    trivial

/-- The portal is detected. -/
theorem marker_truthful_detected :
    let t := machine.run boot wholePass
    t.detector = .ret ⟨some ["10.0.3.5"], pollInterval⟩ ∧ Agree t.world ∧
      ∀ t' ∈ portalTargets ["10.0.3.5"], t' ∈ t.world.rules := by
  have hdone : (machine.run boot wholePass).detector = .ret ⟨some ["10.0.3.5"], pollInterval⟩ := rfl
  obtain ⟨hagree, htargets⟩ := marker_truthful boot_truthful (admits_wholePass boot)
  exact ⟨hdone, hagree, htargets _ _ hdone rfl⟩

set_option maxRecDepth 2000 in
/-- The portal is detected, the user leaves bare mode, and the portal is detected again: its rules are
not there. -/
theorem rules_not_restored :
    let t := machine.run boot (wholePass ++ leave ++ wholePass)
    Truthful boot ∧ t.detector.isDone = true ∧ (t.world.state.load .detector).detected = some true ∧
      t.world.marker = some (markerLine ["10.0.3.5"]) ∧ t.world.rules = [] := by
  refine ⟨boot_truthful, ?_⟩
  decide

end GlXe3000.Portal.Shared
