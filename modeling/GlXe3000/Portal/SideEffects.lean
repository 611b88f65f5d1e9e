import GlXe3000.Lib.Machine
import GlXe3000.Portal.Detector

/-! # What a portal leaves behind

A pass of the detector that detects no portal ends in one of three ways: a probe has succeeded, no
probe has been answered in a way that decides, or the uplink is gone. Each removes the exception of the
rebind protection, the forward and the rules. The second leaves the DNS of the LAN and the bare mode as
they are. -/

namespace GlXe3000.Portal

/-! ## Scripts as functions of the world -/

namespace World
variable (w : World)

def setInclude (f : Include) (content : Option Text) : World :=
  { w with includes := Function.update w.includes f content }

def clear (f : Include) : World := if w.confdir then w.setInclude f none else w

def clearRoutes : World := { w with marker := none, rules := [] }

def put (p : Party) (fields : Table) : World :=
  { w with state := .table ((w.state.load p).update fields) }

def table : Table := w.state.load .detector

end World

section
variable {w : World} {e : Env} {f g : Include} {p : Party} {fields : Table}

theorem setInclude_of_eq (h : w.includes f = content) : w.setInclude f content = w := by
  rw [World.setInclude, ← h, Function.update_eq_self]

theorem run_onlyIf {m : Script Unit} :
    ((onlyIf c m).run (answer e) w).2 = if c then (m.run (answer e) w).2 else w := by
  cases c
  all_goals rfl

theorem run_removeInclude : ((removeInclude f).run (answer e) w).2 = w.setInclude f none := by
  unfold removeInclude
  rw [Proc.run_bind, run_onlyIf]
  split
  · rfl
  · next hnone => exact (setInclude_of_eq (Option.not_isSome_iff_eq_none.1 hnone)).symm

theorem run_writeInclude :
    ((writeInclude f content).run (answer e) w).2 = w.setInclude f (some content) := by
  unfold writeInclude
  rw [Proc.run_bind, run_onlyIf]
  split
  · rfl
  · next hsame =>
    have hsame : ¬decide (w.includes f ≠ some content) = true := hsame
    have hcontent : w.includes f = some content := by simpa using hsame
    exact (setInclude_of_eq hcontent).symm

theorem run_setInclude : ((setInclude f content).run (answer e) w).2 =
    if w.confdir then w.setInclude f content else w := by
  unfold setInclude
  rw [Proc.run_bind, run_onlyIf]
  cases content with
  | none => exact if_congr Iff.rfl run_removeInclude rfl
  | some content => exact if_congr Iff.rfl run_writeInclude rfl

theorem run_restorePortalDns :
    (restorePortalDns.run (answer e) w).2 = w.clear .dns := run_setInclude

theorem run_clearPortalRebind : (clearPortalRebind.run (answer e) w).2 = w.clear .rebind :=
  run_setInclude

theorem run_clearPortalRoutes : (clearPortalRoutes.run (answer e) w).2 = w.clearRoutes := rfl

theorem run_clearPortalForward : (clearPortalForward.run (answer e) w).2 = w.clear .forward :=
  run_setInclude

end

/-! ## The end of a pass -/

def World.cleared (w : World) : World := (((w.clear .dns).clear .rebind).clear .forward).clearRoutes

section
variable {w : World} {e : Env} {f g : Include} {p : Party} {fields : Table}

@[simp] theorem confdir_clear : (w.clear f).confdir = w.confdir := by
  unfold World.clear
  split
  all_goals rfl

@[simp] theorem state_clear : (w.clear f).state = w.state := by
  unfold World.clear
  split
  all_goals rfl

theorem includes_clear_of_none (h : w.includes g = none) : (w.clear f).includes g = none := by
  unfold World.clear
  split
  · by_cases hg : g = f
    · rw [hg]
      exact Function.update_self _ _ _
    · exact (Function.update_of_ne hg _ _).trans h
  · exact h

theorem includes_clear_of_ne (h : g ≠ f) : (w.clear f).includes g = w.includes g := by
  unfold World.clear
  split
  · exact Function.update_of_ne h _ _
  · rfl

theorem includes_clear_self (h : w.confdir = false → w.includes f = none) :
    (w.clear f).includes f = none := by
  unfold World.clear
  split
  · exact Function.update_self _ _ _
  · next hdir => exact h (Bool.eq_false_iff.2 hdir)

theorem includes_cleared (h : w.confdir = false → ∀ f, w.includes f = none) :
    w.cleared.includes f = none := by
  cases f with
  | dns =>
    refine includes_clear_of_none (includes_clear_of_none ?_)
    exact includes_clear_self fun hdir => h hdir .dns
  | rebind =>
    refine includes_clear_of_none (includes_clear_self fun hdir => includes_clear_of_none ?_)
    exact h (confdir_clear.symm.trans hdir) .rebind
  | forward =>
    refine includes_clear_self fun hdir => includes_clear_of_none (includes_clear_of_none ?_)
    rw [confdir_clear, confdir_clear] at hdir
    exact h hdir .forward

theorem table_cleared : w.cleared.table = w.table := by
  change (((w.clear .dns).clear .rebind).clear .forward).state.load .detector = _
  rw [state_clear, state_clear, state_clear]
  rfl

theorem bareMode_report :
    ((report detected url status lastError).run (answer e) w).2.table.bareMode = w.table.bareMode :=
  Option.none_or

theorem autoBareMode_report :
    ((report detected url status lastError).run (answer e) w).2.table.autoBareMode =
      w.table.autoBareMode :=
  Option.none_or

end

/-! ## Histories -/

/-- A portal's effects on the rest of the system, and the mode of the user. -/
structure State where
  world : World
  manual : Bool

inductive Event
  | tick (e : Env)
  | call (c : Call) (e : Env)

/-- Whether the user's bare mode goes on: a call says so, and a pass may end it. -/
def nextManual (manual : Bool) (w : World) : Event → Bool
  | .tick _ => manual && w.table.bareMode = some true
  | .call .enterBareMode _ => true
  | .call .exitBareMode _ => false
  | .call .disconnect _ | .call .applyConfig _ => manual

def Event.perform (w : World) : Event → World
  | .tick e => (Portal.tick.run (answer e) w).2
  | .call c e => (c.script.run (answer e) w).2

def machine : Machine State Event where
  step s ev := ⟨ev.perform s.world, nextManual s.manual (ev.perform s.world) ev⟩

structure Inv (w : World) (manual : Bool) : Prop where
  confdir : w.confdir = false → ∀ f, w.includes f = none
  bare : (w.includes .dns).isSome = true → w.table.bareMode = some true
  auto : w.table.autoBareMode = some true → w.table.bareMode = some true
  manual : w.table.bareMode = some true → w.table.autoBareMode = some true ∨ manual = true

/-- The uplink has left nothing behind that an open network does not have. -/
structure Clean (w : World) (manual : Bool) : Prop where
  rebind : w.includes .rebind = none
  forward : w.includes .forward = none
  rules : w.rules = []
  auto : w.table.autoBareMode ≠ some true
  dns : w.includes .dns = none ∨ manual = true

/-- One of the probes is answered by its own page or by the portal, unless the uplink is gone. -/
def isConclusive (e : Env) : Bool :=
  (uplinkOf e.settings).all fun (s, device) => probes.any fun probe =>
    match finding probe (e.probe probe.url device s.dns) with
    | .nothing _ => false
    | .passed | .portal _ => true

/-- A pass that finds nothing out does not come while automatic bare mode is on. -/
def Settles (s : State) : Event → Prop
  | .tick e => isConclusive e = true ∨ s.world.table.autoBareMode ≠ some true
  | .call _ _ => True

/-! ## What keeps the invariant -/

section
variable {w w' : World} {e : Env} {manual : Bool}

theorem Inv.congr (h : Inv w manual) (hdir : w'.confdir = w.confdir)
    (hincludes : w'.includes = w.includes) (hbare : w'.table.bareMode = w.table.bareMode)
    (hauto : w'.table.autoBareMode = w.table.autoBareMode) : Inv w' manual := by
  refine ⟨?_, ?_, ?_, ?_⟩
  · rw [hdir, hincludes]
    exact h.confdir
  · rw [hincludes, hbare]
    exact h.bare
  · rw [hauto, hbare]
    exact h.auto
  · rw [hauto, hbare]
    exact h.manual

theorem Inv.settle (h : Inv w manual) : Inv w (manual && w.table.bareMode = some true) := by
  refine ⟨h.confdir, h.bare, h.auto, fun hbare => (h.manual hbare).imp_right fun hmanual => ?_⟩
  rw [hmanual, hbare]
  rfl

theorem Inv.setInclude (h : Inv w manual) (hf : f ≠ .dns) :
    Inv ((setInclude f content).run (answer e) w).2 manual := by
  rw [run_setInclude]
  split
  · next hdir =>
    refine ⟨fun hnone => ?_, fun hsome => h.bare ?_, h.auto, h.manual⟩
    · have hnone : w.confdir = false := hnone
      rw [hdir] at hnone
      cases hnone
    · have hdns : (w.setInclude f content).includes .dns = w.includes .dns :=
        Function.update_of_ne hf.symm _ _
      exact hdns ▸ hsome
  · exact h

theorem Inv.setPortalRebind (h : Inv w manual) :
    Inv ((setPortalRebind url).run (answer e) w).2 manual := h.setInclude (by decide)

theorem Inv.setPortalForward (h : Inv w manual) :
    Inv ((setPortalForward url dns).run (answer e) w).2 manual := h.setInclude (by decide)

theorem Inv.report (h : Inv w manual) :
    Inv ((report detected url status lastError).run (answer e) w).2 manual :=
  h.congr rfl rfl bareMode_report autoBareMode_report

theorem run_addRules : ((addRules targets).run (answer e) w).2 =
    { w with rules := targets.foldl addRule w.rules } := by
  induction targets generalizing w with
  | nil => rfl
  | cons target targets ih =>
    unfold addRules
    rw [Proc.run_bind, ih]
    rfl

theorem run_setPortalRoutes : ((setPortalRoutes dns).run (answer e) w).2 =
    if w.marker = some (markerLine dns) then w
    else { w with marker := some (markerLine dns), rules := (portalTargets dns).foldl addRule [] } := by
  unfold setPortalRoutes
  rw [Proc.run_bind, run_onlyIf, Proc.run_bind, Proc.run_bind, run_addRules]
  by_cases hmarker : w.marker = some (markerLine dns)
  · rw [if_pos hmarker]
    exact if_neg fun h => of_decide_eq_true (p := w.marker ≠ some (markerLine dns)) h hmarker
  · rw [if_neg hmarker]
    exact if_pos (decide_eq_true hmarker)

theorem Inv.setPortalRoutes (h : Inv w manual) :
    Inv ((setPortalRoutes dns).run (answer e) w).2 manual := by
  rw [run_setPortalRoutes]
  split
  · exact h
  · exact h.congr rfl rfl rfl rfl

theorem run_setPortalDns : ((setPortalDns dns).run (answer e) w).2 =
    if w.confdir then (overrideContent dns).elim w fun content => w.setInclude .dns (some content)
    else w := by
  unfold setPortalDns
  rw [Proc.run_bind, run_onlyIf]
  cases overrideContent dns with
  | none => rfl
  | some content => exact if_congr Iff.rfl run_writeInclude rfl

theorem confdir_setPortalDns (h : w.confdir = false → ∀ f, w.includes f = none) :
    ((setPortalDns dns).run (answer e) w).2.confdir = false →
      ∀ f, ((setPortalDns dns).run (answer e) w).2.includes f = none := by
  rw [run_setPortalDns]
  split
  · next hdir =>
    intro hnone
    have hsame : ((overrideContent dns).elim w fun content => w.setInclude .dns (some content)).confdir =
        w.confdir := by
      cases overrideContent dns
      all_goals rfl
    rw [hsame, hdir] at hnone
    cases hnone
  · exact h

theorem table_setPortalDns : ((setPortalDns dns).run (answer e) w).2.table = w.table := by
  rw [run_setPortalDns]
  split
  · cases overrideContent dns
    all_goals rfl
  · rfl

theorem Inv.engage (h : Inv w manual) : Inv ((engage s).run (answer e) w).2 manual := by
  unfold Portal.engage isEngaged
  rw [Proc.run_bind, Proc.run_bind]
  cases hauto : s.autoPortal with
  | true =>
    change Inv ((setBareMode true true).run (answer e) ((setPortalDns s.dns).run (answer e) w).2).2 _
    exact ⟨confdir_setPortalDns h.confdir, fun _ => rfl, fun _ => rfl, fun _ => .inl rfl⟩
  | false =>
    change Inv ((onlyIf (decide (w.table.bareMode = some true)) (setPortalDns s.dns)).run (answer e) w).2 _
    rw [run_onlyIf]
    split
    · next hbare =>
      have hbare : w.table.bareMode = some true := of_decide_eq_true hbare
      refine ⟨confdir_setPortalDns h.confdir, fun _ => ?_, ?_, ?_⟩
      · rw [table_setPortalDns]
        exact hbare
      · rw [table_setPortalDns]
        exact h.auto
      · rw [table_setPortalDns]
        exact h.manual
    · exact h

theorem Inv.meetPortal (h : Inv w manual) : Inv ((meetPortal s url).run (answer e) w).2 manual := by
  unfold Portal.meetPortal
  simp only [Proc.run_bind]
  exact h.setPortalRebind.setPortalForward.setPortalRoutes.engage.report

/-! ## The ends of a pass -/

theorem run_passPortal : (passPortal.run (answer e) w).2 =
    ((report false [] "portal pass" []).run (answer e)
      (if w.table.bareMode = some true then ((setBareMode false false).run (answer e) w.cleared).2
        else w.cleared)).2 := by
  unfold passPortal
  simp only [Proc.run_bind, run_onlyIf, decide_eq_true_eq, run_restorePortalDns, run_clearPortalRebind,
    run_clearPortalForward, run_clearPortalRoutes]
  rfl

theorem run_losePortal : (losePortal.run (answer e) w).2 =
    ((report false [] "idle" []).run (answer e)
      (if w.table.autoBareMode = some true then
        ((setBareMode false false).run (answer e) w.cleared).2
        else w.cleared)).2 := by
  unfold losePortal
  simp only [Proc.run_bind, run_onlyIf, decide_eq_true_eq, run_restorePortalDns, run_clearPortalRebind,
    run_clearPortalForward, run_clearPortalRoutes]
  rfl

theorem run_missPortal : ((missPortal lastError).run (answer e) w).2 =
    ((report false [] "not found portal" lastError).run (answer e)
      ((w.clear .rebind).clear .forward).clearRoutes).2 := by
  unfold missPortal
  simp only [Proc.run_bind, run_clearPortalRebind, run_clearPortalForward, run_clearPortalRoutes]

theorem cleared_ends {stop : Prop} [Decidable stop] (h : Inv w manual)
    (hstop : w.table.autoBareMode = some true → stop)
    (hw' : w' = ((report false [] status []).run (answer e)
      (if stop then ((setBareMode false false).run (answer e) w.cleared).2 else w.cleared)).2) :
    Inv w' manual ∧ Clean w' (manual && w'.table.bareMode = some true) := by
  have hnone : ∀ f, w.cleared.includes f = none := fun f => includes_cleared h.confdir
  subst hw'
  split
  · exact ⟨⟨fun _ => hnone, (fun hsome => by cases (hnone .dns) ▸ hsome), (fun htrue => nomatch htrue),
      (fun htrue => nomatch htrue)⟩, hnone _, hnone _, rfl, (fun htrue => nomatch htrue), .inl (hnone _)⟩
  · next hgo =>
    have hauto : w.cleared.table.autoBareMode ≠ some true := by
      rw [table_cleared]
      exact fun htrue => hgo (hstop htrue)
    have hinv : Inv w.cleared manual := by
      refine ⟨fun _ => hnone, fun hsome => ?_, fun htrue => absurd htrue hauto, ?_⟩
      · rw [hnone] at hsome
        cases hsome
      · rw [table_cleared]
        exact h.manual
    refine ⟨hinv.report, hnone _, hnone _, rfl, ?_, .inl (hnone _)⟩
    rw [autoBareMode_report]
    exact hauto

theorem missPortal_ends (h : Inv w manual)
    (hw' : w' = ((missPortal lastError).run (answer e) w).2) :
    Inv w' manual ∧ (w.table.autoBareMode ≠ some true →
      Clean w' (manual && w'.table.bareMode = some true)) := by
  rw [run_missPortal] at hw'
  have hbare : w'.table.bareMode = w.table.bareMode := by
    rw [hw', bareMode_report]
    change (World.table ((w.clear .rebind).clear .forward)).bareMode = _
    rw [World.table, state_clear, state_clear]
    rfl
  have hauto : w'.table.autoBareMode = w.table.autoBareMode := by
    rw [hw', autoBareMode_report]
    change (World.table ((w.clear .rebind).clear .forward)).autoBareMode = _
    rw [World.table, state_clear, state_clear]
    rfl
  have hdns : w'.includes .dns = w.includes .dns := by
    rw [hw']
    change ((w.clear .rebind).clear .forward).includes .dns = _
    rw [includes_clear_of_ne (by decide), includes_clear_of_ne (by decide)]
  have hrebind : w'.includes .rebind = none := by
    rw [hw']
    exact includes_clear_of_none (includes_clear_self fun hdir => h.confdir hdir .rebind)
  have hforward : w'.includes .forward = none := by
    rw [hw']
    refine includes_clear_self fun hdir => includes_clear_of_none ?_
    exact h.confdir (confdir_clear.symm.trans hdir) .forward
  have hdir : w'.confdir = w.confdir := by
    rw [hw']
    change ((w.clear .rebind).clear .forward).confdir = _
    rw [confdir_clear, confdir_clear]
  have hinv : Inv w' manual := by
    refine ⟨fun hnone f => ?_, ?_, ?_, ?_⟩
    · cases f with
      | dns => exact hdns.trans (h.confdir (hdir ▸ hnone) .dns)
      | rebind => exact hrebind
      | forward => exact hforward
    · rw [hdns, hbare]
      exact h.bare
    · rw [hauto, hbare]
      exact h.auto
    · rw [hauto, hbare]
      exact h.manual
  refine ⟨hinv, fun hoff => ⟨hrebind, hforward, by rw [hw']; rfl, hauto ▸ hoff, ?_⟩⟩
  cases hcontent : w'.includes .dns with
  | none => exact .inl rfl
  | some content =>
    have hon : w'.table.bareMode = some true := hinv.bare (hcontent ▸ rfl)
    rw [hon, (hinv.manual hon).resolve_left (hauto ▸ hoff)]
    exact .inr rfl

theorem run_tryProbes_cons {s : Settings} {probe : Probe} :
    (tryProbes s device (probe :: rest) lastError).run (answer e) w =
      match finding probe (e.probe probe.url device s.dns) with
      | .passed => (false, (passPortal.run (answer e) w).2)
      | .portal url => (true, ((meetPortal s url).run (answer e) w).2)
      | .nothing error => (tryProbes s device rest error).run (answer e) w := by
  rw [tryProbes, Proc.run_bind]
  change Proc.run (answer e) (match finding probe (e.probe probe.url device s.dns) with
    | .passed => _
    | .portal url => _
    | .nothing error => _) w = _
  cases finding probe (e.probe probe.url device s.dns) with
  | passed => exact Proc.run_bind
  | portal url => exact Proc.run_bind
  | nothing error => rfl

theorem tryProbes_cases (w : World) (e : Env) (s : Settings) (device : Text) (ps : List Probe)
    (lastError : Text) :
    (tryProbes s device ps lastError).run (answer e) w = (false, (passPortal.run (answer e) w).2) ∨
    (∃ url, (tryProbes s device ps lastError).run (answer e) w =
      (true, ((meetPortal s url).run (answer e) w).2)) ∨
    (∃ error, (tryProbes s device ps lastError).run (answer e) w =
      (false, ((missPortal error).run (answer e) w).2)) ∧
      ∀ probe ∈ ps, ∃ error, finding probe (e.probe probe.url device s.dns) = .nothing error := by
  induction ps generalizing lastError with
  | nil =>
    refine .inr (.inr ⟨⟨lastError, ?_⟩, fun _ hmem => nomatch hmem⟩)
    rw [tryProbes]
    exact Proc.run_bind
  | cons probe rest ih =>
    rw [run_tryProbes_cons]
    cases hfinding : finding probe (e.probe probe.url device s.dns) with
    | passed => exact .inl rfl
    | portal url => exact .inr (.inl ⟨url, rfl⟩)
    | nothing error =>
      refine (ih error).imp_right (Or.imp_right fun ⟨hmiss, hall⟩ => ⟨hmiss, fun probe' hmem => ?_⟩)
      obtain rfl | hmem := List.mem_cons.1 hmem
      · exact ⟨error, hfinding⟩
      · exact hall probe' hmem

def World.detecting (w : World) (now : Nat) : World :=
  w.put .detector
    { detecting := some true, status := some "portal detecting...".toList, lastError := some [],
      updated := some now }

theorem Inv.detecting (h : Inv w manual) : Inv (w.detecting now) manual :=
  h.congr rfl rfl Option.none_or Option.none_or

theorem run_detect : (detect s device).run (answer e) w =
    (tryProbes s device probes []).run (answer e) (w.detecting e.time) := by
  rw [detect, Proc.run_bind]
  rfl

theorem run_tick : tick.run (answer e) w = (pass (uplinkOf e.settings)).run (answer e) w :=
  Proc.run_bind

theorem run_outcome :
    ((outcome s detected).run (answer e) w).2 = w ∧
      (((outcome s detected).run (answer e) w).1.portal = none ↔ detected = false) := by
  cases detected with
  | true => exact ⟨rfl, (fun h => nomatch h), fun h => nomatch h⟩
  | false => exact ⟨rfl, fun _ => rfl, fun _ => rfl⟩

theorem tick_ends (h : Inv w manual) (hw' : w' = (tick.run (answer e) w).2) :
    Inv w' manual ∧ (isConclusive e = true ∨ w.table.autoBareMode ≠ some true →
      (tick.run (answer e) w).1.portal = none →
        Clean w' (manual && w'.table.bareMode = some true)) := by
  rw [run_tick] at hw' ⊢
  cases huplink : uplinkOf e.settings with
  | none =>
    rw [huplink, pass, Proc.run_bind] at hw'
    obtain ⟨hinv, hclean⟩ := cleared_ends h id (hw'.trans run_losePortal)
    exact ⟨hinv, fun _ _ => hclean⟩
  | some uplink =>
    obtain ⟨s, device⟩ := uplink
    rw [huplink, pass, Proc.run_bind] at hw'
    rw [pass, Proc.run_bind, run_outcome.2]
    rw [run_outcome.1, run_detect] at hw'
    rw [run_detect]
    have hstart : Inv (w.detecting e.time) manual := h.detecting
    obtain heq | ⟨url, heq⟩ | ⟨⟨error, heq⟩, hall⟩ :=
      tryProbes_cases (w.detecting e.time) e s device probes []
    · rw [heq] at hw'
      obtain ⟨hinv, hclean⟩ := cleared_ends hstart hstart.auto (hw'.trans run_passPortal)
      exact ⟨hinv, fun _ _ => hclean⟩
    · rw [heq] at hw' ⊢
      exact ⟨hw' ▸ hstart.meetPortal, (fun _ hportal => nomatch hportal)⟩
    · rw [heq] at hw'
      obtain ⟨hinv, hclean⟩ := missPortal_ends hstart hw'
      refine ⟨hinv, fun hsettles _ => hclean (hsettles.resolve_left fun hconclusive => ?_)⟩
      rw [isConclusive, huplink] at hconclusive
      obtain ⟨probe, hmem, hprobe⟩ := List.any_eq_true.1 hconclusive
      obtain ⟨error, herror⟩ := hall probe hmem
      rw [herror] at hprobe
      cases hprobe

/-! ## The calls -/

theorem run_closeDns : (closeDns.run (answer e) w).2 =
    if w.confdir then { w with rules := [] }.setInclude .dns none else w := by
  unfold closeDns
  rw [Proc.run_bind, run_onlyIf, Proc.run_bind, run_removeInclude]
  rfl

theorem run_openDns : ((openDns dns).run (answer e) w).2 =
    if w.confdir then (overrideContent dns).elim w fun content =>
      { w with rules := (portalTargets dns).foldl addRule [] }.setInclude .dns (some content)
    else w := by
  unfold openDns
  rw [Proc.run_bind, run_onlyIf]
  cases overrideContent dns with
  | none => rfl
  | some content =>
    refine if_congr Iff.rfl ?_ rfl
    dsimp only [Option.elim]
    rw [Proc.run_bind, run_writeInclude, setRoutes, Proc.run_bind, run_addRules]
    rfl

theorem confdir_openDns (h : w.confdir = false → ∀ f, w.includes f = none) :
    ((openDns dns).run (answer e) w).2.confdir = false →
      ∀ f, ((openDns dns).run (answer e) w).2.includes f = none := by
  rw [run_openDns]
  split
  · next hdir =>
    cases overrideContent dns with
    | none => exact h
    | some content =>
      intro hnone
      have hnone : w.confdir = false := hnone
      rw [hdir] at hnone
      cases hnone
  · exact h

theorem closeDns_ends (h : Inv w manual) (hw' : w' = (closeDns.run (answer e) w).2) :
    Inv w' manual ∧ w'.includes .dns = none := by
  rw [run_closeDns] at hw'
  split at hw'
  · next hdir =>
    subst hw'
    have hdns : Function.update w.includes Include.dns none .dns = none := Function.update_self _ _ _
    refine ⟨⟨fun hnone => ?_, fun hsome => ?_, h.auto, h.manual⟩, hdns⟩
    · have hnone : w.confdir = false := hnone
      rw [hdir] at hnone
      cases hnone
    · have hsome : (Function.update w.includes Include.dns none .dns).isSome = true := hsome
      rw [hdns] at hsome
      cases hsome
  · next hdir =>
    subst hw'
    exact ⟨h, h.confdir (Bool.eq_false_iff.2 hdir) .dns⟩

theorem call_inv {c : Call} (h : Inv w manual) : Inv (c.script.run (answer e) w).2
    (nextManual manual (c.script.run (answer e) w).2 (.call c e)) := by
  cases c with
  | enterBareMode =>
    unfold Call.script
    rw [Proc.run_bind, Proc.run_bind]
    exact ⟨confdir_openDns h.confdir, fun _ => rfl, (fun htrue => nomatch htrue), fun _ => .inr rfl⟩
  | exitBareMode =>
    unfold Call.script
    rw [Proc.run_bind]
    obtain ⟨hinv, hdns⟩ := closeDns_ends (e := e) h rfl
    refine ⟨hinv.confdir, fun hsome => ?_, (fun htrue => nomatch htrue), (fun htrue => nomatch htrue)⟩
    have hsome : ((closeDns.run (answer e) w).2.includes .dns).isSome = true := hsome
    rw [hdns] at hsome
    cases hsome
  | disconnect => exact (closeDns_ends h rfl).1
  | applyConfig => exact (closeDns_ends h rfl).1

end

/-! ## Histories -/

theorem step_inv {s : State} (h : Inv s.world s.manual) :
    Inv (machine.step s ev).world (machine.step s ev).manual := by
  cases ev with
  | tick e => exact (tick_ends h rfl).1.settle
  | call c e => exact call_inv h

/-- If no pass that finds nothing out comes while automatic bare mode is on, a pass that detects no
portal leaves nothing of one. -/
theorem portal_effects_end {s : State} {es : List Event} {e : Env} (hs : Inv s.world s.manual)
    (hes : machine.Admits Settles s (es ++ [.tick e]))
    (hnone : (tick.run (answer e) (machine.run s es).world).1.portal = none) :
    Clean (machine.run s (es ++ [.tick e])).world (machine.run s (es ++ [.tick e])).manual := by
  obtain ⟨hes, hsettles, -⟩ := Machine.admits_append.1 hes
  have hinv := Machine.invariant (I := fun s : State => Inv s.world s.manual)
    (fun _ _ _ h => step_inv h) hes hs
  rw [Machine.run_append]
  exact (tick_ends hinv rfl).2 hsettles hnone

def boot (confdir : Bool) : State where
  world := ⟨confdir, fun _ => none, [], none, .missing⟩
  manual := false

theorem boot_inv : Inv (boot confdir).world (boot confdir).manual :=
  ⟨fun _ _ => rfl, nofun, nofun, nofun⟩

/-- Whatever passes and calls have come, nothing overrides the DNS unless bare mode is on record. -/
theorem override_recorded (confdir : Bool) (es : List Event) :
    Inv (machine.run (boot confdir) es).world (machine.run (boot confdir) es).manual :=
  List.foldlRecOn (motive := fun s : State => Inv s.world s.manual) es _ boot_inv
    fun _ h _ _ => step_inv h

def upEnv (autoPortal : Bool) (response : Except Text Response) : Env where
  settings := some ⟨some "phy1-sta0".toList, true, ["10.0.3.5"], autoPortal⟩
  probe := fun _ _ _ => response
  repeaterDns := ["10.0.3.5"]
  time := 100

def redirect : Except Text Response := .ok ⟨302, some "http://login.example.com/".toList, none, []⟩

def timeout : Except Text Response := .error "timeout"

/-- The portal is detected, the user enters bare mode by hand, and the probes fail after that. -/
theorem portal_effects_end_manual :
    let es := [.tick (upEnv false redirect), .call .enterBareMode (upEnv false redirect)]
    machine.Admits Settles (boot true) (es ++ [.tick (upEnv false timeout)]) ∧
      ((machine.run (boot true) es).world.includes .rebind).isSome = true ∧
      Clean (machine.run (boot true) (es ++ [.tick (upEnv false timeout)])).world
        (machine.run (boot true) (es ++ [.tick (upEnv false timeout)])).manual := by
  have hadmits : machine.Admits Settles (boot true) ([.tick (upEnv false redirect),
      .call .enterBareMode (upEnv false redirect)] ++ [.tick (upEnv false timeout)]) :=
    ⟨.inr (by decide), trivial, .inr (by decide), trivial⟩
  exact ⟨hadmits, by decide, portal_effects_end boot_inv hadmits (by decide)⟩

/-- The portal is detected with automatic bare mode, and the probes fail after that. -/
theorem auto_mode_left_on :
    let s := machine.run (boot true) [.tick (upEnv true redirect)]
    let t := machine.run (boot true) [.tick (upEnv true redirect), .tick (upEnv true timeout)]
    (tick.run (answer (upEnv true timeout)) s.world).1.portal = none ∧
      t.world.table.detected = some false ∧ t.world.table.autoBareMode = some true ∧
      (t.world.includes .dns).isSome = true ∧ t.manual = false ∧ ¬Clean t.world t.manual := by
  refine ⟨by decide, by decide, by decide, by decide, by decide, fun hclean => ?_⟩
  exact hclean.auto (by decide)

end GlXe3000.Portal
