import GlXe3000.Cellular.Upgrade.OneTool

/-! # What is flashed and what was checked

`check_cellular_local` leaves its findings in files, and `upgrade_cellular local` trusts them: a
directory, a path and a type that may be from an earlier package, or from a check that said no. They
are those of the uploaded zip where the check was the last thing that happened to it. -/

namespace GlXe3000.Cellular.Upgrade

/-- What a tool was given, the zip at that time, and the status of the last check of that zip. -/
structure Flash where
  contents : Option Package
  zip : Option Package
  status : Option Int
  deriving DecidableEq

structure Audit where
  state : State
  checked : Option Int := none
  ready : Bool := false
  flashes : List Flash := []

/-- The tool the run `p` is about to start. -/
def State.launching (s : State) (p : Nat) : Option Tool :=
  match (s.runs p).next with
  | some (.launch t) => some t
  | _ => none

def usable (status : Option Int) : Bool := status = some 0 ∨ status = some 1

namespace Audit

def step (a : Audit) (ev : Event) : Audit :=
  let state := a.state.step ev
  match ev with
  | .upgradeCellularLocal _ => { a with state, ready := false }
  | .checkCellularLocal e =>
    match (Upgrade.checkCellularLocal e a.state.world).1 with
    | none => { a with state }
    | some status =>
      { a with state, checked := status, ready := usable status && e.unzipped.isNone }
  | .uploadBegins | .uploadEnds _ | .resetCellularUpgradeStatus | .reboot =>
    { a with state, checked := none, ready := false }
  | .step p _ =>
    match a.state.launching p with
    | none => { a with state }
    | some t =>
      { a with
        state
        flashes := ⟨a.state.world.contents t.source, a.state.world.zip, a.checked⟩ :: a.flashes }
  | .upgradeCellularOnline _ _ | .toolEnds _ _ => { a with state }

def machine : Machine Audit Event := ⟨step⟩

/-- An upgrade comes after a check that was complete and said yes, with nothing in between; and
while a script or a tool is alive, there is no upload, check or reset. Downloads are another matter. -/
def JustChecked (a : Audit) : Event → Prop
  | .upgradeCellularLocal _ => a.ready = true
  | .upgradeCellularOnline _ _ => False
  | .checkCellularLocal _ | .uploadBegins | .uploadEnds _ | .resetCellularUpgradeStatus =>
    ∀ p, a.state.Idle p
  | _ => True

end Audit

/-! ## The script

While the script runs, the files it reads stay as they are, up to its own `rm`. -/

inductive Stage
  | intact
  | spent
  | moot
  deriving DecidableEq

section
variable (kind : Option Kind) (path : Option Dir)

def Tool.Fits (t : Tool) : Prop :=
  t = if kind = some .diff then .quecUpload else .qfirehose (path.getD .root)

def Stage.allows : Stage → Act → Prop
  | .moot, _ => True
  | _, .fetch | _, .unzip _ => False
  | .intact, .launch t => t.Fits kind path
  | .spent, .launch _ => False
  | _, _ => True

def Stage.next : Stage → (a : Act) → Answer a → Stage
  | .intact, .readType, r => if r = kind then .intact else .moot
  | .intact, .readPath, r => if r = path then .intact else .moot
  | .intact, .rmZip, _ | .intact, .rmDir _, _ => .spent
  | stage, _, _ => stage

abbrev Trusts (stage : Stage) (m : Script Unit) : Prop :=
  m.Obeys (Stage.allows kind path) (Stage.next kind path) stage fun _ _ => True

end

section
variable {kind : Option Kind} {path : Option Dir}

theorem trusts_moot (m : Script Unit) : Trusts kind path .moot m := by
  induction m with
  | ret x => trivial
  | act a k ih => exact ⟨trivial, fun r => by simpa [Stage.next] using ih r⟩

theorem trusts_flashDiff (h : kind = some .diff) :
    flashDiff.Obeys (Stage.allows kind path) (Stage.next kind path) .intact fun _ _ => True := by
  refine .perform_bind (show Tool.Fits kind path .quecUpload from (if_pos h).symm) fun _ => ?_
  refine .perform_bind trivial fun _ => ?_
  refine .perform_bind trivial fun ended => ?_
  split
  · exact .perform_bind trivial fun _ => trivial
  · trivial

theorem trusts_flashFull (h : kind ≠ some .diff) :
    (flashFull (path.getD .root)).Obeys (Stage.allows kind path) (Stage.next kind path) .intact
      fun _ _ => True := by
  have hfits : Tool.Fits kind path (.qfirehose (path.getD .root)) := (if_neg h).symm
  refine .perform_bind hfits fun _ => ?_
  refine .perform_bind trivial fun ok => ?_
  split
  · trivial
  refine .perform_bind hfits fun _ => ?_
  refine .perform_bind trivial fun ok => ?_
  split
  · trivial
  · exact .perform_bind trivial fun _ => trivial

theorem trusts_flash : Trusts kind path .intact (flash kind (path.getD .root)) := by
  refine .perform_bind trivial fun ok => ?_
  split
  · have hflash : (if kind = some .diff then flashDiff else flashFull (path.getD .root)).Obeys
        (Stage.allows kind path) (Stage.next kind path) .intact fun _ _ => True := by
      split
      · exact trusts_flashDiff ‹_›
      · exact trusts_flashFull ‹_›
    refine hflash.bind fun stage done _ => ?_
    split
    · cases stage <;> exact ⟨trivial, fun _ => trivial⟩
    · trivial
  · trivial

theorem trusts_upgradeLocal : Trusts kind path .intact upgradeLocal := by
  refine .perform_bind trivial fun kind' => ?_
  simp only [Stage.next]
  split
  · next hkind =>
    subst hkind
    refine .perform_bind trivial fun path' => ?_
    simp only [Stage.next]
    split
    · next hpath => subst hpath; exact trusts_flash
    · exact trusts_moot _
  · exact trusts_moot _

end

/-! ## The files -/

def World.Prepared (w : World) : Prop :=
  ∃ z, w.zip = some z ∧ (w.upgradeType ≠ some .diff → w.dirs (w.unzipPath.getD .root) = some z)

theorem check_prepares {e : Checking}
    (h : (checkCellularLocal e w).1 = some status) (hstatus : usable status = true)
    (he : e.unzipped = none) : (checkCellularLocal e w).2.Prepared := by
  revert h
  unfold checkCellularLocal
  cases w.zip with
  | none => exact fun h => (by cases h)
  | some z =>
    simp only [he, Option.getD_none, Option.bind_some]
    cases hmeta : z.metadata with
    | none => exact fun _ => ⟨z, rfl, fun _ => Function.update_self ..⟩
    | some m =>
      cases m with
      | unreadable => exact fun _ => ⟨z, rfl, fun _ => Function.update_self ..⟩
      | malformed =>
        intro h
        obtain rfl : packageStatus e.modem (some z) = status := Option.some.inj h
        simp [packageStatus, hmeta, usable] at hstatus
      | fields f =>
        dsimp only
        split
        · exact fun _ => ⟨z, rfl, fun h => absurd rfl h⟩
        · exact fun _ => ⟨z, rfl, fun _ => Function.update_self ..⟩

theorem answer_stage {stage : Stage} {w : World}
    (hstage : stage ≠ .moot) (ha : stage.allows w.upgradeType w.unzipPath a) :
    (w.answer p e a).2.upgradeType = w.upgradeType ∧ (w.answer p e a).2.unzipPath = w.unzipPath ∧
      stage.next w.upgradeType w.unzipPath a (w.answer p e a).1 ≠ .moot ∧
      (stage.next w.upgradeType w.unzipPath a (w.answer p e a).1 = .intact →
        stage = .intact ∧ (w.Prepared → (w.answer p e a).2.Prepared)) := by
  cases stage with
  | moot => exact absurd rfl hstage
  | intact =>
    cases a with
    | fetch | unzip => exact ha.elim
    | rmZip | rmDir => exact ⟨rfl, rfl, Stage.noConfusion, Stage.noConfusion⟩
    | readType | readPath => simp [World.answer, Stage.next]
    | _ => exact ⟨rfl, rfl, Stage.noConfusion, fun _ => ⟨rfl, id⟩⟩
  | spent =>
    cases a with
    | fetch | unzip | launch => exact ha.elim
    | _ => exact ⟨rfl, rfl, Stage.noConfusion, Stage.noConfusion⟩

theorem contents_of_fits {w : World} {t : Tool} (h : w.Prepared)
    (ht : t.Fits w.upgradeType w.unzipPath) : w.contents t.source = w.zip ∧ w.zip ≠ none := by
  obtain ⟨z, hzip, hdir⟩ := h
  refine ⟨?_, by simp [hzip]⟩
  unfold Tool.Fits at ht
  subst ht
  split
  · rfl
  · next hkind => exact (hdir hkind).trans hzip.symm

/-! ## Runs -/

namespace Audit

def Usable (a : Audit) : Prop := a.state.world.Prepared ∧ usable a.checked = true

def Behaves (a : Audit) (m : Script Unit) : Prop :=
  ∃ stage, stage ≠ .moot ∧
    Trusts a.state.world.upgradeType a.state.world.unzipPath stage m ∧ (stage = .intact → a.Usable)

structure Vetted (a : Audit) : Prop where
  single : a.state.Single
  runs : ∀ p, a.Behaves (a.state.runs p)
  ready : a.ready = true → a.Usable ∧ ∀ p, a.state.Idle p
  flashes : ∀ f ∈ a.flashes, f.contents = f.zip ∧ f.zip ≠ none ∧ usable f.status = true

theorem Vetted.careful {a : Audit} (h : a.Vetted) (hev : JustChecked a ev) :
    Careful a.state ev := by
  have htools : (∀ p, a.state.Idle p) →
      ∀ p t, a.state.world.tools p = some t → t.inTmp = false := by
    intro hidle p t ht
    cases (hidle p).2.symm.trans ht
  cases ev with
  | upgradeCellularLocal p => exact (h.ready hev).2
  | upgradeCellularOnline p kind => exact hev.elim
  | checkCellularLocal e => exact fun p => (hev p).2
  | resetCellularUpgradeStatus | uploadBegins | uploadEnds => exact htools hev
  | step | toolEnds | reboot => trivial

theorem behaves_of_isDone {a : Audit} {m : Script Unit} (h : m.isDone = true) : a.Behaves m := by
  cases m with
  | ret x => exact ⟨.spent, Stage.noConfusion, trivial, Stage.noConfusion⟩
  | act b k => cases h

variable {a : Audit}

theorem Vetted.rest {a' : Audit} (h : a.Vetted) (hsingle : a'.state.Single)
    (hdone : ∀ p, (a'.state.runs p).isDone = true) (hready : a'.ready = false)
    (hflashes : a'.flashes = a.flashes) : a'.Vetted where
  single := hsingle
  runs p := behaves_of_isDone (hdone p)
  ready hr := by rw [hready] at hr; cases hr
  flashes := hflashes ▸ h.flashes

theorem Vetted.start (h : a.Vetted) (hready : a.ready = true) :
    (a.step (.upgradeCellularLocal p)).Vetted := by
  obtain ⟨husable, hidle⟩ := h.ready hready
  obtain ⟨z, hzip, -⟩ := husable.1
  have hstate : a.state.step (.upgradeCellularLocal p) =
      { a.state with runs := Function.update a.state.runs p upgradeLocal } := by
    simp only [State.step, hzip, Option.isSome_some, if_true, State.begin, if_pos (hidle p)]
  exact
    { single := h.single.step (h.careful hready)
      runs := by
        simp only [step, hstate]
        refine forall_update (I := fun _ m => Behaves _ m)
          (fun q _ => behaves_of_isDone (hidle q).1) ?_
        exact ⟨.intact, Stage.noConfusion, trusts_upgradeLocal, fun _ => husable⟩
      ready := fun hr => (by cases hr)
      flashes := h.flashes }

theorem check_none (h : (checkCellularLocal e w).1 = none) : (checkCellularLocal e w).2 = w := by
  revert h
  unfold checkCellularLocal
  split
  · exact fun _ => rfl
  · dsimp only
    split
    · exact fun h => (by cases h)
    · split <;> exact fun h => (by cases h)
    · exact fun h => (by cases h)

theorem Vetted.check (h : a.Vetted) (hidle : ∀ p, a.state.Idle p) :
    (a.step (.checkCellularLocal e)).Vetted := by
  have hsingle : (a.state.step (.checkCellularLocal e)).Single := h.single.step (h.careful hidle)
  have hidle' : ∀ p, (a.state.step (.checkCellularLocal e)).Idle p := fun p => (hidle p).check
  cases hresult : (checkCellularLocal e a.state.world).1 with
  | none => simpa only [Audit.step, hresult, State.step, check_none hresult] using h
  | some status =>
    simp only [Audit.step, hresult]
    exact
      { single := hsingle
        runs := fun p => behaves_of_isDone (hidle' p).1
        ready := fun hr => by
          obtain ⟨hstatus, hunzip⟩ := Bool.and_eq_true_iff.1 hr
          exact ⟨⟨check_prepares hresult hstatus (Option.isNone_iff_eq_none.1 hunzip), hstatus⟩,
            hidle'⟩
        flashes := h.flashes }

section
variable {p : Nat} {e : Reply} {b : Act} {k : Answer b → Script Unit}

theorem Vetted.others_done (h : a.Vetted) (hrun : a.state.runs p = .act b k) :
    ∀ q, q ≠ p → (a.state.runs q).isDone = true := by
  intro q hq
  by_contra hdone
  have hp : ¬a.state.Idle p := fun hidle => by
    have hd := hidle.1
    rw [hrun] at hd
    cases hd
  exact hq (h.single q p (fun hidle => hdone hidle.1) hp)

theorem Vetted.behaves_act (h : a.Vetted) (hrun : a.state.runs p = .act b k)
    (flashes : List Flash) (q : Nat) :
    Behaves { a with state := a.state.perform p e, flashes } ((a.state.perform p e).runs q) := by
  unfold State.perform
  simp only [hrun, Proc.advance]
  by_cases hqp : q = p
  · subst hqp
    rw [Function.update_self]
    obtain ⟨stage, hmoot, htrusts, husable⟩ := h.runs q
    rw [hrun] at htrusts
    obtain ⟨htype, hpath, hnext, hintact⟩ := answer_stage (p := q) (e := e) hmoot htrusts.1
    refine ⟨_, hnext, ?_, fun hi => ?_⟩
    · simpa only [htype, hpath] using htrusts.2 _
    · obtain ⟨hstage, hprepared⟩ := hintact hi
      exact ⟨hprepared (husable hstage).1, (husable hstage).2⟩
  · rw [Function.update_of_ne hqp]
    exact behaves_of_isDone (h.others_done hrun q hqp)

theorem Vetted.launch {t : Tool} (h : a.Vetted) (hlaunch : a.state.launching p = some t) :
    a.state.world.contents t.source = a.state.world.zip ∧ a.state.world.zip ≠ none ∧
      usable a.checked = true := by
  have hnext : (a.state.runs p).next = some (.launch t) := by
    unfold State.launching at hlaunch
    split at hlaunch
    · next hnext => rw [hnext, Option.some.inj hlaunch]
    · cases hlaunch
  obtain ⟨stage, hmoot, htrusts, husable⟩ := h.runs p
  have hallowed := htrusts.allowed hnext
  cases stage with
  | moot => exact absurd rfl hmoot
  | spent => exact hallowed.elim
  | intact =>
    obtain ⟨hcontents, hzip⟩ := contents_of_fits (husable rfl).1 hallowed
    exact ⟨hcontents, hzip, (husable rfl).2⟩

theorem Vetted.act (h : a.Vetted) (hrun : a.state.runs p = .act b k)
    (hstep : a.state.step (.step p e) = a.state.perform p e) : (a.step (.step p e)).Vetted := by
  have hcareful : Careful a.state (.step p e) := trivial
  have hsingle : (a.state.perform p e).Single := hstep ▸ h.single.step hcareful
  have hready : a.ready ≠ true := by
    intro hr
    have hdone := ((h.ready hr).2 p).1
    rw [hrun] at hdone
    cases hdone
  simp only [Audit.step, hstep]
  split
  · exact
      { single := hsingle
        runs := h.behaves_act hrun a.flashes
        ready := fun hr => absurd hr hready
        flashes := h.flashes }
  · next t hlaunch =>
    exact
      { single := hsingle
        runs := h.behaves_act hrun _
        ready := fun hr => absurd hr hready
        flashes := List.forall_mem_cons.2 ⟨h.launch hlaunch, h.flashes⟩ }

theorem Vetted.perform (h : a.Vetted) : (a.step (.step p e)).Vetted := by
  by_cases hblocked : a.state.blocked p = true
  · -- The script waits for its tool.
    have hnext : (a.state.runs p).next = some .wait :=
      of_decide_eq_true (Bool.and_eq_true_iff.1 hblocked).1
    simpa only [Audit.step, State.step, hblocked, if_true, State.launching, hnext] using h
  · have hstep : a.state.step (.step p e) = a.state.perform p e := if_neg hblocked
    cases hrun : a.state.runs p with
    | act b k => exact h.act hrun hstep
    | ret x =>
      have hperform : a.state.perform p e = a.state := by
        have hruns : Function.update a.state.runs p (.ret x) = a.state.runs := by
          rw [← hrun, Function.update_eq_self]
        simp only [State.perform, hrun, Proc.advance, hruns]
      simpa only [Audit.step, hstep, hperform, State.launching, hrun, Proc.next] using h

theorem Vetted.toolEnds (h : a.Vetted) : (a.step (.toolEnds p success)).Vetted := by
  have hworld : (a.state.step (.toolEnds p success)).runs = a.state.runs ∧
      (a.state.step (.toolEnds p success)).world.upgradeType = a.state.world.upgradeType ∧
      (a.state.step (.toolEnds p success)).world.unzipPath = a.state.world.unzipPath ∧
      (a.state.world.Prepared → (a.state.step (.toolEnds p success)).world.Prepared) := by
    simp only [State.step]
    split <;> exact ⟨rfl, rfl, rfl, id⟩
  obtain ⟨hruns, htype, hpath, hprepared⟩ := hworld
  have hcareful : Careful a.state (.toolEnds p success) := trivial
  exact
    { single := h.single.step hcareful
      runs := fun q => by
        obtain ⟨stage, hmoot, htrusts, husable⟩ := h.runs q
        refine ⟨stage, hmoot, ?_, fun hs => ⟨hprepared (husable hs).1, (husable hs).2⟩⟩
        simpa only [Audit.step, hruns, htype, hpath] using htrusts
      ready := fun hr => by
        obtain ⟨husable, hidle⟩ := h.ready hr
        exact ⟨⟨hprepared husable.1, husable.2⟩, fun q => (hidle q).toolEnds⟩
      flashes := h.flashes }

end

theorem Vetted.step (hev : JustChecked a ev) (h : a.Vetted) : (a.step ev).Vetted := by
  have hsingle : (a.state.step ev).Single := h.single.step (h.careful hev)
  cases ev with
  | upgradeCellularLocal p => exact h.start hev
  | upgradeCellularOnline p kind => exact hev.elim
  | resetCellularUpgradeStatus => exact h.rest hsingle (fun _ => rfl) rfl rfl
  | checkCellularLocal e => exact h.check hev
  | uploadBegins => exact h.rest hsingle (fun p => (hev p).1) rfl rfl
  | uploadEnds package => exact h.rest hsingle (fun p => (hev p).1) rfl rfl
  | step p e => exact h.perform
  | toolEnds p success => exact h.toolEnds
  | reboot => exact h.rest hsingle (fun _ => rfl) rfl rfl

end Audit

/-- In every run whose upgrades follow a check, what a local upgrade hands to its tool is what is in
the uploaded zip, and the last check of that zip returned 0 or 1. -/
theorem flashed_is_checked (dirs : Dir → Option Package) (es : List Event)
    (h : Audit.machine.Admits Audit.JustChecked { state := booted dirs } es) :
    ∀ f ∈ (Audit.machine.run { state := booted dirs } es).flashes,
      f.contents = f.zip ∧ f.zip ≠ none ∧ (f.status = some 0 ∨ f.status = some 1) := by
  have hbooted : Audit.Vetted { state := booted dirs } :=
    { single := fun p q hp => absurd ⟨rfl, rfl⟩ hp
      runs := fun p => Audit.behaves_of_isDone rfl
      ready := fun hr => (by cases hr)
      flashes := fun f hf => (by cases hf) }
  intro f hf
  obtain ⟨hcontents, hzip, hstatus⟩ :=
    (Machine.invariant (fun a ev => Audit.Vetted.step) h hbooted).flashes f hf
  exact ⟨hcontents, hzip, of_decide_eq_true hstatus⟩

/-- A package without metadata is uploaded, checked with status 1 and flashed. -/
theorem flashed_is_checked_plain :
    let es := [Event.uploadBegins, .uploadEnds { image := 1 }, .checkCellularLocal {},
      .upgradeCellularLocal 0] ++ actions 0 4
    let a := Audit.machine.run { state := booted fun _ => none } es
    Audit.machine.Admits Audit.JustChecked { state := booted fun _ => none } es ∧
      a.flashes = [⟨some { image := 1 }, some { image := 1 }, some 1⟩] ∧
      ∀ f ∈ a.flashes, f.contents = f.zip ∧ f.zip ≠ none ∧
        (f.status = some 0 ∨ f.status = some 1) := by
  intro es a
  have hadmits : Audit.machine.Admits Audit.JustChecked { state := booted fun _ => none } es := by
    refine Machine.admits_append.2 ⟨⟨?_, ?_, ?_, rfl, trivial⟩, ?_⟩
    · exact fun p => ⟨rfl, rfl⟩
    · exact fun p => ⟨rfl, rfl⟩
    · exact fun p => ⟨rfl, rfl⟩
    · refine Machine.Admits.of_forall (fun ev hev s => ?_) _
      obtain ⟨-, rfl⟩ := List.mem_replicate.1 hev
      trivial
  exact ⟨hadmits, by decide, flashed_is_checked _ es hadmits⟩

/-- A package is checked and replaced, and the upgrade flashes what was unpacked from the first; and
a package whose metadata is rejected is flashed all the same. -/
theorem unchecked_package_flashed :
    let first : Package := { image := 1 }
    let second : Package := { image := 2 }
    let bad : Package := { metadata := some .malformed, image := 3 }
    let replaced := Audit.machine.run { state := booted fun _ => none }
      ([Event.uploadEnds first, .checkCellularLocal { tmpHasRoom := false }, .uploadBegins,
        .uploadEnds second, .upgradeCellularLocal 0] ++ actions 0 4)
    let rejected := Audit.machine.run { state := booted fun _ => none }
      ([Event.uploadEnds bad, .checkCellularLocal {}, .upgradeCellularLocal 0] ++ actions 0 4)
    replaced.flashes = [⟨some first, some second, none⟩] ∧
      rejected.flashes = [⟨some bad, some bad, some (-1)⟩] := by
  decide

end GlXe3000.Cellular.Upgrade
