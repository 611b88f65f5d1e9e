import GlXe3000.Cellular.Upgrade.System

/-! # One flash tool, left alone

Nothing keeps a second script from being started beside the first, and the RPC methods kill and
delete under `/tmp/upgrade_cellular` whatever goes on there. The flash is safe where the callers
take care: an upgrade is started only when none is alive, and the others are called only while no
tool works in that directory. -/

namespace GlXe3000.Cellular.Upgrade

inductive Source
  | zip
  | dir (d : Dir)
  deriving DecidableEq

def Tool.source : Tool → Source
  | .qfirehose d => .dir d
  | .quecUpload => .zip

def World.contents (w : World) : Source → Option Package
  | .zip => w.zip
  | .dir d => w.dirs d

/-- A call of the RPC, or a part of an upload. -/
def Event.isCall : Event → Bool
  | .step _ _ | .toolEnds _ _ | .reboot => false
  | _ => true

/-- The event neither ends a tool nor changes what it reads. -/
def State.Spares (s : State) (ev : Event) : Prop :=
  ∀ p t, s.world.tools p = some t → (s.step ev).world.tools p = some t ∧
    (s.step ev).world.contents t.source = s.world.contents t.source

/-- An upgrade is started when none is alive, a package is checked when no tool is at work, and the
status is reset and packages are uploaded while no tool works under `/tmp/upgrade_cellular`. -/
def Careful (s : State) : Event → Prop
  | .upgradeCellularLocal _ | .upgradeCellularOnline _ _ => ∀ p, s.Idle p
  | .checkCellularLocal _ => ∀ p, s.world.tools p = none
  | .resetCellularUpgradeStatus | .uploadBegins | .uploadEnds _ =>
    ∀ p t, s.world.tools p = some t → t.inTmp = false
  | _ => True

def State.Single (s : State) : Prop := ∀ p q, ¬s.Idle p → ¬s.Idle q → p = q

namespace State
variable {s : State} {p : Nat}

theorem Single.of_idle {s' : State} (h : s.Single) (hidle : ∀ q, s.Idle q → s'.Idle q) :
    s'.Single :=
  fun p q hp hq => h p q (mt (hidle p) hp) (mt (hidle q) hq)

theorem Single.start (hall : ∀ q, s.Idle q) : (s.begin p m).Single := by
  have hother : ∀ q, ¬(s.begin p m).Idle q → q = p := by
    intro q hq
    by_contra hqp
    refine hq ?_
    unfold begin
    split
    · exact ⟨by simpa only [Function.update_of_ne hqp] using (hall q).1, (hall q).2⟩
    · exact hall q
  exact fun q r hq hr => (hother q hq).trans (hother r hr).symm

theorem answer_tools {w : World} (h : q ≠ p) : (w.answer p e a).2.tools q = w.tools q := by
  cases a with
  | launch t => exact Function.update_of_ne h _ _
  | _ => rfl

theorem Idle.perform (h : s.Idle q) : (s.perform p e).Idle q := by
  unfold State.perform
  cases hrun : s.runs p with
  | ret x =>
    have hruns : Function.update s.runs p (.ret x) = s.runs := by
      rw [← hrun, Function.update_eq_self]
    simpa only [Proc.advance, hruns] using h
  | act a k =>
    have hqp : q ≠ p := by
      rintro rfl
      have hdone := h.1
      rw [hrun] at hdone
      cases hdone
    exact ⟨by simpa only [Function.update_of_ne hqp] using h.1, (answer_tools hqp).trans h.2⟩

theorem Idle.toolEnds (h : s.Idle q) : (s.step (.toolEnds p success)).Idle q := by
  simp only [State.step]
  split
  · refine ⟨h.1, ?_⟩
    by_cases hqp : q = p
    · subst hqp; exact Function.update_self ..
    · exact (Function.update_of_ne hqp ..).trans h.2
  · exact h

theorem check_tools (e : Checking) (w : World) : (checkCellularLocal e w).2.tools = w.tools := by
  unfold checkCellularLocal
  split
  · rfl
  · dsimp only
    split
    · rfl
    · split <;> rfl
    · rfl

theorem Idle.check (h : s.Idle q) : (s.step (.checkCellularLocal e)).Idle q :=
  ⟨h.1, by simpa [State.step, check_tools] using h.2⟩

theorem Single.step (hc : Careful s ev) (h : s.Single) : (s.step ev).Single := by
  cases ev with
  | upgradeCellularLocal p =>
    simp only [State.step]
    split
    · exact Single.start hc
    · exact h
  | upgradeCellularOnline p kind => exact Single.start hc
  | resetCellularUpgradeStatus =>
    exact h.of_idle fun q hq => ⟨rfl, by simp [State.step, hq.2]⟩
  | checkCellularLocal e => exact h.of_idle fun q hq => hq.check
  | uploadBegins => exact h.of_idle fun q hq => hq
  | uploadEnds package => exact h.of_idle fun q hq => hq
  | step p e =>
    simp only [State.step]
    split
    · exact h
    · exact h.of_idle fun q hq => hq.perform
  | toolEnds p success => exact h.of_idle fun q hq => hq.toolEnds
  | reboot => exact h.of_idle fun q hq => ⟨rfl, rfl⟩

end State

/-- `n` actions of the run `p`, each with success. -/
def actions (p n : Nat) : List Event := List.replicate n (.step p {})

end GlXe3000.Cellular.Upgrade
