import GlXe3000.Lib.Limiter
import GlXe3000.Cellular.Watchdog.Audit

/-! # How often the modem is hard-reset

`modem_hard_reset` is a `Budget`: its window, its count of resets that did not help and the time of
the last one are the three fields, and a confirmed-good tick is the only thing that gives the count
back. So the resets of any stretch without such a tick are bounded by its length, whoever asks for
them and however they end. -/

namespace GlXe3000.Cellular.Watchdog

namespace Entry

def isHardReset : Entry → Bool
  | .start (.hardReset _) _ => true
  | _ => false

def isGood : Entry → Bool
  | .good => true
  | _ => false

end Entry

namespace State

def hardResets (s : State) : Nat := s.log.countP Entry.isHardReset

def confirmedGood (s : State) : Nat := s.log.countP Entry.isGood

def budget (s : State) : Budget := ⟨s.resetWindowStart, s.resetCount, s.lastHardReset⟩

end State

/-- The clock does not go back, neither during the tick nor since the last one. -/
def ClockMonotone (s : State) (env : Nat → World) : Prop :=
  (∀ i j, i ≤ j → (env i).clock ≤ (env j).clock) ∧ s.clock ≤ (env 0).clock

section
variable {c : Config} {s s' : State} {now : Nat}

theorem rollResetWindow_budget (c : Config) (now : Nat) (s : State) :
    (rollResetWindow c now s).budget = s.budget.roll c.modemResetWindow now := by
  by_cases h : s.resetWindowStart + c.modemResetWindow < now <;>
    simp [rollResetWindow, Budget.roll, State.budget, h]

theorem resetRefused_eq (c : Config) (now : Nat) (s : State) :
    resetRefused c now s = s.budget.refuses c.modemResetMax c.modemResetBackoff now := rfl

theorem budget_eq (h : s'.limits = s.limits) : s'.budget = s.budget := by
  simp only [State.limits, Limits.mk.injEq] at h
  simp only [State.budget, h]

end

/-- Since a tick began with the clock at `t₀`, `r` resets on record and `g` confirmed-good ticks:
without another of these, the resets since are accounted for up to the time `t`. -/
structure Accounted (c : Config) (t₀ r g t : Nat) (s : State) : Prop where
  good_le : g ≤ s.confirmedGood
  account : s.confirmedGood = g → ∃ n, s.hardResets = r + n ∧
    s.budget.Account c.modemResetMax c.modemResetWindow c.modemResetBackoff t₀ t n

namespace Accounted
variable {c : Config} {t₀ r g t : Nat} {s s' : State}

theorem wait (h : Accounted c t₀ r g t s) (ht : t ≤ t') : Accounted c t₀ r g t' s :=
  ⟨h.good_le, fun hg => let ⟨n, hn, ha⟩ := h.account hg; ⟨n, hn, ha.wait ht⟩⟩

theorem congr (h : Accounted c t₀ r g t s) (hg : s'.confirmedGood = s.confirmedGood)
    (hr : s'.hardResets = s.hardResets) (hb : s'.budget = s.budget) : Accounted c t₀ r g t s' :=
  ⟨hg ▸ h.good_le, by rw [hg, hr, hb]; exact h.account⟩

theorem append (h : Accounted c t₀ r g t s) {e : Entry} (he : e.isHardReset = false)
    (hg : e.isGood = false) (hlog : s'.log = s.log ++ [e]) (hb : s'.budget = s.budget) :
    Accounted c t₀ r g t s' :=
  h.congr (by simp [State.confirmedGood, hlog, hg]) (by simp [State.hardResets, hlog, he]) hb

theorem audit (c : Config) {env : Nat → World} (t₀ r g : Nat)
    (hmono : ∀ i j, i ≤ j → (env i).clock ≤ (env j).clock) :
    Audit c env fun i s => Accounted c t₀ r g (env i).clock s where
  look i s h := h.wait (hmono i (i + 1) (Nat.le_succ i))
  frame i s s' hl hlog h :=
    h.congr (by simp [State.confirmedGood, hlog]) (by simp [State.hardResets, hlog]) (budget_eq hl)
  note i s e he h := by
    refine h.append (e := e) ?_ ?_ rfl rfl <;> cases e <;> first | rfl | simp [Entry.isNote] at he
  setCfun i s n h := h.append rfl rfl rfl rfl
  rung i s rung hrung h := by
    refine h.append (e := .start rung false) ?_ rfl rfl rfl
    cases rung <;> first | rfl | exact absurd rfl (hrung _).2
  redial i s nested h := by
    have hb : (countRedial c (env i).clock s).budget = s.budget := by
      unfold countRedial; split_ifs <;> rfl
    have hlog := countRedial_log c (env i).clock s
    have h' : Accounted c t₀ r g (env i).clock (countRedial c (env i).clock s) :=
      h.congr (by simp [State.confirmedGood, hlog]) (by simp [State.hardResets, hlog]) hb
    refine wait ?_ (hmono i (i + 1) (Nat.le_succ i))
    refine h'.append ?_ ?_ rfl rfl <;> split_ifs <;> rfl
  reset i s nested h := by
    refine wait ?_ (hmono i (i + 1) (Nat.le_succ i))
    have hgood : (rollResetWindow c (env i).clock s).confirmedGood = s.confirmedGood := by
      simp [State.confirmedGood, rollResetWindow_log]
    have hresets : (rollResetWindow c (env i).clock s).hardResets = s.hardResets := by
      simp [State.hardResets, rollResetWindow_log]
    dsimp only
    split_ifs with href
    · refine ⟨hgood ▸ h.good_le, fun hg => ?_⟩
      obtain ⟨n, hn, ha⟩ := h.account (hgood ▸ hg)
      refine ⟨n, hresets.trans hn, ?_⟩
      rw [rollResetWindow_budget]
      exact ha.roll (Nat.le_refl _)
    · have hcount : ∀ l : List Entry, (l ++ [Entry.start (.hardReset (env i).clock) nested]).countP
          Entry.isGood = l.countP Entry.isGood := fun l => by simp [Entry.isGood]
      refine ⟨?_, fun hg => ?_⟩
      · simpa [State.confirmedGood, hcount, rollResetWindow_log] using h.good_le
      · obtain ⟨n, hn, ha⟩ := h.account
          (by simpa [State.confirmedGood, hcount, rollResetWindow_log] using hg)
        refine ⟨n + 1, ?_, ?_⟩
        · simp only [State.hardResets, rollResetWindow_log] at hn ⊢
          simp [Entry.isHardReset, hn, Nat.add_assoc]
        · rw [resetRefused_eq, rollResetWindow_budget] at href
          have := (ha.roll (Nat.le_refl _)).grant (by simpa using href)
          rw [← rollResetWindow_budget] at this
          exact this
  resetDone i s h := h.append rfl rfl rfl rfl
  standDown i s h := h.append rfl rfl rfl rfl
  good i s h := by
    have hgood : g < (s.log ++ [Entry.good]).countP Entry.isGood := by
      have := h.good_le
      simp only [State.confirmedGood] at this
      simp [Entry.isGood]
      omega
    exact ⟨Nat.le_of_lt hgood, fun hg => absurd hg (Nat.ne_of_gt hgood)⟩

theorem step (h : Accounted c t₀ r g s.clock s) {env : Nat → World} (hclock : ClockMonotone s env) :
    Accounted c t₀ r g (s.step c env).clock (s.step c env) := by
  have htick := (audit c t₀ r g hclock.1).tick 0 s (h.wait hclock.2)
  exact htick.congr rfl rfl rfl

end Accounted

/-- A run without a confirmed-good tick, of `T` seconds on a clock that does not go back, starts at
most `MAX * (T / WINDOW + 2) + T / BACKOFF + 1` hard resets. -/
theorem hardResets_le (c : Config) (s : State) (es : List (Nat → World))
    (hwindow : 0 < c.modemResetWindow) (hbackoff : 0 < c.modemResetBackoff)
    (hclock : (machine c).Admits ClockMonotone s es)
    (hgood : ((machine c).run s es).confirmedGood = s.confirmedGood) :
    let T := ((machine c).run s es).clock - s.clock
    ((machine c).run s es).hardResets - s.hardResets ≤
      c.modemResetMax * (T / c.modemResetWindow + 2) + T / c.modemResetBackoff + 1 := by
  have hstart : Accounted c s.clock s.hardResets s.confirmedGood s.clock s :=
    ⟨Nat.le_refl _, fun _ => ⟨0, rfl, .zero ..⟩⟩
  have hend := Machine.invariant
    (I := fun t => Accounted c s.clock s.hardResets s.confirmedGood t.clock t)
    (fun t env hg h => h.step hg) hclock hstart
  obtain ⟨n, hn, ha⟩ := hend.account hgood
  have := ha.le hwindow hbackoff
  dsimp only
  omega

/-- Three ticks of a modem that nothing brings back, on a clock that stands still. -/
theorem hardResets_le_dead_modem :
    let es : List (Nat → World) := List.replicate 3 fun _ => deadModem
    let s : State := { initial {} with clock := 100000 }
    ((machine {}).run s es).hardResets = 2 ∧
      ((machine {}).run s es).hardResets - s.hardResets ≤ 3 * (0 / 3600 + 2) + 0 / 900 + 1 := by
  intro es s
  have hclock : (machine {}).Admits ClockMonotone s es :=
    ⟨⟨fun _ _ _ => Nat.le_refl _, Nat.le_refl _⟩, ⟨fun _ _ _ => Nat.le_refl _, Nat.le_refl _⟩,
      ⟨fun _ _ _ => Nat.le_refl _, Nat.le_refl _⟩, trivial⟩
  have hlength : ((machine {}).run s es).clock - s.clock = 0 := Nat.sub_self 100000
  have hle := hardResets_le {} s es (by decide) (by decide) hclock (by decide)
  rw [hlength] at hle
  exact ⟨by decide, hle⟩

end GlXe3000.Cellular.Watchdog
