import GlXe3000.Cellular.Watchdog.Audit

/-! # What the log of a tick may cost

A weight on log entries measures what a tick does: the rungs it starts, its hard resets, its
redials. `Weight` is what these measures share; for each of them one rung, with what it hands over
to, costs at most one. Whether a whole tick does is another matter: a hard reset that fails does not
end the tick, and neither does a reconnect after a re-lock. -/

namespace GlXe3000.Cellular.Watchdog
open Observer

def Rung.handsOver : Rung → Bool
  | .cfunCycle _ | .reconnect => true
  | _ => false

namespace Entry

def isCall : Entry → Bool
  | .start .. | .backOff => true
  | _ => false

def isHandOver : Entry → Bool
  | .start _ true | .backOff => true
  | _ => false

end Entry

structure Weight (μ : Entry → Nat) : Prop where
  rest : ∀ e, e.isCall = false → μ e = 0
  call : ∀ e, μ e ≤ 1
  handOver : ∀ r e, r.handsOver = true → e.isHandOver = true → μ (.start r false) + μ e ≤ 1

def State.cost (μ : Entry → Nat) (s : State) : Nat := (s.log.map μ).sum

theorem State.cost_append {μ : Entry → Nat} {s s' : State}
    (h : s'.log = s.log ++ [e]) : s'.cost μ = s.cost μ + μ e := by
  simp [State.cost, h]

/-- At most `n` has been spent, and `L` holds of the variables the tick tests. -/
def Spends (μ : Entry → Nat) (n : Nat) (L : Core → Prop) : Nat → State → Prop :=
  fun _ s => s.cost μ ≤ n ∧ L s.core

namespace Spends
variable {μ : Entry → Nat} {n m : Nat} {L L' : Core → Prop} {i j : Nat} {s s' : State}

theorem mono (h : Spends μ n L i s) (hn : n ≤ m) (hL : L s.core → L' s.core) :
    Spends μ m L' j s := ⟨Nat.le_trans h.1 hn, hL h.2⟩

theorem weaken (h : Spends μ n L i s) (hn : n ≤ m) : Spends μ m (fun _ => True) j s :=
  h.mono hn fun _ => trivial

theorem set (h : Spends μ n L i s) (hlog : s'.log = s.log) (hL : L s.core → L' s'.core) :
    Spends μ n L' i s' := ⟨by rw [State.cost, hlog]; exact h.1, hL h.2⟩

theorem append (h : Spends μ n L i s) (hlog : s'.log = s.log ++ [e])
    (he : n + μ e ≤ m) (hL : L s.core → L' s'.core) : Spends μ m L' i s' := by
  have := h.1
  exact ⟨by rw [State.cost_append hlog]; omega, hL h.2⟩

end Spends

/-- At most `n` has been spent. -/
abbrev Spent (μ : Entry → Nat) (n : Nat) : Nat → State → Prop := Spends μ n fun _ => True

/-- `L` survives a hard reset of the tick. -/
def ResetKeeps (c : Config) (env : Nat → World) (L : Core → Prop) : Prop :=
  ∀ i up s, L s.core → L (afterReset c up (env i).clock s).core

namespace Core

def PortEarly (c : Config) (k : Core) : Prop := k.atDead + 1 < c.atDeadTicks

def NodeEarly (c : Config) (k : Core) : Prop := k.qmiMissing + 1 < c.atDeadTicks

def PlaneEarly (c : Config) (k : Core) : Prop :=
  c.deadPlaneTicks = 0 ∨ k.deadPlaneTicks + 1 < c.deadPlaneTicks

def Early (c : Config) (k : Core) : Prop := k.PortEarly c ∧ k.NodeEarly c ∧ k.PlaneEarly c

/-- Nothing else is due either: one bad tick more is not too many, no loss of attach is being timed,
and an interface that is being waited for still has time. -/
def Calm (c : Config) (env : Nat → World) (k : Core) : Prop :=
  k.consecBad + 1 < c.offlineThreshold ∧ k.attachLostSince = 0 ∧
    (k.redialPending = true → ∀ i, (env i).clock < k.graceUntil)

end Core

/-- A hard reset that a tick starts of its own is free, or it works and so ends the tick. -/
def ResetEnds (μ : Entry → Nat) (env : Nat → World) : Prop :=
  (∀ t, μ (.start (.hardReset t) false) = 0) ∨ ∀ i, (env i).modemReset = true

namespace Weight
variable {μ : Entry → Nat} {c : Config} {env : Nat → World} {n d : Nat} {L : Core → Prop}

theorem free (hμ : Weight μ) {e : Entry} (he : e.isCall = false) : n + μ e ≤ n := by
  rw [hμ.rest e he]
  exact Nat.le_refl n

theorem free_note (hμ : Weight μ) {e : Entry} (he : e.isNote = true) : n + μ e ≤ n :=
  hμ.free (by cases e <;> first | rfl | simp [Entry.isNote] at he)

theorem plain (hμ : Weight μ) : Plain (Spends μ n L) where
  look _ _ h := h
  frame _ _ _ _ hc hlog h := h.set hlog fun hL => hc ▸ hL
  note _ _ _ he h := h.append rfl (hμ.free_note he) id

theorem loose (hμ : Weight μ) : Loose (Spent μ n) where
  look _ _ h := h
  frame _ _ _ _ hlog h := h.set hlog id
  note _ _ _ he h := h.append rfl (hμ.free_note he) id

theorem act_rest (hμ : Weight μ) {e : Entry} (he : e.isCall = false) :
    Keeps env (Spends μ n L) (act e) :=
  .modify fun _ _ h => h.append rfl (hμ.free he) id

/-! ## Rungs -/

theorem doRedial (hμ : Weight μ) (hback : μ .backOff ≤ d)
    (hstart : ∀ t, μ (.start (.redial t) nested) ≤ d) :
    Sat env (Spent μ n) (doRedial c nested) fun _ => Spent μ (n + d) := by
  refine (hμ.plain.observe _).and_then fun now => ?_
  refine Keeps.and_then (.modify fun i s h => h.set (countRedial_log c now s) id) fun _ => ?_
  refine Keeps.get.and_then fun s => Sat.ite (fun _ => ?_) fun _ => ?_
  · refine Sat.bind (R := fun _ => Spent μ (n + d)) ?_ fun _ => ?_
    · exact Sat.modify fun i s h => h.append rfl (by omega) id
    · exact Keeps.bind (hμ.loose.modify fun _ => rfl) fun _ => .pure _
  · refine Sat.bind (R := fun _ => Spent μ (n + d)) ?_ fun _ => ?_
    · exact Sat.modify fun i s h => h.append rfl (Nat.add_le_add_left (hstart now) n) id
    · refine Keeps.bind hμ.plain.checkSimSwap fun _ => .bind hμ.plain.redialSession fun _ => ?_
      exact .ite (.bind (hμ.loose.modify fun _ => rfl) fun _ => .pure _) (.pure _)

theorem modemHardReset (hμ : Weight μ) (hL : ResetKeeps c env L)
    (hd : ∀ t, μ (.start (.hardReset t) nested) ≤ d) :
    Sat env (Spends μ n L) (modemHardReset c nested) fun r i s =>
      Spends μ (n + d) L i s ∧
        ((∀ i, (env i).modemReset = true) → r = false → Spends μ n L i s) := by
  have hstay : ∀ i s, Spends μ n L i s → Spends μ (n + d) L i s ∧
      ((∀ i, (env i).modemReset = true) → false = false → Spends μ n L i s) :=
    fun i s h => ⟨h.mono (Nat.le_add_right n d) id, fun _ _ => h⟩
  refine hμ.plain.administrativelyEnabled.and_then fun _ => Sat.ite (fun _ => ?_) fun _ => ?_
  · refine (hμ.plain.observe _).and_then fun now => ?_
    refine Keeps.and_then (.modify fun i s h => ?_) fun _ => ?_
    · refine h.set (rollResetWindow_log c now s) fun hs => ?_
      unfold rollResetWindow
      split_ifs <;> exact hs
    refine Keeps.get.and_then fun s => Sat.ite (fun _ => ?_) fun _ => ?_
    · refine Keeps.and_then (hμ.plain.modify fun _ => rfl) fun _ => Keeps.and_then ?_
        fun _ => Sat.pure hstay
      exact .onlyIf (hμ.act_rest rfl)
    · -- the reset is run: from here on it is paid for
      refine Keeps.and_then (.modify fun i s h => h.set rfl id) fun _ => ?_
      refine Sat.bind (R := fun _ => Spends μ (n + d) L) ?_ fun _ => ?_
      · exact Sat.modify fun i s h => h.append rfl (Nat.add_le_add_left (hd now) n) id
      refine Sat.bind (R := fun ok i s => Spends μ (n + d) L i s ∧
        ((∀ i, (env i).modemReset = true) → ok = true)) ?_ fun ok => Sat.ite (fun hok => ?_) ?_
      · exact Sat.observe fun i s h => ⟨h, fun hall => hall i⟩
      · refine Sat.bind (R := fun _ => Spends μ (n + d) L) (Sat.observe fun i s h => h.1)
          fun up => ?_
        refine Sat.bind Audit.date fun now => ?_
        refine Sat.bind (R := fun _ => Spends μ (n + d) L) ?_ fun _ => ?_
        · rintro _ s ⟨i, rfl, rfl, h⟩
          exact h.append rfl (hμ.free rfl) (hL i up s)
        · exact Sat.pure fun i s h => ⟨h, fun _ hr => absurd hr (by simp)⟩
      · exact fun hok => Sat.pure fun i s h => ⟨h.1, fun hall => absurd (h.2 hall) hok⟩
  · exact Sat.pure hstay

theorem resetKeeps_true : ResetKeeps c env fun _ => True := fun _ _ _ _ => trivial

theorem radioOn (hμ : Weight μ) (k : Nat) : Keeps env (Spends μ n L) (radioOn k) := by
  induction k with
  | zero => exact .pure _
  | succ k ih =>
    refine .bind hμ.plain.cfunIsFull fun _ => .ite (.pure _) ?_
    exact .bind (hμ.act_rest rfl) fun _ => ih

theorem doCfunCycle (hμ : Weight μ) : Sat env (Spent μ n) (doCfunCycle c) fun r =>
    Spent μ (if r then n + 1 else n) := by
  refine (hμ.plain.observe _).and_then fun now => Keeps.get.and_then fun s => ?_
  refine Sat.ite (fun _ => Sat.pure fun _ _ h => h) fun _ => ?_
  refine Keeps.and_then (hμ.loose.modify fun _ => rfl) fun _ => ?_
  -- the hand-over has what the power cycle leaves of the one
  have hover : ∀ e : Entry, e.isHandOver = true →
      μ e ≤ 1 - μ (.start (.cfunCycle now) false) := fun e he => by
    have := hμ.handOver (.cfunCycle now) e rfl he
    omega
  have hle := hμ.call (.start (.cfunCycle now) false)
  refine Sat.bind (R := fun _ => Spent μ (n + μ (.start (.cfunCycle now) false))) ?_ fun _ => ?_
  · exact Sat.modify fun i s h => h.append rfl (Nat.le_refl _) id
  refine (hμ.act_rest rfl).and_then fun _ => (hμ.radioOn 5).and_then fun _ => ?_
  refine hμ.plain.cfunIsFull.and_then fun _ => Sat.ite (fun _ => ?_) fun _ => ?_
  · refine Keeps.and_then (hμ.loose.modify fun _ => rfl) fun _ => Sat.bind
      (hμ.doRedial (hover _ rfl) fun t => hover _ rfl) fun _ => ?_
    exact Sat.pure fun i s h => h.weaken (by simp only [if_true]; omega)
  · refine Sat.bind (hμ.modemHardReset resetKeeps_true fun t => hover _ rfl) fun _ => ?_
    exact Sat.pure fun i s h => h.1.weaken (by simp only [if_true]; omega)

theorem mhiPathReset (hμ : Weight μ) : Sat env (Spent μ n) (mhiPathReset c) fun o =>
    Spent μ (if o = .notRun then n else n + 1) := by
  have hgrace : ∀ o : MhiOutcome, o ≠ .notRun → Sat env (Spent μ (n + 1))
      (do let now ← date; modify (graceAfter c now); pure o : Prog MhiOutcome) fun o =>
        Spent μ (if o = .notRun then n else n + 1) := by
    intro o ho
    refine (hμ.plain.observe _).and_then fun now => ?_
    refine Keeps.and_then (hμ.loose.modify fun _ => rfl) fun _ => ?_
    exact Sat.pure fun i s h => by rwa [if_neg ho]
  refine (hμ.plain.observe _).and_then fun now => Keeps.and_then (hμ.loose.modify ?_) fun _ => ?_
  · intro s; split <;> rfl
  refine Keeps.get.and_then fun s => Sat.ite (fun _ => Sat.pure fun _ _ h => h) fun _ => ?_
  refine Keeps.and_then (hμ.loose.modify fun _ => rfl) fun _ => ?_
  refine Sat.bind (R := fun _ => Spent μ (n + 1)) ?_ fun _ => ?_
  · exact Sat.modify fun i s h => h.append rfl (Nat.add_le_add_left (hμ.call _) n) id
  refine (hμ.plain.observe _).and_then fun _ => Sat.ite (fun _ => ?_) fun _ => ?_
  · exact Keeps.and_then (hμ.loose.modify fun _ => rfl) fun _ => hgrace _ (by simp)
  · exact hgrace _ (by simp)

/-! ## Ladder -/

theorem redialRung (hμ : Weight μ) :
    Sat env (Spent μ n) (redialRung c) fun _ => Spent μ (n + 1) := by
  refine Sat.bind (hμ.doRedial (hμ.call _) fun t => hμ.call _) fun _ => ?_
  exact Keeps.ite (hμ.loose.modify fun _ => rfl) (.pure _)

theorem climb (hμ : Weight μ) : Sat env (Spent μ n) (climb c) fun _ => Spent μ (n + 1) := by
  refine Keeps.get.and_then fun s => Sat.ite (fun _ => ?_) fun _ => ?_
  · refine Sat.bind (hμ.modemHardReset resetKeeps_true fun t => hμ.call _) fun _ => ?_
    exact Sat.pure fun i s h => h.1
  · refine Sat.bind hμ.doCfunCycle fun r => ?_
    cases r with
    | true => exact hμ.loose.modify fun _ => rfl
    | false => exact hμ.redialRung

theorem escalate (hμ : Weight μ) : Sat env (Spent μ n) (escalate c) fun _ => Spent μ (n + 1) := by
  refine Keeps.get.and_then fun s => Sat.ite (fun _ => hμ.redialRung) fun _ => ?_
  refine (hμ.plain.lteFallbackEnter c).and_then fun _ => ?_
  refine Sat.ite (fun _ => hμ.redialRung) fun _ => ?_
  refine Sat.bind hμ.mhiPathReset fun o => Sat.ite (fun ho => ?_) fun ho => ?_
  · simp only [if_pos ho]
    exact hμ.climb
  · simp only [if_neg ho]
    exact Sat.pure fun _ _ h => h

theorem goodTick (hμ : Weight μ) (traffic : Traffic) :
    Keeps env (Spent μ n) (goodTick c traffic) := by
  refine .bind (hμ.loose.modify fun _ => rfl) fun _ => .bind hμ.plain.attachReturned fun _ => ?_
  refine .bind (.onlyIf (.modify fun j s hs => hs.append rfl (hμ.free rfl) id)) fun _ => ?_
  exact .bind (hμ.plain.lteFallbackRelease c) fun _ => (hμ.loose.modify fun _ => rfl)

/-! ## The part of a tick behind the checks of the SIM -/

theorem topReset (hμ : Weight μ) (hend : ResetEnds μ env) :
    Sat env (Spent μ n) (Watchdog.modemHardReset c false) fun r =>
      Spent μ (if r then n + 1 else n) := by
  rcases hend with hfree | hworks
  · refine (hμ.modemHardReset resetKeeps_true fun t => Nat.le_of_eq (hfree t)).mono
      (fun _ _ h => h) fun r i s h => h.1.weaken ?_
    cases r <;> simp
  · refine (hμ.modemHardReset resetKeeps_true fun t => hμ.call _).mono
      (fun _ _ h => h) fun r i s h => ?_
    cases r with
    | true => exact h.1
    | false => exact h.2 hworks rfl

theorem deadPlaneRecover (hμ : Weight μ) (hend : ResetEnds μ env) :
    Sat env (Spent μ n) (deadPlaneRecover c) fun r => Spent μ (if r then n + 1 else n) := by
  refine (hμ.plain.observe _).and_then fun now => Keeps.get.and_then fun s => ?_
  refine Sat.ite (fun _ => Keeps.and_then (hμ.loose.modify fun _ => rfl) fun _ => ?_)
    fun _ => hμ.topReset hend
  refine Sat.bind hμ.doCfunCycle fun r => Sat.pure fun i s h => h.weaken ?_
  cases r <;> simp

/-! The evaluation may spend `b`. With one to spend, hard resets have to end the tick or none of the
counters may be about to ask for one; with nothing to spend, nothing may be due. -/

variable {b : Nat}

theorem silentPort (hμ : Weight μ) :
    Sat env (Spends μ n fun k =>
        ((0 < b ∧ ResetEnds μ env) ∨ k.Early c) ∧ (0 < b ∨ k.Calm c env)) (silentPort c) fun r =>
      Spends μ (if r then n + b else n) fun k => r = false →
        ((0 < b ∧ ResetEnds μ env) ∨ (k.NodeEarly c ∧ k.PlaneEarly c)) ∧
          (0 < b ∨ k.Calm c env) := by
  refine hμ.plain.atAlive.and_then fun _ => Sat.ite (fun _ => ?_) fun _ => ?_
  · refine Sat.bind (R := fun _ => Spends μ n fun k =>
      ((0 < b ∧ ResetEnds μ env) ∨ (k.NodeEarly c ∧ k.PlaneEarly c)) ∧ (0 < b ∨ k.Calm c env))
      ?_ fun _ => Sat.pure fun i s h => h.mono (Nat.le_refl n) fun hk _ => hk
    exact Sat.modify fun i s h => h.set rfl fun hk => ⟨hk.1.imp_right (·.2), hk.2⟩
  · refine Sat.bind (R := fun _ => Spends μ n fun k => ((0 < b ∧ ResetEnds μ env) ∨
      (k.atDead < c.atDeadTicks ∧ k.NodeEarly c ∧ k.PlaneEarly c)) ∧ (0 < b ∨ k.Calm c env))
      ?_ fun _ => ?_
    · exact Sat.modify fun i s h => h.set rfl id
    refine Sat.get_bind fun s₀ => Sat.ite (fun _ => ?_) fun hlt => ?_
    · refine Sat.pure fun i s h => h.1.mono (Nat.le_refl n) fun hk _ => ?_
      exact ⟨hk.1.imp_right (·.2), hk.2⟩
    · -- the counter was not early, so a hard reset ends the tick
      refine Sat.assume (φ := 0 < b ∧ ResetEnds μ env) (fun i s h => ?_) fun hend => ?_
      · exact h.1.2.1.resolve_right fun hearly => hlt (h.2 ▸ hearly.1)
      refine (hμ.topReset hend.2).mono (fun i s h => h.1.weaken (Nat.le_refl n)) fun r i s h => ?_
      refine h.mono ?_ fun _ _ => ⟨.inl hend, .inl hend.1⟩
      cases r <;> simp only [Bool.false_eq_true, if_false, if_true] <;> omega

theorem missingNode (hμ : Weight μ) :
    Sat env (Spends μ n fun k => ((0 < b ∧ ResetEnds μ env) ∨ (k.NodeEarly c ∧ k.PlaneEarly c)) ∧
        (0 < b ∨ k.Calm c env)) (missingNode c) fun r =>
      Spends μ (if r then n + b else n) fun k => r = false →
        ((0 < b ∧ ResetEnds μ env) ∨ k.PlaneEarly c) ∧ (0 < b ∨ k.Calm c env) := by
  refine (hμ.plain.observe _).and_then fun _ => Sat.ite (fun _ => ?_) fun _ => ?_
  · refine Sat.bind (R := fun _ => Spends μ n fun k =>
      ((0 < b ∧ ResetEnds μ env) ∨ k.PlaneEarly c) ∧ (0 < b ∨ k.Calm c env))
      ?_ fun _ => Sat.pure fun i s h => h.mono (Nat.le_refl n) fun hk _ => hk
    exact Sat.modify fun i s h => h.set rfl fun hk => ⟨hk.1.imp_right (·.2), hk.2⟩
  · refine Sat.bind (R := fun _ => Spends μ n fun k => ((0 < b ∧ ResetEnds μ env) ∨
      (k.qmiMissing < c.atDeadTicks ∧ k.PlaneEarly c)) ∧ (0 < b ∨ k.Calm c env)) ?_ fun _ => ?_
    · exact Sat.modify fun i s h => h.set rfl id
    refine Sat.get_bind fun s₀ => Sat.ite (fun _ => ?_) fun hlt => ?_
    · refine Sat.pure fun i s h => h.1.mono (Nat.le_refl n) fun hk _ => ?_
      exact ⟨hk.1.imp_right (·.2), hk.2⟩
    · refine Sat.assume (φ := 0 < b ∧ ResetEnds μ env) (fun i s h => ?_) fun hend => ?_
      · exact h.1.2.1.resolve_right fun hearly => hlt (h.2 ▸ hearly.1)
      refine Sat.bind ((hμ.topReset hend.2).pre fun i s h => h.1.weaken (Nat.le_refl n)) fun r => ?_
      cases r with
      | true =>
        refine Keeps.and_then (.modify fun i s h => h.set rfl id) fun _ => Sat.pure fun i s h => ?_
        exact h.mono (Nat.add_le_add_left hend.1 n) fun _ _ => ⟨.inl hend, .inl hend.1⟩
      | false =>
        exact Sat.pure fun i s h => h.mono (Nat.le_refl _) fun _ _ => ⟨.inl hend, .inl hend.1⟩

theorem deadPlane (hμ : Weight μ) :
    Sat env (Spends μ n fun k => ((0 < b ∧ ResetEnds μ env) ∨ k.PlaneEarly c) ∧
        (0 < b ∨ k.Calm c env)) (deadPlane c) fun r =>
      Spends μ (if r then n + b else n) fun k => r = false → (0 < b ∨ k.Calm c env) := by
  refine Sat.ite (fun _ => ?_) fun hon => (hμ.plain.observe _).and_then fun _ => ?_
  · exact Sat.pure fun i s h => h.mono (Nat.le_refl n) fun hk _ => hk.2
  refine Sat.ite (fun _ => ?_) fun _ => Sat.pure fun i s h => h.mono (Nat.le_refl n)
    fun hk _ => hk.2
  refine Sat.bind (R := fun _ => Spends μ n fun k => ((0 < b ∧ ResetEnds μ env) ∨
    k.deadPlaneTicks < c.deadPlaneTicks) ∧ (0 < b ∨ k.Calm c env)) ?_ fun _ => ?_
  · exact Sat.modify fun i s h => h.set rfl fun hk => ⟨hk.1.imp_right (·.resolve_left hon), hk.2⟩
  refine Sat.get_bind fun s₀ => Sat.ite (fun _ => ?_) fun hlt => ?_
  · exact Sat.pure fun i s h => h.1.mono (Nat.le_refl n) fun hk _ => hk.2
  · refine Sat.assume (φ := 0 < b ∧ ResetEnds μ env) (fun i s h => ?_) fun hend => ?_
    · exact h.1.2.1.resolve_right fun hearly => hlt (h.2 ▸ hearly)
    refine Sat.mono (Keeps.and_then (hμ.loose.modify fun _ => rfl)
      fun _ => hμ.deadPlaneRecover hend.2)
      (fun i s h => h.1.weaken (Nat.le_refl n)) fun r i s h => h.mono ?_ fun _ _ => .inl hend.1
    cases r <;> simp only [Bool.false_eq_true, if_false, if_true] <;> omega

theorem badTick (hμ : Weight μ) :
    Sat env (Spends μ n fun k => 0 < b ∨ k.Calm c env) (badTick c) fun _ => Spent μ (n + b) := by
  refine Sat.bind (R := fun _ => Spends μ n fun k => 0 < b ∨ k.consecBad < c.offlineThreshold)
    (Sat.modify fun i s h => h.set rfl fun hk => hk.imp_right (·.1)) fun _ => ?_
  refine Sat.get_bind fun s₀ => Sat.ite (fun _ => ?_) fun hlt => ?_
  · exact Sat.pure fun i s h => h.1.weaken (Nat.le_add_right n b)
  · refine Sat.assume (φ := 0 < b) (fun i s h => ?_) fun hb => ?_
    · exact h.1.2.resolve_right fun hk => hlt (h.2 ▸ hk)
    refine hμ.escalate.mono (fun i s h => h.1.weaken (Nat.le_refl n)) fun _ i s h => ?_
    exact h.weaken (Nat.add_le_add_left hb n)

theorem attachLostWatch (hμ : Weight μ) :
    Sat env (Spends μ n fun k => 0 < b ∨ k.Calm c env) (attachLostWatch c)
      fun _ => Spent μ (n + b) := by
  have hpure : ∀ {L : Core → Prop}, Sat env (Spends μ n L) (pure () : Prog Unit) fun _ =>
      Spent μ (n + b) := Sat.pure fun _ _ h => h.weaken (Nat.le_add_right n b)
  have hset : ∀ now {L : Core → Prop}, Sat env (Spends μ n L)
      (modify fun s => { s with attachLostSince := now } : Prog Unit) fun _ => Spent μ (n + b) :=
    fun now L => Sat.modify fun i s h => (h.weaken (Nat.le_add_right n b) (j := i)).set rfl id
  refine Sat.ite (fun _ => hpure) fun _ => (hμ.plain.observe _).and_then fun _ => ?_
  refine Sat.ite (fun _ => hpure) fun _ => Sat.get_bind fun s₀ => ?_
  -- only a loss of attach that is being timed gets as far as the power cycle
  refine Sat.pre (P := Spends μ n fun k => 0 < b ∨ s₀.attachLostSince = 0) ?_ fun i s h =>
    h.1.mono (Nat.le_refl n) fun hk => hk.imp_right fun hcalm => h.2 ▸ hcalm.2.1
  refine Sat.ite (fun _ => hset 0) fun _ => (hμ.plain.observe _).and_then fun now => ?_
  refine Sat.ite (fun _ => hset now) fun hsince => ?_
  refine Sat.assume (φ := 0 < b) (fun i s h => h.2.resolve_right hsince) fun hb => ?_
  refine Sat.ite (fun _ => hpure) fun _ => Sat.ite (fun _ => hpure) fun _ => ?_
  refine hμ.plain.cfunIsFull.and_then fun _ => Sat.ite (fun _ => ?_) fun _ => hpure
  refine Keeps.and_then (hμ.plain.modify fun _ => rfl) fun _ => ?_
  refine Sat.bind (R := fun _ => Spent μ (n + b)) ?_ fun _ => ?_
  · refine hμ.doCfunCycle.mono (fun i s h => h.weaken (Nat.le_refl n)) fun r i s h => h.weaken ?_
    cases r <;> simp only [Bool.false_eq_true, if_false, if_true] <;> omega
  · exact Keeps.bind (hμ.plain.observe _) fun now => (hμ.loose.modify fun _ => rfl)

theorem cfunRecheck (hμ : Weight μ) : Keeps env (Spends μ n L) (cfunRecheck c) := by
  refine .bind (hμ.plain.modify fun _ => rfl) fun _ => .bind .get fun s => .ite (.pure _) ?_
  refine .bind (hμ.plain.modify fun _ => rfl) fun _ => ?_
  refine .bind (hμ.plain.observe _) fun now => .ite (.pure _) ?_
  refine .bind hμ.plain.cfunState fun _ => .ite ?_ (.pure _)
  exact .bind (hμ.plain.modify fun _ => rfl) fun _ => hμ.act_rest rfl

theorem noAttach (hμ : Weight μ) :
    Sat env (Spends μ n fun k => 0 < b ∨ k.Calm c env) (noAttach c) fun _ => Spent μ (n + b) := by
  refine Keeps.get.and_then fun s => Keeps.and_then (.onlyIf ?_) fun _ => ?_
  · exact .bind hμ.plain.detachNote fun _ => (hμ.plain.modify fun _ => rfl)
  refine hμ.cfunRecheck.and_then fun _ => Sat.bind hμ.attachLostWatch fun _ => ?_
  exact hμ.loose.modify fun _ => rfl

theorem attached (hμ : Weight μ) (up : Bool) (device : Text) (traffic : Traffic) :
    Sat env (Spends μ n fun k => ((0 < b ∧ ResetEnds μ env) ∨ k.PlaneEarly c) ∧
      (0 < b ∨ k.Calm c env)) (attached c up device traffic) fun _ => Spent μ (n + b) := by
  refine hμ.plain.attachReturned.and_then fun _ => ?_
  refine Keeps.and_then (.modify fun i s h => h.set rfl fun hk => ?_) fun _ => ?_
  · exact ⟨hk.1, hk.2.imp_right fun hcalm => ⟨hcalm.1, rfl, hcalm.2.2⟩⟩
  refine Sat.ite (fun _ => ?_) fun _ => hμ.badTick.pre fun i s h => h.mono (Nat.le_refl n) And.right
  refine (hμ.plain.reachable _).and_then fun _ => Sat.ite (fun _ => ?_) fun _ => ?_
  · exact (hμ.goodTick traffic).pre fun i s h => h.weaken (Nat.le_add_right n b)
  · refine Sat.bind hμ.deadPlane fun r => ?_
    cases r with
    | true => exact Sat.pure fun i s h => h.weaken (Nat.le_refl _)
    | false => exact hμ.badTick.pre fun i s h => h.mono (Nat.le_refl n) fun hk => hk rfl

theorem suspect (hμ : Weight μ) (up : Bool) (device : Text) (traffic : Traffic) :
    Sat env (Spends μ n fun k => ((0 < b ∧ ResetEnds μ env) ∨ k.Early c) ∧ (0 < b ∨ k.Calm c env))
      (suspect c up device traffic) fun _ => Spent μ (n + b) := by
  refine Sat.bind hμ.silentPort fun r => ?_
  cases r with
  | true => exact Sat.pure fun i s h => h.weaken (Nat.le_refl _)
  | false =>
    refine Sat.bind (hμ.missingNode.pre fun i s h => h.mono (Nat.le_refl n) fun hk => hk rfl)
      fun r => ?_
    cases r with
    | true => exact Sat.pure fun i s h => h.weaken (Nat.le_refl _)
    | false =>
      refine hμ.plain.modemAttached.and_then fun _ => Sat.ite (fun _ => ?_) fun _ => ?_
      · exact hμ.noAttach.pre fun i s h => h.mono (Nat.le_refl n) fun hk => (hk rfl).2
      · exact (hμ.attached up device traffic).pre fun i s h =>
          h.mono (Nat.le_refl n) fun hk => hk rfl

theorem evaluate (hμ : Weight μ) :
    Sat env (Spends μ n fun k => ((0 < b ∧ ResetEnds μ env) ∨ k.Early c) ∧ (0 < b ∨ k.Calm c env))
      (evaluate c) fun _ => Spent μ (n + b) := by
  refine (hμ.plain.observe _).and_then fun wwan => Sat.ite (fun _ => ?_) fun _ => hμ.suspect _ _ _
  refine (hμ.plain.trafficAdvancing _).and_then fun t => ?_
  refine Sat.ite (fun _ => hμ.suspect _ _ _) fun _ => ?_
  exact (hμ.goodTick t).pre fun i s h => h.weaken (Nat.le_add_right n b)

theorem judge (hμ : Weight μ) :
    Sat env (Spends μ n fun k => ((0 < b ∧ ResetEnds μ env) ∨ k.Early c) ∧ (0 < b ∨ k.Calm c env))
      (judge c) fun _ => Spent μ (n + b) := by
  have hstay : ∀ {L : Core → Prop}, Sat env (Spends μ n L) (pure () : Prog Unit) fun _ =>
      Spent μ (n + b) := Sat.pure fun i s h => h.weaken (Nat.le_add_right n b)
  refine Sat.bind Audit.date fun now => Sat.pre (P := fun i s => (∃ j, now = (env j).clock) ∧
    Spends μ n (fun k => ((0 < b ∧ ResetEnds μ env) ∨ k.Early c) ∧ (0 < b ∨ k.Calm c env)) i s)
    ?_ fun i s ⟨j, _, hnow, h⟩ => ⟨⟨j, hnow⟩, h⟩
  refine Sat.assume (fun i s h => h.1) fun ⟨j, hnow⟩ => Sat.pre ?_ fun i s h => h.2
  refine Sat.get_bind fun s₀ => Sat.ite (fun _ => hstay.pre fun i s h => h.1) fun _ => ?_
  refine Sat.ite (fun hpending => ?_) fun _ => hμ.evaluate.pre fun i s h => h.1
  -- the time an interface is given is up only if the tick has something to spend
  refine Sat.pre (P := Spends μ n fun k => ((0 < b ∧ ResetEnds μ env) ∨ k.Early c) ∧
    (0 < b ∨ k.Calm c env) ∧ (0 < b ∨ now < k.graceUntil)) ?_ fun i s h =>
      h.1.mono (Nat.le_refl n) fun hk => ⟨hk.1, hk.2, hk.2.imp_right fun hcalm =>
        hnow ▸ hcalm.2.2 (by rw [h.2]; exact hpending) j⟩
  refine (hμ.plain.observe _).and_then fun _ => Sat.ite (fun _ => ?_) fun _ => ?_
  · refine Sat.bind (R := fun _ => Spends μ n fun k => ((0 < b ∧ ResetEnds μ env) ∨ k.Early c) ∧
      (0 < b ∨ k.Calm c env)) ?_ fun _ => hμ.evaluate
    refine Sat.modify fun i s h => h.set rfl fun hk => ⟨hk.1, hk.2.1.imp_right fun hcalm => ?_⟩
    exact ⟨hcalm.1, hcalm.2.1, fun hp => absurd hp (by simp [State.core])⟩
  refine Sat.get_bind fun s₁ => Sat.ite (fun _ => hstay.pre fun i s h => h.1) fun hlt => ?_
  refine Sat.assume (φ := 0 < b) (fun i s h => ?_) fun hb => ?_
  · exact h.1.2.2.2.resolve_right fun hk => hlt (h.2 ▸ hk)
  refine Sat.pre (P := Spent μ n) ?_ fun i s h => h.1.weaken (Nat.le_refl n)
  refine Keeps.and_then (hμ.loose.modify fun _ => rfl) fun _ => ?_
  refine hμ.plain.modemAttached.and_then fun _ => ?_
  refine Sat.ite (fun _ => hstay) fun _ => hμ.escalate.mono (fun _ _ h => h) fun _ i s h => ?_
  exact h.weaken (Nat.add_le_add_left hb n)

/-! ## Reconnects after a re-lock -/

theorem relockWait (hμ : Weight μ) (hL : ResetKeeps c env L)
    (hd : ∀ t, μ (.start (.hardReset t) true) ≤ d) (start k : Nat) :
    Sat env (Spends μ n L) (relockWait c start k) fun r =>
      Spends μ (if r.isSome then n + d else n) L := by
  have hsome : ∀ r, Sat env (Spends μ n L) (pure (some r) : Prog (Option Bool)) fun r =>
      Spends μ (if r.isSome then n + d else n) L := fun r =>
    Sat.pure fun i s h => h.mono (Nat.le_add_right n d) id
  induction k with
  | zero => exact Sat.pure fun _ _ h => h
  | succ k ih =>
    refine (hμ.plain.observe _).and_then fun up => ?_
    refine Sat.ite (fun _ => Sat.pure fun _ _ h => h) fun _ => ?_
    refine hμ.plain.administrativelyEnabled.and_then fun _ =>
      Sat.ite (fun _ => ?_) fun _ => hsome false
    refine hμ.plain.cpinQuery.and_then fun _ => Keeps.get.and_then fun s => ?_
    refine Sat.ite (fun _ => hsome false) fun _ => (hμ.plain.observe _).and_then fun wwan => ?_
    refine Sat.ite (fun _ => ?_) fun _ => (hμ.plain.observe _).and_then fun up => ?_
    · exact (hμ.plain.reachable _).and_then fun _ => Sat.ite (fun _ => hsome true) fun _ => ih
    · refine Sat.ite (fun _ => ih) fun _ => hμ.plain.modemAttached.and_then fun _ => ?_
      refine Sat.ite (fun _ => ih) fun _ => (hμ.plain.observe _).and_then fun _ => ?_
      refine Sat.ite (fun _ => Sat.bind (hμ.modemHardReset hL hd) fun r => ?_) fun _ => ih
      exact Sat.pure fun i s h => h.1

theorem relockReconnect (hμ : Weight μ) (hL : ResetKeeps c env L)
    (hlock : ∀ k, L k → L { k with simWasLocked := false })
    (hd : ∀ t, μ (.start .reconnect false) + μ (.start (.hardReset t) true) ≤ d) :
    Sat env (Spends μ n L) (relockReconnect c) fun _ => Spends μ (n + d) L := by
  have hfalse : ∀ m, m ≤ d → Sat env (Spends μ (n + m) L) (pure false : Prog Bool) fun _ =>
      Spends μ (n + d) L := fun m hm => Sat.pure fun i s h => h.mono (Nat.add_le_add_left hm n) id
  refine hμ.plain.administrativelyEnabled.and_then fun _ => Sat.ite (fun _ => ?_) fun _ => ?_
  · refine hμ.plain.cpinQuery.and_then fun _ => Keeps.get.and_then fun s => ?_
    refine Sat.ite (fun _ => hfalse 0 (Nat.zero_le d)) fun _ => ?_
    have hd' : ∀ t, μ (.start (.hardReset t) true) ≤ d - μ (.start .reconnect false) := fun t => by
      have := hd t
      omega
    have hle : μ (.start .reconnect false) ≤ d := by
      have := hd 0
      omega
    refine Sat.bind (R := fun _ => Spends μ (n + μ (.start .reconnect false)) L) ?_ fun _ => ?_
    · exact Sat.modify fun i s h => h.append rfl (Nat.le_refl _) id
    refine (hμ.plain.observe _).and_then fun _ => Sat.ite (fun _ => ?_) fun _ => hfalse _ hle
    refine Keeps.and_then (.modify fun i s h => h.set rfl (hlock s.core)) fun _ => ?_
    refine (hμ.plain.observe _).and_then fun start => ?_
    refine Sat.bind (hμ.relockWait hL hd' start 18) fun r => ?_
    cases r with
    | some r =>
      refine Sat.pure fun i s h => h.mono ?_ id
      simp only [Option.isSome_some, if_true]
      omega
    | none =>
      refine hμ.plain.administrativelyEnabled.and_then fun _ => Sat.ite (fun _ => ?_) fun _ => ?_
      · refine (hμ.modemHardReset hL hd').mono (fun _ _ h => h) fun _ _ _ h => h.1.mono ?_ id
        simp only [Option.isSome_none, Bool.false_eq_true, if_false]
        omega
      · exact hfalse _ hle
  · exact hfalse 0 (Nat.zero_le d)

end Weight
end GlXe3000.Cellular.Watchdog
