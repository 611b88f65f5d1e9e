import GlXe3000.Cellular.Watchdog.Cost
import GlXe3000.Cellular.Watchdog.ResetBudget

/-! # How many rungs a tick starts

`escalate` picks one rung. The tick around it does not: a hard reset that fails lets the tick go on
to the next test, which may ask for another one, and a reconnect after a SIM re-lock is followed by
the evaluation of the link. A tick starts at most one rung if no reconnect is asked for and its hard
resets work or are not due yet, or if nothing but the reconnect is due. -/

namespace GlXe3000.Cellular.Watchdog
open Observer Text

namespace Entry

def isRung : Entry → Bool
  | .start _ false => true
  | _ => false

end Entry

def State.rungs (s : State) : Nat := s.log.countP Entry.isRung

theorem State.cost_toNat (p : Entry → Bool) (s : State) :
    s.cost (fun e => (p e).toNat) = s.log.countP p := by
  rw [State.cost]
  induction s.log with
  | nil => rfl
  | cons e l ih => cases h : p e <;> simp [h, ih, Nat.add_comm]

theorem Weight.rungs : Weight fun e => e.isRung.toNat where
  rest e he := by cases e <;> first | rfl | simp [Entry.isCall] at he
  call e := Bool.toNat_le e.isRung
  handOver r e _ he := by
    cases e with
    | start r' nested =>
      cases nested with
      | false => simp [Entry.isHandOver] at he
      | true => exact Nat.le_refl 1
    | _ => simp_all [Entry.isHandOver, Entry.isRung]

theorem Weight.hardResets : Weight fun e => e.isHardReset.toNat where
  rest e he := by cases e <;> first | rfl | simp [Entry.isCall] at he
  call e := Bool.toNat_le e.isHardReset
  handOver r e hr _ := by
    have hr' : (Entry.start r false).isHardReset = false := by
      cases r <;> first | rfl | simp [Rung.handsOver] at hr
    rw [hr']
    simpa using Bool.toNat_le e.isHardReset

/-! ## Ticks without a reconnect -/

structure NoRelock (s : State) (env : Nat → World) : Prop where
  unlocked : s.simWasLocked = false
  noReinit : ∀ i, (env i).reinit = []
  noPin : (∀ i, (env i).uci.pincode = []) ∨ ∀ i, ((env i).reply .cpin).has "SIM PIN" = false

/-- `L` is about other variables than those of the SIM checks. -/
def SimFree (L : Core → Prop) : Prop :=
  ∀ k locked handled, L k → L { k with simWasLocked := locked, relockHandled := handled }

section
variable {μ : Entry → Nat} {c : Config} {env : Nat → World} {n : Nat} {L : Core → Prop} {s₀ : State}

def CpinSeen (env : Nat → World) (s : State) : Prop :=
  (∀ i, (env i).uci.pincode = []) ∨ s.cpin.has "SIM PIN" = false

theorem NoRelock.simLockWatch (h : NoRelock s₀ env) (hμ : Weight μ) (hL : SimFree L) :
    Sat env (fun i s => Spends μ n (fun k => L k ∧ k.simWasLocked = false) i s ∧
      s.cpinValid = false) (simLockWatch c) fun _ => Spends μ n L := by
  have hquery : Sat env (Spends μ n fun k => L k ∧ k.simWasLocked = false) cpinQuery fun _ i s =>
      Spends μ n (fun k => L k ∧ k.simWasLocked = false) i s ∧ CpinSeen env s := by
    intro i s hs
    exact ⟨⟨hs.1, hs.2⟩, h.noPin.imp_right fun hno => hno i⟩
  have hreask : ∀ k, Keeps env (fun i s =>
      Spends μ n (fun k => L k ∧ k.simWasLocked = false) i s ∧ CpinSeen env s) (reaskCpin k) := by
    intro k
    induction k with
    | zero => exact .pure _
    | succ k ih =>
      refine .bind .get fun s => .ite (.bind (hquery.pre fun i s hs => hs.1) fun _ => ih) (.pure _)
  refine Keeps.and_then (keeps_administrativelyEnabled (fun _ _ hs => hs) fun i s hs => ?_)
    fun _ => ?_
  · exact ⟨hs.1.append rfl (hμ.free rfl) id, hs.2⟩
  refine Sat.ite (fun _ => ?_) fun _ => ?_
  · refine Sat.bind (R := fun _ i s => Spends μ n (fun k => L k ∧ k.simWasLocked = false) i s ∧
      CpinSeen env s) ?_ fun _ => (hreask 3).and_then fun _ => ?_
    · refine Sat.get_bind fun s => Sat.ite (fun hv => ?_) fun _ => ?_
      · exact Sat.pure fun i s' hs => absurd hv (by rw [← hs.2, hs.1.2]; simp)
      · exact hquery.pre fun i s hs => hs.1.1
    refine Sat.get_bind fun s => Sat.ite (fun hpin => ?_) fun _ => Sat.ite (fun _ => ?_) fun _ => ?_
    · -- the SIM asks for a PIN, so none is saved
      refine Sat.assume (φ := ∀ i, (env i).uci.pincode = []) (fun i s' hs => ?_) fun hempty => ?_
      · exact hs.1.2.resolve_right fun hno => by rw [← hs.2, hno] at hpin; cases hpin
      refine Sat.pre (P := Spends μ n L) ?_ fun i s' hs => hs.1.1.mono (Nat.le_refl n) And.left
      refine Keeps.and_then (hμ.plain.modify fun _ => rfl) fun _ => ?_
      refine hμ.plain.leftToGate.and_then fun _ => ?_
      refine Sat.ite (fun _ => Sat.pure fun _ _ hs => hs) fun _ => ?_
      refine Keeps.and_then (.modify fun i s hs => hs.set rfl (hL _ _ _)) fun _ => ?_
      refine Sat.bind (R := fun pin i s => pin = [] ∧ Spends μ n L i s) ?_ fun pin => ?_
      · exact Sat.observe fun i s hs => ⟨hempty i, hs⟩
      refine Sat.ite (fun _ => Sat.pure fun _ _ hs => hs.2) fun hne => ?_
      exact fun i s hs => absurd hs.1 (by simpa using hne)
    · refine Sat.assume (φ := s.simWasLocked = false) (fun i s' hs => hs.2 ▸ hs.1.1.2.2)
        fun hs₀ => ?_
      refine Sat.pre (P := Spends μ n L) ?_ fun i s' hs => hs.1.1.mono (Nat.le_refl n) And.left
      refine Keeps.and_then (hμ.plain.modify fun _ => rfl) fun _ => ?_
      rw [hs₀]
      exact Sat.pure fun _ _ hs => hs
    · exact Sat.pure fun i s' hs => hs.1.1.mono (Nat.le_refl n) And.left
  · exact Sat.modify fun i s hs => hs.1.set rfl fun hk => hL _ _ _ hk.1

theorem NoRelock.simChecks (h : NoRelock s₀ env) (hμ : Weight μ) (hL : SimFree L) :
    Sat env (Spends μ n fun k => L k ∧ k.simWasLocked = false) (simChecks c)
      fun _ => Spends μ n L := by
  refine (hμ.plain.observe _).and_then fun up => ?_
  refine Keeps.and_then (.modify fun i s hs => hs.set rfl fun hk => ⟨hL _ _ _ hk.1, hk.2⟩)
    fun _ => ?_
  refine (hμ.plain.observe _).and_then fun lost => ?_
  refine Keeps.and_then (.onlyIf (hμ.plain.modify fun _ => rfl)) fun _ => ?_
  refine Keeps.get.and_then fun s => ?_
  refine Sat.bind (R := fun _ => Spends μ n L) (Sat.ite (fun _ => ?_) fun _ => ?_) fun _ => ?_
  · refine Sat.bind ?_ fun _ => h.simLockWatch hμ hL
    exact Sat.modify fun i s hs => ⟨hs.set rfl id, rfl⟩
  · exact Sat.pure fun i s hs => hs.mono (Nat.le_refl n) And.left
  · refine Keeps.and_then (hμ.plain.modify fun _ => rfl) fun _ => ?_
    refine Sat.bind (R := fun marker i s => marker = [] ∧ Spends μ n L i s) ?_ fun marker => ?_
    · exact Sat.observe fun i s hs => ⟨h.noReinit i, hs⟩
    refine Sat.ite (fun _ => Sat.pure fun _ _ hs => hs.2) fun hne => ?_
    exact fun i s hs => absurd hs.1 (by simpa using hne)

end

/-! ## Ticks with a reconnect -/

section
variable {μ : Entry → Nat} {c : Config} {env : Nat → World} {n : Nat} {L : Core → Prop}

/-- At most `n` has been spent apart from a reconnect that counts as handled. -/
def Handled (μ : Entry → Nat) (n : Nat) (L : Core → Prop) : Nat → State → Prop :=
  fun i s => Spends μ (n + s.relockHandled.toNat) L i s

theorem Handled.spends (h : Handled μ n L i s) : Spends μ (n + 1) L i s :=
  h.mono (Nat.add_le_add_left (Bool.toNat_le _) n) id

theorem Handled.of_spends (h : Spends μ n L i s) : Handled μ n L i s :=
  h.mono (Nat.le_add_right n _) id

theorem Weight.handled (hμ : Weight μ) : Plain (Handled μ n L) where
  look _ _ h := h
  frame i s s' _ hc hlog h := by
    have hflag : s'.relockHandled = s.relockHandled := congrArg Core.relockHandled hc
    rw [Handled, hflag]
    exact h.set hlog fun hL => hc ▸ hL
  note _ _ _ he h := h.append rfl (hμ.free_note he) id

theorem Weight.handledReconnect (hμ : Weight μ) (hL : SimFree L) (hreset : ResetKeeps c env L) :
    Sat env (Spends μ n fun k => L k ∧ k.relockHandled = true) (Watchdog.relockReconnect c)
      fun _ => Handled μ n L := by
  refine (hμ.relockReconnect (d := 1) ?_ ?_ fun t => hμ.handOver _ _ rfl rfl).mono
    (fun _ _ h => h) fun _ i s h => ?_
  · exact fun i up s hk => ⟨hreset i up s hk.1, hk.2⟩
  · exact fun k hk => ⟨hL k false k.relockHandled hk.1, hk.2⟩
  · have hflag : s.relockHandled = true := h.2.2
    rw [Handled, hflag]
    exact h.mono (Nat.le_refl _) And.left

theorem Weight.simLockWatch (hμ : Weight μ) (hL : SimFree L) (hreset : ResetKeeps c env L) :
    Sat env (Spends μ n L) (simLockWatch c) fun _ => Handled μ n L := by
  have hstay : Sat env (Spends μ n L) (pure () : Prog Unit) fun _ => Handled μ n L :=
    Sat.pure fun _ _ h => .of_spends h
  have hreconnect : Sat env (Spends μ n fun k => L k ∧ k.relockHandled = true)
      (do let _ ← Watchdog.relockReconnect c; pure () : Prog Unit) fun _ => Handled μ n L :=
    Sat.bind (hμ.handledReconnect hL hreset) fun _ => Sat.pure fun _ _ h => h
  have hrelocked : Sat env (Spends μ n L) (relocked c) fun _ => Handled μ n L := by
    refine Keeps.and_then (hμ.plain.modify fun _ => rfl) fun _ => ?_
    refine hμ.plain.leftToGate.and_then fun _ => ?_
    refine Sat.ite (fun _ => hstay) fun _ => ?_
    refine Keeps.and_then (.modify fun i s h => h.set rfl (hL _ _ _)) fun _ => ?_
    refine (hμ.plain.observe _).and_then fun pin => Sat.ite (fun _ => hstay) fun _ => ?_
    refine (hμ.plain.observe _).and_then fun failed => Sat.ite (fun _ => hstay) fun _ => ?_
    refine (hμ.plain.observe _).and_then fun now => Keeps.get.and_then fun s => ?_
    refine Sat.ite (fun _ => hstay) fun _ => (hμ.plain.act rfl).and_then fun _ => ?_
    refine (hμ.plain.observe _).and_then fun _ => Sat.ite (fun _ => ?_) fun _ => ?_
    · refine Keeps.and_then (hμ.plain.modify fun _ => rfl) fun _ => ?_
      refine hμ.plain.administrativelyEnabled.and_then fun _ => ?_
      refine Sat.ite (fun _ => Sat.bind ?_ fun _ => hreconnect) fun _ => hstay
      exact Sat.modify fun i s h => h.set rfl fun hk => ⟨hL _ s.simWasLocked true hk, rfl⟩
    · exact Sat.modify fun i s h => .of_spends (h.set rfl id)
  refine hμ.plain.administrativelyEnabled.and_then fun _ => Sat.ite (fun _ => ?_) fun _ => ?_
  · refine hμ.plain.cpinRefresh.and_then fun _ => (hμ.plain.reaskCpin 3).and_then fun _ => ?_
    refine Keeps.get.and_then fun s => Sat.ite (fun _ => hrelocked) fun _ => ?_
    refine Sat.ite (fun _ => Keeps.and_then (hμ.plain.modify fun _ => rfl) fun _ => ?_)
      fun _ => hstay
    refine Sat.ite (fun _ => Sat.bind ?_ fun _ => hreconnect) fun _ => hstay
    exact Sat.modify fun i s h => h.set rfl fun hk => ⟨hL _ false true hk, rfl⟩
  · exact Sat.modify fun i s h => .of_spends (h.set rfl (hL _ _ _))

theorem Weight.simChecks (hμ : Weight μ) (hL : SimFree L) (hreset : ResetKeeps c env L) :
    Sat env (Spends μ n L) (simChecks c) fun _ => Spends μ (n + 1) L := by
  refine (hμ.plain.observe _).and_then fun up => ?_
  refine Keeps.and_then (.modify fun i s h => h.set rfl (hL _ _ _)) fun _ => ?_
  refine (hμ.plain.observe _).and_then fun lost => ?_
  refine Keeps.and_then (.onlyIf (hμ.plain.modify fun _ => rfl)) fun _ => ?_
  refine Keeps.get.and_then fun s => ?_
  refine Sat.bind (R := fun _ => Handled μ n L) (Sat.ite (fun _ => ?_) fun _ => ?_) fun _ => ?_
  · exact Keeps.and_then (hμ.plain.modify fun _ => rfl) fun _ => hμ.simLockWatch hL hreset
  · exact Sat.pure fun _ _ h => .of_spends h
  have hstay : Sat env (Handled μ n L) (pure () : Prog Unit) fun _ => Spends μ (n + 1) L :=
    Sat.pure fun _ _ h => h.spends
  refine Keeps.and_then (hμ.handled.modify fun _ => rfl) fun _ => ?_
  refine (hμ.handled.observe _).and_then fun marker => ?_
  refine Sat.ite (fun _ => hstay) fun _ => hμ.handled.administrativelyEnabled.and_then fun _ => ?_
  refine Sat.ite (fun _ => ?_) fun _ => hstay
  refine hμ.handled.cpinQuery.and_then fun _ => Sat.get_bind fun s₀ => ?_
  refine Sat.ite (fun _ => hstay.pre fun i s h => h.1) fun _ => ?_
  refine Sat.ite (fun _ => hstay.pre fun i s h => h.1) fun hunhandled => ?_
  refine Sat.ite (fun _ => hstay.pre fun i s h => h.1) fun _ => ?_
  refine Sat.pre (P := Spends μ n L) ?_ fun i s h => ?_
  · refine (hμ.plain.observe _).and_then fun up => Sat.ite (fun _ => ?_) fun _ => ?_
    · exact Sat.pure fun i s h => h.mono (Nat.le_succ n) id
    refine Keeps.and_then (.modify fun i s h => h.set rfl (hL _ _ _)) fun _ => ?_
    refine Sat.bind (hμ.relockReconnect hreset (fun k hk => hL k _ _ hk)
      fun t => hμ.handOver _ _ rfl rfl) fun _ => Sat.pure fun _ _ h => h
  · have hflag : s.relockHandled = false := by rw [h.2]; simpa using hunhandled
    have := h.1
    rwa [Handled, hflag] at this

/-! ## The whole tick -/

theorem Weight.tick (hμ : Weight μ) {L₀ : Core → Prop} (hnm : n ≤ m)
    (hsim : Sat env (Spends μ n L₀) (Watchdog.simChecks c) fun _ => Spends μ m fun k =>
      ((0 < b ∧ ResetEnds μ env) ∨ k.Early c) ∧ (0 < b ∨ k.Calm c env)) :
    Sat env (Spends μ n L₀) (tick c) fun _ => Spent μ (m + b) := by
  refine (hμ.plain.observe _).and_then fun _ => ?_
  refine Sat.ite (fun _ => ?_) fun _ => Sat.bind hsim fun _ => ?_
  · exact Sat.pure fun i s h => h.weaken (by omega)
  refine hμ.plain.enabled.and_then fun _ => Sat.ite (fun _ => hμ.judge) fun _ => ?_
  refine Sat.modify fun i s h => Spends.append h rfl ?_ fun _ => trivial
  exact Nat.le_trans (hμ.free rfl) (Nat.le_add_right m b)

end

/-- At most one rung is due in the tick: no reconnect is asked for and hard resets work or are not
due yet, or nothing is due besides a reconnect. -/
def OneDue (c : Config) (s : State) (env : Nat → World) : Prop :=
  (NoRelock s env ∧ ((∀ i, (env i).modemReset = true) ∨ s.core.Early c)) ∨
    (s.core.Early c ∧ s.core.Calm c env ∧ ∀ i j, (env j).clock < (env i).clock + c.graceSec)

theorem resetKeeps_calm {c : Config} {env : Nat → World}
    (hgrace : ∀ i j, (env j).clock < (env i).clock + c.graceSec) :
    ResetKeeps c env fun k => k.Early c ∧ k.Calm c env := by
  rintro i up s ⟨⟨hport, hnode, hplane⟩, hbad, hlost, -⟩
  refine ⟨⟨?_, hnode, hplane.imp_right fun h => ?_⟩, ?_, hlost, fun _ j => hgrace i j⟩
  · exact Nat.lt_of_le_of_lt (Nat.succ_le_succ (Nat.zero_le _)) hport
  · exact Nat.lt_of_le_of_lt (Nat.succ_le_succ (Nat.zero_le _)) h
  · exact Nat.lt_of_le_of_lt (Nat.succ_le_succ (Nat.zero_le _)) hbad

theorem OneDue.cost_step {s : State} {env : Nat → World} (h : OneDue c s env)
    {μ : Entry → Nat} (hμ : Weight μ) : (s.step c env).cost μ ≤ s.cost μ + 1 := by
  rcases h with ⟨hno, hresets⟩ | ⟨hearly, hcalm, hgrace⟩
  · have hsim := hno.simChecks hμ (c := c) (n := s.cost μ)
      (L := fun k => ((0 < 1 ∧ ResetEnds μ env) ∨ k.Early c) ∧ (0 < 1 ∨ k.Calm c env))
      fun _ _ _ hk => hk
    have htick := hμ.tick (Nat.le_refl _) hsim 0 s
    refine (htick ⟨Nat.le_refl _, ⟨?_, .inl Nat.one_pos⟩, hno.unlocked⟩).1
    exact hresets.imp_left fun hworks => ⟨Nat.one_pos, .inr hworks⟩
  · have hsim := hμ.simChecks (c := c) (n := s.cost μ) (L := fun k => k.Early c ∧ k.Calm c env)
      (fun _ _ _ hk => hk) (resetKeeps_calm hgrace)
    have htick := hμ.tick (b := 0) (Nat.le_succ _)
      (hsim.mono (fun _ _ h => h) fun _ i s' h => h.mono (Nat.le_refl _) fun hk =>
        ⟨.inr hk.1, .inr hk.2⟩) 0 s
    exact (htick ⟨Nat.le_refl _, hearly, hcalm⟩).1

/-- In a run in which every tick has at most one rung due, every tick starts at most one rung and
runs `gl-cellular-modem-reset` at most once. -/
theorem one_rung_per_tick (c : Config) (s : State) (es : List (Nat → World))
    (h : (machine c).Admits (OneDue c) s es) (before after : List (Nat → World))
    (env : Nat → World) (hes : es = before ++ env :: after) :
    let t := (machine c).run s before
    (t.step c env).rungs ≤ t.rungs + 1 ∧ (t.step c env).hardResets ≤ t.hardResets + 1 := by
  subst hes
  have hdue : OneDue c ((machine c).run s before) env := (Machine.admits_append.mp h).2.1
  have hrungs := hdue.cost_step Weight.rungs
  have hresets := hdue.cost_step Weight.hardResets
  rw [State.cost_toNat, State.cost_toNat] at hrungs hresets
  exact ⟨hrungs, hresets⟩

/-- A modem whose hard resets work: the third silent tick starts one. -/
theorem one_rung_per_tick_working_reset :
    let env : Nat → World := fun _ => { deadModem with modemReset := true }
    let t := (machine {}).run (initial {}) [env, env]
    t.hardResets = 0 ∧ (t.step {} env).hardResets = 1 ∧ (t.step {} env).rungs ≤ t.rungs + 1 := by
  intro env t
  have hdue : (machine {}).Admits (OneDue {}) (initial {}) [env, env, env] :=
    ⟨.inl ⟨⟨rfl, fun _ => rfl, .inl fun _ => rfl⟩, .inl fun _ => rfl⟩,
      .inl ⟨⟨by decide, fun _ => rfl, .inl fun _ => rfl⟩, .inl fun _ => rfl⟩,
      .inl ⟨⟨by decide, fun _ => rfl, .inl fun _ => rfl⟩, .inl fun _ => rfl⟩, trivial⟩
  refine ⟨by decide, by decide, ?_⟩
  exact (one_rung_per_tick {} (initial {}) [env, env, env] hdue [env, env] [] env rfl).1

/-- The default settings and a modem that answers nothing: in the third tick the silent AT port asks
for a hard reset, it fails, and the missing QMI node asks for another one. -/
theorem dead_modem_reset_twice :
    let env : Nat → World := fun _ => deadModem
    let t := (machine {}).run (initial {}) [env, env]
    t.rungs = 0 ∧ (t.step {} env).rungs = 2 ∧ (t.step {} env).hardResets = 2 := by
  decide

end GlXe3000.Cellular.Watchdog
