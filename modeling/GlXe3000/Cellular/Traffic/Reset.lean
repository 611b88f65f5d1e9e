import GlXe3000.Lib.Machine
import GlXe3000.Cellular.Traffic.Daemon

/-! # The total after it was set

What stands after all writes and samples is UCI's total, and the unsaved bytes with it where the
daemon's base is that total. Samples move it by what they add. The other steps do so only under
conditions: a total that happens to be the daemon's base is not noticed, a daemon that stops loses
what it has not saved, and until it has sampled again it reports the total from before the write. -/

namespace GlXe3000.Cellular.Traffic

structure State where
  uci : Uci
  daemon : Option Daemon := none
  due : Option Int := none
  reports : List (Int × Option Int) := []
  deriving DecidableEq

/-- `get_traffic_config` asks the daemon, and reads UCI where it does not answer. -/
def State.total (s : State) : Int :=
  match s.daemon with
  | none => s.uci.used
  | some d => d.trafficTotal s.uci

inductive Event
  | setTrafficConfig (w : Write)
  /-- `reset_data_usage`. -/
  | reset
  | sample (counters : Option (Nat × Nat)) (now : Int) (between : Write)
  | report
  | start (persistInterval : Int)
  | stop
  deriving DecidableEq

def State.step (s : State) : Event → State
  | .setTrafficConfig w => { s with uci := s.uci.write w, due := w.trafficTotal.or s.due }
  | .reset =>
    match s.daemon with
    | none => s
    | some d =>
      let r := resetTraffic d s.uci
      { s with daemon := some r.1, uci := r.2, due := some 0 }
  | .sample counters now between =>
    match s.daemon with
    | none => s
    | some d =>
      let r := trafficSample counters now between d s.uci
      { s with
        daemon := some r.1
        uci := r.2
        due := between.trafficTotal.or (s.due.map (· + addedBy counters d)) }
  | .report => { s with reports := (s.total, s.due) :: s.reports }
  | .start persistInterval =>
    match s.daemon with
    | none => { s with daemon := some (Daemon.start persistInterval s.uci) }
    | some _ => s
  | .stop => { s with daemon := none }

def machine : Machine State Event := ⟨State.step⟩

def InStep (d : Daemon) (u : Uci) : Prop := d.baseTotal = none ∨ d.baseTotal = some u.used

instance (d : Daemon) (u : Uci) : Decidable (InStep d u) := by unfold InStep; infer_instance

def standing (d : Daemon) (u : Uci) : Int :=
  if InStep d u then u.used + d.memDelta else u.used

def State.standing (s : State) : Int :=
  match s.daemon with
  | none => s.uci.used
  | some d => Traffic.standing d s.uci

/-! ## Samples -/

section
variable {d : Daemon} {u : Uci} {w : Write}

theorem write_used (h : w.trafficTotal = none) : (u.write w).used = u.used := by
  simp [Uci.write, h]

theorem account_base (d : Daemon) (persisted : Int) (delta : Nat) :
    (d.account persisted delta).baseTotal = some persisted := by
  unfold Daemon.account Daemon.adopt
  split
  · rfl
  · next hbase =>
    dsimp only
    split
    · next h => rw [hbase, h]
    · rfl

theorem adopt_memDelta (d : Daemon) (u : Uci) :
    u.used + (d.adopt u.used).memDelta = standing d u := by
  unfold Daemon.adopt standing
  split
  · next hbase => rw [if_pos (.inl hbase)]
  · next base hbase =>
    split
    · next h => rw [if_pos (.inr (by rw [hbase, h]))]
    · next h =>
      have hstep : ¬InStep d u := by
        rintro (hstep | hstep) <;> rw [hbase] at hstep <;> cases hstep
        exact h rfl
      rw [if_neg hstep]
      exact Int.add_zero _

theorem persist_total (now : Int) (h : d.baseTotal = some u.used) :
    (persistTraffic now d u).1.baseTotal = some (persistTraffic now d u).2.used ∧
      (persistTraffic now d u).2.used + (persistTraffic now d u).1.memDelta =
        u.used + d.memDelta := by
  unfold persistTraffic Daemon.trafficTotal
  split
  · exact ⟨h, rfl⟩
  · split
    · exact ⟨h, rfl⟩
    · simp [h]

theorem sample_standing (hw : w.trafficTotal = none) :
    standing (trafficSample counters now w d u).1 (trafficSample counters now w d u).2 =
      standing d u + addedBy counters d := by
  have hwrite : standing d (u.write w) = standing d u := by
    simp only [standing, InStep, write_used hw]
  unfold trafficSample addedBy
  cases counters with
  | none => simpa using hwrite
  | some counters =>
    simp only [Option.bind_some]
    split
    · next h => simpa [h, standing, InStep] using hwrite
    · next h => simpa [h, standing, InStep] using hwrite
    · next delta h =>
      have hused : (d.account u.used (delta + 1)).baseTotal = some (u.write w).used := by
        rw [account_base, write_used hw]
      obtain ⟨hbase, htotal⟩ := persist_total now hused
      rw [h, ← adopt_memDelta d u]
      refine (if_pos (Or.inr hbase)).trans (htotal.trans ?_)
      have hmem : (d.account u.used (delta + 1)).memDelta =
          (d.adopt u.used).memDelta + (delta + 1) := rfl
      rw [write_used hw, hmem, Option.getD_some]
      omega

end

/-! ## Runs -/

structure Accounted (s : State) : Prop where
  due : ∀ v ∈ s.due, s.standing = v
  reports : ∀ r ∈ s.reports, ∀ v ∈ r.2, r.1 = v

/-- A value is written while it is not the daemon's base or nothing is unsaved, and not in the
middle of a sample; the daemon stops with nothing unsaved that a write has not overtaken; and totals
are asked for while the daemon is in step with UCI. -/
def Noticed (s : State) : Event → Prop
  | .setTrafficConfig w =>
    ∀ v ∈ w.trafficTotal, ∀ d ∈ s.daemon, d.baseTotal.getD v = v → d.memDelta = 0
  | .sample _ _ between => between.trafficTotal = none
  | .report => ∀ d ∈ s.daemon, InStep d s.uci
  | .stop => ∀ d ∈ s.daemon, InStep d s.uci → d.memDelta = 0
  | .reset | .start _ => True

instance (s : State) : DecidablePred (Noticed s) := by
  intro e; cases e <;> unfold Noticed <;> infer_instance

theorem write_standing {s : State} (hs : Accounted s) (hw : Noticed s (.setTrafficConfig w)) :
    ∀ v ∈ (s.step (.setTrafficConfig w)).due, (s.step (.setTrafficConfig w)).standing = v := by
  intro v hv
  cases htotal : w.trafficTotal with
  | none =>
    have hdue : s.due = some v := by simpa [State.step, htotal] using hv
    rw [← hs.due v hdue]
    simp only [State.standing, State.step, standing, InStep, write_used htotal]
  | some v' =>
    obtain rfl : v' = v := by simpa [State.step, htotal] using hv
    have hused : (s.uci.write w).used = v' := by simp [Uci.write, htotal]
    cases hd : s.daemon with
    | none => simpa [State.standing, State.step, hd] using hused
    | some d =>
      simp only [State.standing, State.step, hd, standing]
      split
      · next hstep =>
        have hbase : d.baseTotal.getD v' = v' := by
          rcases hstep with hstep | hstep <;> simp [hstep, hused]
        simp [hused, hw v' htotal d hd hbase]
      · exact hused

theorem stop_standing {s : State} (h : Noticed s .stop) : (s.step .stop).standing = s.standing := by
  cases hd : s.daemon with
  | none => simp [State.standing, State.step, hd]
  | some d =>
    simp only [State.standing, State.step, hd, standing]
    split
    · next hstep => simp [h d hd hstep]
    · rfl

theorem Accounted.step {s : State} (h : Noticed s e) (hs : Accounted s) : Accounted (s.step e) := by
  cases e with
  | setTrafficConfig w => exact ⟨write_standing hs h, hs.reports⟩
  | reset =>
    cases hd : s.daemon with
    | none => simpa [State.step, hd] using hs
    | some d =>
      simp only [State.step, hd]
      refine ⟨fun v hv => ?_, hs.reports⟩
      cases hv
      simp [State.standing, standing, resetTraffic]
  | sample counters now between =>
    cases hd : s.daemon with
    | none => simpa [State.step, hd] using hs
    | some d =>
      have hbetween : between.trafficTotal = none := h
      simp only [State.step, hd, hbetween, Option.none_or]
      refine ⟨fun v hv => ?_, hs.reports⟩
      obtain ⟨v', hv', rfl⟩ := Option.mem_map.1 hv
      refine (sample_standing hbetween).trans ?_
      have hstanding := hs.due v' hv'
      simp only [State.standing, hd] at hstanding
      rw [hstanding]
  | report =>
    refine ⟨hs.due, List.forall_mem_cons.2 ⟨fun v hv => ?_, hs.reports⟩⟩
    rw [← hs.due v hv]
    unfold State.total State.standing
    cases hd : s.daemon with
    | none => rfl
    | some d =>
      have hstep : InStep d s.uci := h d hd
      have hbase : d.baseTotal.getD s.uci.used = s.uci.used := by
        rcases hstep with hbase | hbase <;> simp [hbase]
      simp [standing, hstep, Daemon.trafficTotal, hbase]
  | start persistInterval =>
    cases hd : s.daemon with
    | some d => simpa [State.step, hd] using hs
    | none =>
      simp only [State.step, hd]
      refine ⟨fun v hv => ?_, hs.reports⟩
      rw [← hs.due v hv]
      simp [State.standing, standing, Daemon.start, hd]
  | stop => exact ⟨fun v hv => (stop_standing h).trans (hs.due v hv), hs.reports⟩

/-- In every run from a stopped daemon whose writes are noticed, every total reported after a write
is the value written and what was sampled since. -/
theorem reported_total_is_due (u : Uci) (es : List Event)
    (h : machine.Admits Noticed { uci := u } es) :
    ∀ r ∈ (machine.run { uci := u } es).reports, ∀ v ∈ r.2, r.1 = v := by
  have hstart : Accounted { uci := u } := ⟨fun v hv => (by cases hv), fun r hr => (by cases hr)⟩
  exact (Machine.invariant (fun s e => Accounted.step) h hstart).reports

/-- A reset from the UI is taken over by the next sample with traffic. -/
theorem reported_total_after_reset :
    let es := [Event.start 300, .sample (some (10, 10)) 1000 {}, .sample (some (20, 25)) 1060 {},
      .sample (some (30, 40)) 1120 {}, .setTrafficConfig { trafficTotal := some 5 },
      .sample (some (31, 42)) 1180 {}, .report]
    machine.Admits Noticed { uci := { used := 100 } } es ∧
      (machine.run { uci := { used := 100 } } es).reports = [(8, some 8)] ∧
      ∀ r ∈ (machine.run { uci := { used := 100 } } es).reports, ∀ v ∈ r.2, r.1 = v :=
  ⟨by decide, by decide, reported_total_is_due { used := 100 } _ (by decide)⟩

/-- Setting the total to the value last saved leaves the unsaved 25 bytes in: 128 is reported where
103 is due. -/
theorem unnoticed_write_keeps_delta :
    let es := [Event.start 300, .sample (some (10, 10)) 1000 {}, .sample (some (20, 25)) 1060 {},
      .setTrafficConfig { trafficTotal := some 100 }, .sample (some (21, 27)) 1120 {}, .report]
    (machine.run { uci := { used := 100, saveTraffic := false } } es).reports =
      [(128, some 103)] := by
  decide

end GlXe3000.Cellular.Traffic
