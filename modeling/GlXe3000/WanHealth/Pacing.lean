import GlXe3000.WanHealth.Daemon

/-! # The pace of the recoveries of the uplink watchdog

The counter of the daemon is the length of a streak of passes at the end of the run, all of them
counted. The streak starts behind the grace of the last repair, and every pass in it is followed by a
sleep that no signal ends. -/

namespace GlXe3000.WanHealth

def Settings.streakTime (cfg : Settings) : Nat := (cfg.failThreshold - 1) * cfg.checkPeriod

def IsStreak (rs : List Record) : Prop :=
  ∀ r ∈ rs, r.verdict = .contradiction ∧ r.counted = true

/-- From `first` on the passes are a streak, and `n` of them came after it. -/
def EndsInStreak (records : List Record) (first : Record) (n : Nat) : Prop :=
  ∃ earlier rest, records = earlier ++ first :: rest ∧ rest.length = n ∧ IsStreak (first :: rest)

def Preceded (cfg : Settings) (records : List Record) : Prop :=
  ∀ passes r v, passes ++ [r] <+: records → r.recovery = some v →
    ∃ first, EndsInStreak (passes ++ [r]) first (cfg.failThreshold - 1) ∧
      first.checkedAt + cfg.streakTime ≤ v.startedAt

def Record.executed (r : Record) : Option Recovery :=
  r.recovery.filter fun v => v.repair.isSome

def Apart (cfg : Settings) (records : List Record) : Prop :=
  records.Pairwise fun r r' => ∀ v ∈ r.executed, ∀ v' ∈ r'.executed,
    v.finishedAt + (cfg.resetGrace + cfg.streakTime) ≤ v'.startedAt

structure Inv (cfg : Settings) (run : Run) : Prop where
  streak : run.state.failCount = 0 ∨
    ∃ first, EndsInStreak run.records first (run.state.failCount - 1) ∧
      run.state.graceUntil ≤ first.checkedAt ∧
      first.checkedAt + run.state.failCount * cfg.checkPeriod ≤ run.state.now
  failCount_le : run.state.failCount ≤ cfg.failThreshold - 1
  grace : ∀ r ∈ run.records, ∀ v ∈ r.executed,
    v.finishedAt + cfg.resetGrace ≤ run.state.graceUntil
  preceded : Preceded cfg run.records
  apart : Apart cfg run.records

section
variable {cfg : Settings} {records : List Record} {first r : Record} {n : Nat}

theorem EndsInStreak.single (hr : r.verdict = .contradiction ∧ r.counted = true) :
    EndsInStreak (records ++ [r]) r 0 := by
  refine ⟨records, [], rfl, rfl, fun r' hr' => ?_⟩
  obtain rfl := List.mem_singleton.1 hr'
  exact hr

theorem EndsInStreak.concat (h : EndsInStreak records first n)
    (hr : r.verdict = .contradiction ∧ r.counted = true) :
    EndsInStreak (records ++ [r]) first (n + 1) := by
  obtain ⟨earlier, rest, rfl, rfl, hstreak⟩ := h
  refine ⟨earlier, rest ++ [r], by simp, by simp, fun r' hr' => ?_⟩
  obtain hr' | hr' := List.mem_append.1 (List.cons_append ▸ hr')
  · exact hstreak r' hr'
  · obtain rfl := List.mem_singleton.1 hr'
    exact hr

theorem Preceded.concat (h : Preceded cfg records)
    (hr : ∀ v, r.recovery = some v →
      ∃ first, EndsInStreak (records ++ [r]) first (cfg.failThreshold - 1) ∧
        first.checkedAt + cfg.streakTime ≤ v.startedAt) :
    Preceded cfg (records ++ [r]) := by
  intro passes r' v hle hv
  obtain heq | hle := List.prefix_concat_iff.1 hle
  · obtain ⟨rfl, hr'⟩ := List.append_inj' heq rfl
    obtain rfl := List.singleton_inj.1 hr'
    exact hr v hv
  · exact h passes r' v hle hv

theorem Apart.concat (h : Apart cfg records)
    (hr : ∀ r₀ ∈ records, ∀ v ∈ r₀.executed, ∀ v' ∈ r.executed,
      v.finishedAt + (cfg.resetGrace + cfg.streakTime) ≤ v'.startedAt) :
    Apart cfg (records ++ [r]) := by
  refine List.pairwise_append.2 ⟨h, List.pairwise_singleton _ r, fun r₀ hr₀ r' hr' => ?_⟩
  obtain rfl := List.mem_singleton.1 hr'
  exact hr r₀ hr₀

theorem executed_eq_none (h : r.recovery = none) : r.executed = none := by
  unfold Record.executed
  rw [h]
  rfl

theorem recovery_of_mem_executed {v : Recovery} (h : v ∈ r.executed) :
    r.recovery = some v ∧ v.repair.isSome = true := by
  obtain ⟨hv, hrepair⟩ := Option.filter_eq_some_iff.1 h
  exact ⟨hv, hrepair⟩

end

section
variable {cfg : Settings} {run : Run} {s : State} {r : Record}

theorem Inv.reset (h : Inv cfg run) (hr : r.recovery = none) (hfail : s.failCount = 0)
    (hgrace : s.graceUntil = run.state.graceUntil) : Inv cfg ⟨s, run.records ++ [r]⟩ where
  streak := .inl hfail
  failCount_le := by
    dsimp only
    omega
  grace := by
    intro r' hr' v hv
    dsimp only
    rw [hgrace]
    obtain hr' | hr' := List.mem_append.1 hr'
    · exact h.grace r' hr' v hv
    · obtain rfl := List.mem_singleton.1 hr'
      rw [executed_eq_none hr] at hv
      cases hv
  preceded := h.preceded.concat fun v hv => by
    rw [hr] at hv
    cases hv
  apart := h.apart.concat fun _ _ _ _ v' hv' => by
    rw [executed_eq_none hr] at hv'
    cases hv'

theorem Inv.streak_concat (h : Inv cfg run) (hr : r.verdict = .contradiction ∧ r.counted = true)
    (hgrace : run.state.graceUntil ≤ r.checkedAt) (hnow : run.state.now ≤ r.checkedAt) :
    ∃ first, EndsInStreak (run.records ++ [r]) first run.state.failCount ∧
      run.state.graceUntil ≤ first.checkedAt ∧
      first.checkedAt + run.state.failCount * cfg.checkPeriod ≤ r.checkedAt := by
  obtain hzero | ⟨first, hstreak, hfirst, htime⟩ := h.streak
  · rw [hzero]
    exact ⟨r, .single hr, hgrace, by omega⟩
  · by_cases hzero : run.state.failCount = 0
    · rw [hzero]
      exact ⟨r, .single hr, hgrace, by omega⟩
    · have hconcat := hstreak.concat hr
      rw [Nat.sub_add_cancel (Nat.one_le_iff_ne_zero.2 hzero)] at hconcat
      exact ⟨first, hconcat, hfirst, Nat.le_trans htime hnow⟩

/-- In the grace there is no streak: a streak starts behind the grace, and time does not go back. -/
theorem Inv.failCount_eq_zero (h : Inv cfg run) (hnow : run.state.now ≤ t)
    (ht : t < run.state.graceUntil) : run.state.failCount = 0 := by
  obtain hzero | ⟨first, -, hfirst, htime⟩ := h.streak
  · exact hzero
  · omega

theorem Inv.count (h : Inv cfg run) (hr : r.verdict = .contradiction ∧ r.counted = true)
    (hrecovery : r.recovery = none) (hle : run.state.graceUntil ≤ r.checkedAt)
    (hnow : run.state.now ≤ r.checkedAt) (hlt : run.state.failCount + 1 < cfg.failThreshold)
    (hfail : s.failCount = run.state.failCount + 1) (hsleep : r.checkedAt + cfg.checkPeriod ≤ s.now)
    (hgrace : s.graceUntil = run.state.graceUntil) : Inv cfg ⟨s, run.records ++ [r]⟩ := by
  have hreset : Inv cfg ⟨{ s with failCount := 0 }, run.records ++ [r]⟩ :=
    h.reset hrecovery rfl hgrace
  refine ⟨.inr ?_, ?_, hreset.grace, hreset.preceded, hreset.apart⟩
  · obtain ⟨first, hstreak, hfirst, htime⟩ := h.streak_concat hr hle hnow
    refine ⟨first, ?_, ?_, ?_⟩
    · rw [hfail]
      exact hstreak
    · rw [hgrace]
      exact hfirst
    · dsimp only
      rw [hfail, Nat.add_mul, Nat.one_mul]
      omega
  · dsimp only
    omega

theorem Inv.recover {v : Recovery} (h : Inv cfg run)
    (hr : r.verdict = .contradiction ∧ r.counted = true) (hrecovery : r.recovery = some v)
    (hle : run.state.graceUntil ≤ r.checkedAt) (hnow : run.state.now ≤ r.checkedAt)
    (hge : cfg.failThreshold ≤ run.state.failCount + 1) (hfail : s.failCount = 0)
    (hstart : r.checkedAt ≤ v.startedAt) (hfinish : v.startedAt ≤ v.finishedAt)
    (hgrace : s.graceUntil =
      if v.repair.isSome then v.finishedAt + cfg.resetGrace else run.state.graceUntil) :
    Inv cfg ⟨s, run.records ++ [r]⟩ := by
  obtain ⟨first, hstreak, hfirst, htime⟩ := h.streak_concat hr hle hnow
  have hcount : run.state.failCount = cfg.failThreshold - 1 := by
    have := h.failCount_le
    omega
  rw [hcount] at hstreak htime
  have hstarted : first.checkedAt + cfg.streakTime ≤ v.startedAt := Nat.le_trans htime hstart
  have hlater : run.state.graceUntil ≤ s.graceUntil := by
    rw [hgrace]
    split
    · omega
    · exact Nat.le_refl _
  have hv {v' : Recovery} (hv' : v' ∈ r.executed) : v = v' ∧ v.repair.isSome = true := by
    obtain ⟨hv', hrepair⟩ := recovery_of_mem_executed hv'
    obtain rfl := Option.some.inj (hrecovery.symm.trans hv')
    exact ⟨rfl, hrepair⟩
  refine ⟨.inl hfail, ?_, fun r' hr' v' hv' => ?_, ?_, ?_⟩
  · dsimp only
    omega
  · obtain hr' | hr' := List.mem_append.1 hr'
    · exact Nat.le_trans (h.grace r' hr' v' hv') hlater
    · obtain rfl := List.mem_singleton.1 hr'
      obtain ⟨rfl, hrepair⟩ := hv hv'
      have hend : s.graceUntil = v.finishedAt + cfg.resetGrace := hgrace.trans (if_pos hrepair)
      exact Nat.le_of_eq hend.symm
  · refine h.preceded.concat fun v' hv' => ?_
    obtain rfl := Option.some.inj (hrecovery.symm.trans hv')
    exact ⟨first, hstreak, hstarted⟩
  · refine h.apart.concat fun r₀ hr₀ v₀ hv₀ v' hv' => ?_
    obtain ⟨rfl, -⟩ := hv hv'
    have := h.grace r₀ hr₀ v₀ hv₀
    omega

end

theorem start_inv (cfg : Settings) (now : Nat) : Inv cfg (start cfg now) where
  streak := .inl rfl
  failCount_le := Nat.zero_le _
  grace := fun _ hr => nomatch hr
  preceded := fun passes r _ hle _ => absurd (List.prefix_nil.1 hle) (by simp)
  apart := .nil

theorem step_inv (h : Inv cfg run) : Inv cfg ((machine cfg).step run p) := by
  obtain ⟨hnow, -⟩ := le_checkedAt cfg p run.state
  cases pass_effect cfg p run.state with
  | agreed hcounted hrecovery hverdict hfail hgrace => exact h.reset hrecovery hfail hgrace
  | graced hcounted hrecovery hlt hfail hgrace =>
    exact h.reset hrecovery (hfail.trans (h.failCount_eq_zero hnow hlt)) hgrace
  | counted hcounted hrecovery hverdict hle hlt hfail hsleep hgrace =>
    exact h.count ⟨hverdict, hcounted⟩ hrecovery hle hnow hlt hfail hsleep hgrace
  | recovered hcounted hrecovery hverdict hle hge hfail hstart hfinish hgrace =>
    exact h.recover ⟨hverdict, hcounted⟩ hrecovery hle hnow hge hfail hstart hfinish hgrace

/-- Whatever the probes find, whatever mwan3 says and whenever a signal comes: a recovery comes at
the end of as many counted contradictions in a row as the threshold says, over at least a check
period for each but the last, and two executed recoveries are apart by the grace and such a streak. -/
theorem recoveries_paced (cfg : Settings) (now : Nat) (ps : List Pass) :
    Preceded cfg ((machine cfg).run (start cfg now) ps).records ∧
      Apart cfg ((machine cfg).run (start cfg now) ps).records := by
  have hps : (machine cfg).Admits (fun _ _ => True) (start cfg now) ps :=
    Machine.Admits.of_forall (fun _ _ _ => trivial) _
  have hrun : Inv cfg ((machine cfg).run (start cfg now) ps) :=
    Machine.invariant (I := Inv cfg) (fun _ _ _ h => step_inv h) hps (start_inv cfg now)
  exact ⟨hrun.preceded, hrun.apart⟩

def wedged : Pass where
  ifaces := [⟨"wan", true, true, true, .online, "eth0", none, ⟨[], false, []⟩⟩]
  hasLed := true
  ledEnable := true
  probing := 2
  logging := 0
  repairing := 3
  wake := some 1
  late := 0

-- the signals shorten the sleeps in the first grace, and no others
example : ((machine defaults).run (start defaults 0) (List.replicate 44 wedged)).records.filterMap
    Record.executed = [⟨173, 176, some .resetMwan3⟩] := by
  decide

end GlXe3000.WanHealth
