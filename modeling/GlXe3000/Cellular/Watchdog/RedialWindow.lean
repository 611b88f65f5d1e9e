import GlXe3000.Cellular.Watchdog.OneRung

/-! # How close together redials come

The limiter of `do_redial` is a `Window`. A window starts with the first redial after the last one
has run out, however late in it a redial came, so the redials at the end of one window and at the
start of the next lie as close together as they happen to. Only where a window is never opened less
than its length after a redial is there a bound on every interval. -/

namespace GlXe3000.Cellular.Watchdog
open Observer

namespace Entry

def redialTime : Entry → Option Nat
  | .start (.redial now) _ => some now
  | _ => none

/-- A call of `do_redial`, let through or not. -/
def isRedialCall : Entry → Bool
  | .start (.redial _) _ | .backOff => true
  | _ => false

def isClear : Entry → Bool
  | .resetDone | .standDown => true
  | _ => false

end Entry

namespace State

def redialTimes (s : State) : List Nat := s.log.filterMap Entry.redialTime

def redialCalls (s : State) : Nat := s.log.countP Entry.isRedialCall

def clears (s : State) : Nat := s.log.countP Entry.isClear

def window (s : State) : Window := ⟨s.windowStart, s.redialCount⟩

end State

theorem countRedial_window (c : Config) (now : Nat) (s : State) :
    (countRedial c now s).window = s.window.call c.triggerWindow now := by
  by_cases h : s.windowStart + c.triggerWindow < now <;>
    simp [countRedial, Window.call, State.window, h]

theorem window_eq {s s' : State} (h : s'.limits = s.limits) : s'.window = s.window := by
  simp only [State.limits, Limits.mk.injEq] at h
  simp only [State.window, h]

/-! ## One call per tick -/

theorem Weight.redialCalls : Weight fun e => e.isRedialCall.toNat where
  rest e he := by cases e <;> first | rfl | simp [Entry.isCall] at he
  call e := Bool.toNat_le e.isRedialCall
  handOver r e hr _ := by
    have hr' : (Entry.start r false).isRedialCall = false := by
      cases r <;> first | rfl | simp [Rung.handsOver] at hr
    rw [hr']
    simpa using Bool.toNat_le e.isRedialCall

theorem redialCalls_step (c : Config) (s : State) (env : Nat → World) :
    (s.step c env).redialCalls ≤ s.redialCalls + 1 := by
  have hμ := Weight.redialCalls
  have hrel : Keeps env (Spent (fun e => e.isRedialCall.toNat) s.redialCalls) (relockReconnect c) :=
    hμ.relockReconnect (d := 0) Weight.resetKeeps_true (fun _ h => h) fun t => Nat.le_refl 0
  have hsim := hμ.loose.simChecks hrel
  have htick := hμ.tick (b := 1) (Nat.le_refl _) (hsim.mono (fun _ _ h => h) fun _ i s' h =>
    h.mono (Nat.le_refl _) fun _ => ⟨.inl ⟨Nat.one_pos, .inl fun _ => rfl⟩, .inl Nat.one_pos⟩) 0 s
  have := (htick ⟨Nat.le_of_eq (State.cost_toNat _ s), trivial⟩).1
  rwa [State.cost_toNat] at this

/-- No run calls for more redials than it has ticks. -/
theorem redialCalls_le_ticks (c : Config) (s : State) (es : List (Nat → World)) :
    ((machine c).run s es).redialCalls ≤ s.redialCalls + es.length := by
  induction es generalizing s with
  | nil => exact Nat.le_refl _
  | cons env es ih =>
    have hrun := ih (s.step c env)
    have hstep := redialCalls_step c s env
    rw [Machine.run_cons, List.length_cons]
    exact hrun.trans (by omega)

/-! ## The window -/

/-- A tick finds the redial window run out only when every redial but the first `n` on record is
more than the window's length ago. -/
def WindowGap (c : Config) (n : Nat) (s : State) (env : Nat → World) : Prop :=
  ∀ i, s.windowStart + c.triggerWindow < (env i).clock →
    ∀ g ∈ s.redialTimes.drop n, g + c.triggerWindow < (env i).clock

/-- In a tick that began in `s₀`: before its redial nothing has changed, and after it the redials
are paced. -/
structure TickPaced (c : Config) (n t : Nat) (s₀ s : State) : Prop where
  grows : ∃ l, s.log = s₀.log ++ l
  before : s.clears = s₀.clears → s.redialCalls = s₀.redialCalls →
    s.window = s₀.window ∧ s.redialTimes = s₀.redialTimes
  after : s.clears = s₀.clears → s.redialCalls = s₀.redialCalls + 1 →
    s.window.Paced c.triggerMax c.triggerWindow t (s.redialTimes.drop n)

namespace TickPaced
variable {c : Config} {n t : Nat} {s₀ s s' : State}

theorem wait (h : TickPaced c n t s₀ s) (ht : t ≤ t') : TickPaced c n t' s₀ s :=
  { h with after := fun hclear hcall => (h.after hclear hcall).wait ht }

theorem congr (h : TickPaced c n t s₀ s) (hgrows : ∃ l, s'.log = s₀.log ++ l)
    (hcalls : s'.redialCalls = s.redialCalls) (hclears : s'.clears = s.clears)
    (htimes : s'.redialTimes = s.redialTimes) (hwindow : s'.window = s.window) :
    TickPaced c n t s₀ s' :=
  ⟨hgrows, by rw [hcalls, hclears, htimes, hwindow]; exact h.before,
    by rw [hcalls, hclears, htimes, hwindow]; exact h.after⟩

theorem frame (h : TickPaced c n t s₀ s) (hlog : s'.log = s.log) (hwindow : s'.window = s.window) :
    TickPaced c n t s₀ s' :=
  h.congr (hlog ▸ h.grows) (by simp [State.redialCalls, hlog]) (by simp [State.clears, hlog])
    (by simp [State.redialTimes, hlog]) hwindow

theorem append (h : TickPaced c n t s₀ s) {e : Entry} (hcall : e.isRedialCall = false)
    (hclear : e.isClear = false) (hlog : s'.log = s.log ++ [e]) (hwindow : s'.window = s.window) :
    TickPaced c n t s₀ s' := by
  have htime : e.redialTime = none := by
    cases e with
    | start r nested => cases r <;> first | rfl | simp [Entry.isRedialCall] at hcall
    | _ => rfl
  refine h.congr (hlog ▸ grows_append e h.grows) ?_ ?_ ?_ hwindow
  · simp [State.redialCalls, hlog, hcall]
  · simp [State.clears, hlog, hclear]
  · simp [State.redialTimes, hlog, htime]

theorem calls_le (h : TickPaced c n t s₀ s) : s₀.redialCalls ≤ s.redialCalls := by
  obtain ⟨l, hl⟩ := h.grows
  simp [State.redialCalls, hl]

theorem clear (h : TickPaced c n t s₀ s) {e : Entry} (hclear : e.isClear = true)
    (hlog : s'.log = s.log ++ [e]) : TickPaced c n t s₀ s' := by
  have hlt : s₀.clears < s'.clears := by
    obtain ⟨l, hl⟩ := h.grows
    simp [State.clears, hlog, hl, hclear]
  exact ⟨hlog ▸ grows_append e h.grows, fun heq => absurd heq (Nat.ne_of_gt hlt),
    fun heq => absurd heq (Nat.ne_of_gt hlt)⟩

theorem call (h : TickPaced c n t s₀ s) (nested : Bool) (hn : n ≤ s₀.redialTimes.length)
    (hstart : s₀.window.Paced c.triggerMax c.triggerWindow now (s₀.redialTimes.drop n))
    (hgap : s₀.windowStart + c.triggerWindow < now →
      ∀ g ∈ s₀.redialTimes.drop n, g + c.triggerWindow < now)
    (he : e = if c.triggerMax < (s.window.call c.triggerWindow now).count then .backOff
      else .start (.redial now) nested)
    (hlog : s'.log = s.log ++ [e]) (hwindow : s'.window = s.window.call c.triggerWindow now) :
    TickPaced c n now s₀ s' := by
  have hcall : e.isRedialCall = true := by rw [he]; split_ifs <;> rfl
  have hclear : e.isClear = false := by rw [he]; split_ifs <;> rfl
  have hcalls : s'.redialCalls = s.redialCalls + 1 := by simp [State.redialCalls, hlog, hcall]
  have hclears : s'.clears = s.clears := by simp [State.clears, hlog, hclear]
  have hle := h.calls_le
  refine ⟨hlog ▸ grows_append e h.grows, fun _ heq => by omega, fun hc heq => ?_⟩
  -- it is the first call of the tick, so the window is as the tick found it
  obtain ⟨hw, htimes⟩ := h.before (hclears ▸ hc) (by omega)
  have hlast : s'.redialTimes = s₀.redialTimes ++ [e].filterMap Entry.redialTime := by
    rw [← htimes, State.redialTimes, hlog, List.filterMap_append, State.redialTimes]
  rw [hwindow, hlast, he, hw]
  split_ifs with hmax
  · have hnone : [Entry.backOff].filterMap Entry.redialTime = [] := rfl
    rw [hnone, List.append_nil]
    exact hstart.refuse (Nat.le_refl now) hgap
  · rw [List.drop_append_of_le_length hn]
    exact hstart.grant (Nat.le_refl now) hgap (Nat.le_of_not_lt hmax)

theorem audit {env : Nat → World} (hmono : ∀ i j, i ≤ j → (env i).clock ≤ (env j).clock)
    (hn : n ≤ s₀.redialTimes.length)
    (hstart : s₀.window.Paced c.triggerMax c.triggerWindow s₀.clock (s₀.redialTimes.drop n))
    (hclock : s₀.clock ≤ (env 0).clock) (hgap : WindowGap c n s₀ env) :
    Audit c env fun i s => TickPaced c n (env i).clock s₀ s where
  look i s h := h.wait (hmono i (i + 1) (Nat.le_succ i))
  frame i s s' hl hlog h := h.frame hlog (window_eq hl)
  note i s e he h := by
    refine h.append (e := e) ?_ ?_ rfl rfl <;> cases e <;> first | rfl | simp [Entry.isNote] at he
  setCfun i s k h := h.append rfl rfl rfl rfl
  rung i s r hr h := by
    refine h.append (e := .start r false) ?_ rfl rfl rfl
    cases r <;> first | rfl | exact absurd rfl (hr _).1
  redial i s nested h := by
    have hpaced := hstart.wait (Nat.le_trans hclock (hmono 0 i (Nat.zero_le i)))
    have hwindow := countRedial_window c (env i).clock s
    have hcount : (countRedial c (env i).clock s).redialCount = _ := congrArg Window.count hwindow
    refine wait (h.call nested hn hpaced (hgap i) rfl ?_ ?_) (hmono i (i + 1) (Nat.le_succ i))
    · simp only [countRedial_log, hcount]
    · exact hwindow
  reset i s nested h := by
    refine wait ?_ (hmono i (i + 1) (Nat.le_succ i))
    have hwindow : (rollResetWindow c (env i).clock s).window = s.window := by
      unfold rollResetWindow
      split_ifs <;> rfl
    have hroll : TickPaced c n (env i).clock s₀ (rollResetWindow c (env i).clock s) :=
      h.frame (rollResetWindow_log c (env i).clock s) hwindow
    dsimp only
    split_ifs
    · exact hroll
    · exact hroll.append (e := .start (.hardReset (env i).clock) nested) rfl rfl rfl rfl
  resetDone i s h := h.clear rfl rfl
  standDown i s h := h.clear rfl rfl
  good i s h := h.append (e := .good) rfl rfl rfl rfl

end TickPaced

/-- The redials since the first `n` are paced, unless the counter has been cleared since it had been
cleared `k` times. -/
structure RunPaced (c : Config) (n k : Nat) (s : State) : Prop where
  length_le : n ≤ s.redialTimes.length
  clears_le : k ≤ s.clears
  paced : s.clears = k →
    s.window.Paced c.triggerMax c.triggerWindow s.clock (s.redialTimes.drop n)

theorem RunPaced.step {s : State} {env : Nat → World}
    (h : RunPaced c n k s) (hclock : ClockMonotone s env) (hgap : WindowGap c n s env) :
    RunPaced c n k (s.step c env) := by
  obtain ⟨l, hl⟩ := log_step c s env
  have hclears : s.clears ≤ (s.step c env).clears := by simp [State.clears, hl]
  have hcalls : s.redialCalls ≤ (s.step c env).redialCalls := by simp [State.redialCalls, hl]
  refine ⟨?_, Nat.le_trans h.clears_le hclears, fun hk => ?_⟩
  · refine Nat.le_trans h.length_le ?_
    simp [State.redialTimes, hl]
  have hsame : s.clears = k := Nat.le_antisymm (hk ▸ hclears) h.clears_le
  have hstart : TickPaced c n (env 0).clock s s :=
    ⟨⟨[], by simp⟩, fun _ _ => ⟨rfl, rfl⟩,
      fun _ heq => absurd heq (Nat.ne_of_lt (Nat.lt_succ_self _))⟩
  have hend : TickPaced c n (s.step c env).clock s (s.step c env) :=
    ((TickPaced.audit hclock.1 h.length_le (h.paced hsame) hclock.2 hgap).tick 0 s hstart).frame
      rfl rfl
  have honce := redialCalls_step c s env
  rcases Nat.lt_or_ge s.redialCalls (s.step c env).redialCalls with hlt | hge
  · exact hend.after (hk.trans hsame.symm) (by omega)
  · obtain ⟨hwindow, htimes⟩ := hend.before (hk.trans hsame.symm) (by omega)
    rw [hwindow, htimes]
    exact (h.paced hsame).wait (Nat.le_trans hclock.2 (hclock.1 0 _ (Nat.zero_le _)))

/-- In a run in which no hard reset and no stand-down clears the redial counter, the clock does not
go back and a window is never opened less than its length after a redial of the run, no interval of
that length has more than `TRIGGER_MAX` of the run's redials. -/
theorem redials_within_window (c : Config) (s : State) (es : List (Nat → World))
    (hclear : ((machine c).run s es).clears = s.clears)
    (hsteps : (machine c).Admits
      (fun t env => ClockMonotone t env ∧ WindowGap c s.redialTimes.length t env) s es) (a : Nat) :
    (Window.within c.triggerWindow a
      (((machine c).run s es).redialTimes.drop s.redialTimes.length)).length ≤ c.triggerMax := by
  have hstart : RunPaced c s.redialTimes.length s.clears s := by
    refine ⟨Nat.le_refl _, Nat.le_refl _, fun _ => ?_⟩
    rw [List.drop_length]
    exact .nil ..
  have hend := Machine.invariant (I := RunPaced c s.redialTimes.length s.clears)
    (fun t env hguard h => h.step hguard.1 hguard.2) hsteps hstart
  exact (hend.paced hclear).spread a

/-- An attached modem whose interface is up; `rx` bytes have come in, and no probe is answered. -/
def silentLink (now rx : Nat) : World :=
  { deadModem with
    clock := now
    uptime := now
    up := true
    device := "rmnet_mhi0"
    rxBytes := fun _ => some rx
    reply := fun
      | .at => "OK"
      | .cpin => "+CPIN: READY"
      | .cgatt => "+CGATT: 1"
      | .cfun => "+CFUN: 1"
      | _ => []
    qmiNode := true }

/-- An interface that stays down: a redial, and 400 seconds later the power cycle with another. -/
theorem redials_within_window_two_windows :
    let c : Config := { offlineThreshold := 1 }
    let down (now : Nat) : Nat → World := fun _ => { silentLink now 0 with up := false }
    let s := (machine c).run (initial c) [down 1000, down 1400]
    s.redialTimes = [1000, 1400] ∧ (Window.within 300 1000 s.redialTimes).length ≤ 3 := by
  intro c down s
  have hlate : ∀ g ∈ ((machine c).run (initial c) [down 1000]).redialTimes, g + 300 < 1400 := by
    decide +kernel
  refine ⟨by decide +kernel, redials_within_window c (initial c) [down 1000, down 1400]
    (by decide +kernel) ⟨⟨⟨fun _ _ _ => Nat.le_refl _, Nat.zero_le _⟩, fun _ _ g hg => ?_⟩,
      ⟨⟨fun _ _ _ => Nat.le_refl _, ?_⟩, fun _ _ => hlate⟩, trivial⟩ 1000⟩
  · simp [initial, State.redialTimes] at hg
  · decide +kernel

/-- Seven ticks, ten seconds apart: the interface is up again, traffic comes in once, and then five
ticks see none. -/
def stall (now : Nat) : List (Nat → World) :=
  (List.range 7).map fun k _ => silentLink (now + 10 * k) (if k = 0 then now else now + 1)

/-- The default settings and a link that stalls five times: the window of the first redial is over
70 seconds after the third, and five minutes see four redials. -/
theorem four_redials_in_window :
    let s := (machine {}).run (initial {}) ([940, 1160, 1230, 1300, 1370].flatMap stall)
    s.clears = 0 ∧ s.redialTimes = [1000, 1220, 1290, 1360, 1430] ∧
      (Window.within 300 1220 s.redialTimes).length = 4 := by
  decide +kernel

end GlXe3000.Cellular.Watchdog
