import GlXe3000.Lib.Machine
import GlXe3000.Lib.Text

/-! # The delay before the next connection

The main loop of `gl-cloud` doubles `reconnect_delay` after every attempt while it is below 160, and
lowers it to 30 if the token is invalid. From 30 the delay is no longer on the ladder 5, 10, 20, ...
that the bound is made for: once the token is valid again it goes on with 60, 120 and 240. -/

namespace GlXe3000.Cloud.Backoff
open Text

/-- What happened to the delay: it was set anew, or it was waited for. -/
inductive Entry
  | reset
  | wait (delay : Nat) (invalid : Bool)
  deriving DecidableEq

structure State where
  delay : Nat
  /-- The option `token`. -/
  token : Option Text
  /-- `force_reconnect_now`. -/
  force : Bool
  /-- The last entry comes first. -/
  log : List Entry

def State.invalid (s : State) : Bool := s.token = some "invalid"

def State.reset (s : State) (delay : Nat) : State :=
  { s with delay := delay, log := .reset :: s.log }

/-- The answer of `check_bind`. -/
inductive BindCode
  | isBind
  | unbind
  | requestFail

/-- The attempts of the main loop, and what happens meanwhile, in any order. -/
inductive Event
  /-- `fetch_server` is refused with code -4. -/
  | refused (bind : BindCode)
  /-- `fetch_server` gets an answer, with or without a token. -/
  | authorized (token : Option Text)
  | conack (rc : Int)
  | bindUrl (bind : BindCode)
  /-- `goodcloud_unbind`, or another process, writes the option. -/
  | setToken (token : Option Text)
  /-- `close_mqtt(true)`. -/
  | reconnect
  /-- The attempt is over, and `force_reconnect_now` is looked at. -/
  | ended

def nextDelay (delay : Nat) (invalid : Bool) : Nat :=
  let delay := if delay = 0 then 5 else if delay < 160 then delay * 2 else delay
  if invalid && 30 < delay then 30 else delay

def machine : Machine State Event where
  step s
    | .refused .isBind => { s with token := some "invalid" }
    | .refused .unbind => { s with token := none }.reset 0
    | .refused .requestFail => s
    | .authorized token => if token.getD [] = [] then s else { s with token := token }
    | .conack rc => if rc = 0 then s.reset 0 else s
    | .bindUrl .unbind => if s.invalid then { s with token := none } else s
    | .bindUrl _ => if s.invalid then s.reset 5 else s
    | .setToken token => { s with token := token }
    | .reconnect => { s with force := true }
    | .ended =>
      if s.force then { s with force := false }
      else { s with
        delay := nextDelay s.delay s.invalid
        log := .wait (nextDelay s.delay s.invalid) s.invalid :: s.log }

/-- The daemon starts, with the token of an earlier run. -/
def start (token : Option Text) : State := ⟨0, token, false, []⟩

/-! ## Delays -/

/-- A delay that is waited for is from 5 to 160, and with an invalid token at most 30. -/
def Entry.Bounded : Entry → Prop
  | .reset => True
  | .wait delay invalid => 5 ≤ delay ∧ delay ≤ 160 ∧ (invalid = true → delay ≤ 30)

/-- Without a reset between them, a delay is not below the one before it, unless the token has become
invalid. -/
def Entry.Follows : Entry → Entry → Prop
  | .wait delay invalid, .wait delay' invalid' =>
    delay' ≤ delay ∨ (invalid' = false ∧ invalid = true)
  | _, _ => True

structure Paced (log : List Entry) : Prop where
  bounded : ∀ e ∈ log, e.Bounded
  follows : log.IsChain Entry.Follows

/-- No attempt is waited for with a valid token when the delay was 120. -/
def OnLadder (s : State) (e : Event) : Prop :=
  e = .ended → s.force = false → s.delay = 120 → s.invalid = true

def ladder : List Nat := [0, 5, 10, 20, 40, 80, 160, 30, 60, 120]

structure Inv (s : State) : Prop where
  delay : s.delay ∈ ladder
  paced : Paced s.log
  last : ∀ delay invalid, s.log.head? = some (.wait delay invalid) → s.delay = delay

theorem nextDelay_mem : ∀ d ∈ ladder, ∀ invalid, (d = 120 → invalid = true) →
    nextDelay d invalid ∈ ladder ∧ (Entry.wait (nextDelay d invalid) invalid).Bounded := by
  unfold Entry.Bounded
  decide

theorem le_nextDelay (d : Nat) : d ≤ nextDelay d false := by
  simp only [nextDelay, Bool.false_and, Bool.false_eq_true, if_false]
  split_ifs <;> omega

theorem le_nextDelay_of_le (h : d ≤ 30) : d ≤ nextDelay d true := by
  simp only [nextDelay, Bool.true_and]
  split_ifs <;> omega

theorem Paced.reset (h : Paced log) : Paced (.reset :: log) where
  bounded := List.forall_mem_cons.2 ⟨trivial, h.bounded⟩
  follows := h.follows.cons fun _ _ => trivial

/-! ## Steps and runs -/

theorem Inv.withToken (h : Inv s) (token : Option Text) :
    Inv { s with token := token } := ⟨h.delay, h.paced, h.last⟩

theorem Inv.reset {s : State} (h : Inv s) (hd : d ∈ ladder) : Inv (s.reset d) where
  delay := hd
  paced := h.paced.reset
  last := by
    intro delay invalid heq
    cases heq

theorem Inv.wait {s : State} (h : Inv s) (hladder : s.delay = 120 → s.invalid = true) :
    Inv { s with
      delay := nextDelay s.delay s.invalid
      log := .wait (nextDelay s.delay s.invalid) s.invalid :: s.log } where
  delay := (nextDelay_mem _ h.delay _ hladder).1
  paced := by
    refine ⟨List.forall_mem_cons.2 ⟨(nextDelay_mem _ h.delay _ hladder).2, h.paced.bounded⟩,
      h.paced.follows.cons fun e he => ?_⟩
    cases e with
    | reset => trivial
    | wait delay invalid =>
      obtain rfl := h.last delay invalid he
      have hbounded := h.paced.bounded _ (List.mem_of_mem_head? he)
      cases hnow : s.invalid with
      | false => exact .inl (le_nextDelay _)
      | true =>
        cases invalid with
        | false => exact .inr ⟨rfl, rfl⟩
        | true => exact .inl (le_nextDelay_of_le (hbounded.2.2 rfl))
  last := by
    intro delay invalid heq
    cases heq
    rfl

theorem step_inv (he : OnLadder s e) (h : Inv s) : Inv (machine.step s e) := by
  cases e with
  | refused bind =>
    cases bind with
    | isBind => exact h.withToken _
    | unbind => exact (h.withToken none).reset (by decide)
    | requestFail => exact h
  | authorized token =>
    simp only [machine]
    split_ifs
    · exact h
    · exact h.withToken token
  | conack rc =>
    simp only [machine]
    split_ifs
    · exact h.reset (by decide)
    · exact h
  | bindUrl bind =>
    cases bind <;> simp only [machine] <;> split_ifs
    · exact h.reset (by decide)
    · exact h
    · exact h.withToken none
    · exact h
    · exact h.reset (by decide)
    · exact h
  | setToken token => exact h.withToken token
  | reconnect => exact ⟨h.delay, h.paced, h.last⟩
  | ended =>
    simp only [machine]
    split_ifs with hforce
    · exact ⟨h.delay, h.paced, h.last⟩
    · exact h.wait (he rfl (by simpa using hforce))

theorem step_log (s : State) (e : Event) : s.log <:+ (machine.step s e).log := by
  cases e with
  | refused bind => cases bind <;> first | exact List.suffix_rfl | exact List.suffix_cons ..
  | bindUrl bind =>
    cases bind <;> simp only [machine] <;> split_ifs <;>
      first | exact List.suffix_rfl | exact List.suffix_cons ..
  | setToken token => exact List.suffix_rfl
  | reconnect => exact List.suffix_rfl
  | _ =>
    simp only [machine]
    split_ifs <;> first | exact List.suffix_rfl | exact List.suffix_cons ..

theorem run_log (s : State) (es : List Event) : s.log <:+ (machine.run s es).log := by
  induction es generalizing s with
  | nil => exact List.suffix_rfl
  | cons e es ih => exact (step_log s e).trans (ih _)

theorem admits_of_paced (h : Inv s)
    (hpaced : Paced (machine.run s es).log) : machine.Admits OnLadder s es := by
  induction es generalizing s with
  | nil => trivial
  | cons e es ih =>
    have he : OnLadder s e := by
      rintro rfl hforce hdelay
      by_contra hvalid
      -- The delay of this attempt is 240, and stays in the log.
      have hmem : .wait 240 false ∈ (machine.step s .ended).log := by
        simp [machine, hforce, hdelay, Bool.not_eq_true _ ▸ hvalid, nextDelay]
      have hbounded := hpaced.bounded _ ((run_log _ es).subset hmem)
      exact absurd hbounded.2.1 (by decide)
    exact ⟨he, ih (step_inv he h) hpaced⟩

theorem start_inv (token : Option Text) : Inv (start token) where
  delay := List.mem_cons_self
  paced := ⟨fun _ he => absurd he List.not_mem_nil, .nil⟩
  last := by
    intro delay invalid heq
    cases heq

/-- The delays of a run are within their bounds and go down only when the token becomes invalid, if
and only if the run never waits with a valid token when the delay was 120. -/
theorem backoff_iff (token : Option Text) (es : List Event) :
    Paced (machine.run (start token) es).log ↔ machine.Admits OnLadder (start token) es :=
  ⟨admits_of_paced (start_inv token),
    fun h => (Machine.invariant (fun _ _ => step_inv) h (start_inv token)).paced⟩

/-- The token is refused when the delay is 40; then a new one is accepted, but not the client. -/
theorem delay_doubled_past_bound :
    (machine.run (start none) [.ended, .ended, .ended, .ended, .refused .isBind, .ended,
      .authorized (some "t"), .ended, .ended, .ended]).log.head? = some (.wait 240 false) := by
  decide

theorem nextDelay_mem_top : ∀ d ∈ 240 :: ladder, ∀ invalid, nextDelay d invalid ∈ 240 :: ladder := by
  decide

/-- Whatever happens, the delay does not get past 240. -/
theorem delay_mem_ladder (token : Option Text) (es : List Event) :
    (machine.run (start token) es).delay ∈ 240 :: ladder := by
  have hzero : 0 ∈ 240 :: ladder := by decide
  refine List.foldlRecOn (motive := fun s : State => s.delay ∈ 240 :: ladder) es _ hzero
    fun s h e _ => ?_
  cases e with
  | refused bind => cases bind <;> first | exact h | exact hzero
  | authorized => simp only [machine]; split_ifs <;> exact h
  | conack => simp only [machine]; split_ifs <;> first | exact hzero | exact h
  | bindUrl bind =>
    cases bind <;> simp only [machine] <;> split_ifs <;>
      first | exact h | exact (by decide : 5 ∈ 240 :: ladder)
  | ended =>
    simp only [machine]
    split_ifs
    · exact h
    · exact nextDelay_mem_top _ h s.invalid
  | _ => exact h

end GlXe3000.Cloud.Backoff
