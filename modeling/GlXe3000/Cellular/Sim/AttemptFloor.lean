import GlXe3000.Cellular.Sim.SingleAttempt

/-! # Automatic entry and the last attempt

`gl-cellular-sim-unlock` refuses to enter a PIN with fewer than two attempts left, but it reads the
counter with one AT command and sends the PIN with a later one, and `set_sim_pin_code` does not take
its lock. Between the two a PIN typed wrong in the UI can use up the attempt the script counted on
(`ui_entry_under_unlocker`). It is the only way: with no refused entry and no swap in that window,
every automatic submission finds two attempts or more. -/

namespace GlXe3000.Cellular.Sim
open Unlock (Pc)

/-- The run that holds the lock has read the counter and not yet sent the PIN. -/
def Sys.counterRead (s : Sys) : Bool := s.holder (·.reading.isSome)

/-- The next step of request `q` is an `AT+CPIN=` that the card in the tray refuses. -/
def Sys.refusedEntry (s : Sys) (q : Nat) (o : Outcome) : Bool :=
  match s.requests q, s.world.card, o.reached with
  | .submit pin _, some c, true => c.refuses pin
  | _, _, _ => false

/-- What a run reads is true, and no entry is refused and no card swapped while a run sits on a
reading of the counter. -/
def ReadingUndisturbed (s : Sys) : Event → Prop
  | .unlock p o => ∀ q ∈ Unlock.query (s.runs p), Truthful s.world q o.reply
  | .enter q o => s.refusedEntry q o = true → s.counterRead = false
  | .swap _ => s.counterRead = false
  | _ => True

instance (s : Sys) : (e : Event) → Decidable (ReadingUndisturbed s e)
  | .unlock .. | .enter .. | .swap _ => by unfold ReadingUndisturbed; infer_instance
  | .launch _ | .killRun _ | .request .. | .killRequest _ | .relock | .setGate ..
  | .setFlashing _ => .isTrue trivial

def World.Covers (w : World) (left : Text) : Prop :=
  2 ≤ Text.toNumber left ∧ ∃ c ∈ w.card, Text.toNumber left ≤ c.left

def World.RunCovered (w : World) (pc : Pc) : Prop := ∀ left ∈ pc.reading, w.Covers left

structure Sys.Floor (s : Sys) : Prop where
  held : s.LockHeld
  runs : ∀ p, s.world.RunCovered (s.runs p)
  log : ∀ e ∈ s.world.log, e.source = .unlocker → 2 ≤ e.left

namespace World
variable {w : World} {left : Text}

theorem Covers.powerUp (h : w.Covers left) : w.powerUp.Covers left := by
  obtain ⟨h2, c, hc, hle⟩ := h
  refine ⟨h2, ?_⟩
  unfold World.powerUp
  cases ht : w.tray with
  | none => exact ⟨c, hc, hle⟩
  | some i =>
    have hci : c = w.cards i := by simpa [World.card, ht, eq_comm] using hc
    exact ⟨(w.cards i).powerUp, by simp [World.card], by simpa [hci] using hle⟩

theorem Covers.submit (h : w.Covers left)
    (hr : ∀ c ∈ w.card, reached = true → c.refuses pin = false) :
    (w.submit source pin reached).Covers left := by
  obtain ⟨h2, c, hc, hle⟩ := h
  refine ⟨h2, ?_⟩
  unfold World.submit
  split
  · next i ht =>
    have hci : c = w.cards i := by simpa [World.card, ht, eq_comm] using hc
    refine ⟨(w.cards i).enter pin, by simp [World.card, ht], Nat.le_trans hle ?_⟩
    rw [hci]
    exact Card.left_le_enter (hr _ (by simp [World.card, ht]) rfl)
  · exact ⟨c, hc, hle⟩

theorem RunCovered.of_unlocked {pc : Pc} (h : pc.locked = false) : w.RunCovered pc := by
  intro left hl
  rw [Pc.locked_of_reading (by rw [hl]; rfl)] at h
  exact absurd h (by simp)

end World

namespace Sys.Floor
variable {s : Sys}

theorem counterRead (h : s.Floor) (hp : left ∈ (s.runs p).reading) : s.counterRead = true := by
  have hr : (s.runs p).reading.isSome = true := by rw [hp]; rfl
  exact h.held.holder (Pc.locked_of_reading hr) hr

theorem of_world (h : s.Floor) {t : Sys} (hruns : t.runs = s.runs) (hheld : t.LockHeld)
    (hcover : s.counterRead = true → ∀ left, s.world.Covers left → t.world.Covers left)
    (hlog : ∀ e ∈ t.world.log, e ∈ s.world.log ∨ e.source = .ui) : t.Floor := by
  refine ⟨hheld, fun p left hp => ?_, fun e he hs => ?_⟩
  · rw [hruns] at hp
    exact hcover (h.counterRead hp) left (h.runs p left hp)
  · rcases hlog e he with he | hui
    · exact h.log e he hs
    · rw [hs] at hui; exact absurd hui (by simp)

theorem unlock (h : s.Floor) (p : Nat) (o : Outcome)
    (ht : ∀ q ∈ Unlock.query (s.runs p), Truthful s.world q o.reply) :
    Floor (s.step (.unlock p o)) := by
  have hheld := h.held.unlock p o
  have hworld : (s.step (.unlock p o)).world = (Unlock.step p o s.world (s.runs p)).2 := rfl
  rcases Unlock.step_world p o s.world (s.runs p) with ⟨pin, left, hpc, hw⟩ | ⟨_, _, _, hw⟩
  · -- The submitting run gives its reading up, and no other run has one.
    have hread : (Unlock.step p o s.world (s.runs p)).1.reading = none := by
      rw [Unlock.step_fst, hpc]
      simp only [Unlock.advance]
      split_ifs <;> rfl
    refine ⟨hheld, forall_update (I := fun _ pc => World.RunCovered _ pc) ?_ ?_, fun e he hs => ?_⟩
    · intro q hq
      refine .of_unlocked (Bool.eq_false_iff.mpr fun hlq => hq ?_)
      exact h.held.unique hlq (by rw [hpc]; rfl)
    · intro left' hl
      rw [hread] at hl
      exact absurd hl (by simp)
    · obtain ⟨h2, c, hc, hle⟩ := h.runs p left (by rw [hpc]; rfl)
      rw [hworld, hw] at he
      rcases s.world.submit_log .unlocker pin o.reached with hl | ⟨i, htray, hl⟩
      · exact h.log e (hl ▸ he) hs
      · rcases List.mem_append.mp (hl ▸ he) with he | he
        · exact h.log e he hs
        · have hci : s.world.cards i = c := by simpa [World.card, htray] using hc
          obtain rfl := List.mem_singleton.mp he
          show 2 ≤ (s.world.cards i).left
          exact hci ▸ Nat.le_trans h2 hle
  · have hcov : ∀ left', s.world.Covers left' → (s.step (.unlock p o)).world.Covers left' := by
      intro left' h'
      rw [hworld, hw]
      exact h'
    refine ⟨hheld, forall_update (I := fun _ pc => World.RunCovered _ pc) ?_ ?_, ?_⟩
    · exact fun q _ left' hl => hcov left' (h.runs q left' hl)
    · intro left' hl
      rw [Unlock.step_fst] at hl
      rcases Unlock.advance_reading hl with ⟨hr, _⟩ | ⟨pin, hpc, rfl, h23⟩
      · exact hcov left' (h.runs p left' hr)
      · have htrue : attemptsOf o.reply ≠ [] →
            ∃ c ∈ s.world.card, c.left = Text.toNumber (attemptsOf o.reply) :=
          ht .qpinc (by rw [hpc]; rfl)
        obtain ⟨c, hc, hleft⟩ := htrue (by rcases h23 with h | h <;> simp [h])
        refine hcov _ ⟨?_, c, hc, Nat.le_of_eq hleft.symm⟩
        rcases h23 with h | h <;> rw [h] <;> decide
    · rw [hworld, hw]
      exact h.log

theorem enter (h : s.Floor) (q : Nat) (o : Outcome)
    (hg : s.refusedEntry q o = true → s.counterRead = false) : Floor (s.step (.enter q o)) := by
  have hheld := h.held.step (.enter q o)
  have hworld : (s.step (.enter q o)).world = (PinEntry.step o s.world (s.requests q)).2 := rfl
  rcases PinEntry.step_world o s.world (s.requests q) with
    ⟨pin, before, hpc, hw⟩ | ⟨_, _, _, hw⟩ | hw
  · rw [hw] at hworld
    refine h.of_world rfl hheld (fun hread left hcov => ?_) (fun e he => ?_)
    · rw [hworld]
      refine hcov.submit fun c hc hreach => Bool.eq_false_iff.mpr fun href => ?_
      have : s.refusedEntry q o = true := by
        simp [Sys.refusedEntry, hpc, show s.world.card = some c from hc, hreach, href]
      rw [hg this] at hread
      exact absurd hread (by simp)
    · rw [hworld] at he
      rcases s.world.submit_log .ui pin o.reached with hl | ⟨i, _, hl⟩
      · exact .inl (hl ▸ he)
      · refine (List.mem_append.mp (hl ▸ he)).imp id fun he => ?_
        rw [List.mem_singleton.mp he]
  all_goals
    rw [hw] at hworld
    refine h.of_world rfl hheld (fun _ left hcov => hworld ▸ hcov) (fun e he => .inl ?_)
    rw [hworld] at he
    exact he

theorem step (h : s.Floor) (e : Event) (hg : ReadingUndisturbed s e) : Floor (s.step e) := by
  have hheld := h.held.step e
  cases e with
  | unlock p o => exact h.unlock p o hg
  | enter q o => exact h.enter q o hg
  | launch p =>
    refine ⟨hheld, ?_, ?_⟩ <;> simp only [Sys.step] <;> split
    · exact forall_update (I := fun _ pc => World.RunCovered _ pc) (fun q _ => h.runs q)
        (.of_unlocked rfl)
    · exact h.runs
    · exact h.log
    · exact h.log
  | killRun p =>
    obtain ⟨lock, hw⟩ := Unlock.release_world p s.world
    have hworld : (s.step (.killRun p)).world = { s.world with lock := lock } := hw
    refine ⟨hheld, forall_update (I := fun _ pc => World.RunCovered _ pc) ?_ (.of_unlocked rfl), ?_⟩
    · intro q _ left hl
      rw [hworld]
      exact h.runs q left hl
    · rw [hworld]
      exact h.log
  | request q pin =>
    have hsame : (s.step (.request q pin)).runs = s.runs ∧
        (s.step (.request q pin)).world = s.world := by
      simp only [Sys.step]
      split <;> exact ⟨rfl, rfl⟩
    exact h.of_world hsame.1 hheld (fun _ _ hcov => hsame.2 ▸ hcov)
      (fun e he => .inl (hsame.2 ▸ he))
  | relock =>
    refine h.of_world rfl hheld (fun _ _ hcov => hcov.powerUp) (fun e he => .inl ?_)
    rwa [Sys.step, World.powerUp_log] at he
  | swap t =>
    refine h.of_world rfl hheld (fun hread => ?_) (fun e he => .inl ?_)
    · rw [show s.counterRead = false from hg] at hread
      exact absurd hread (by simp)
    · rwa [Sys.step, World.powerUp_log] at he
  | killRequest | setGate | setFlashing =>
    exact h.of_world rfl hheld (fun _ _ hcov => hcov) (fun _ he => .inl he)

theorem of_quiet (hq : s.Quiet) (hlog : s.world.log = []) : s.Floor :=
  ⟨.of_quiet hq, fun p => .of_unlocked (Pc.locked_of_inactive (hq.runs p)), by simp [hlog]⟩

end Sys.Floor

/-- Automatic entry never uses the last attempt, in any interleaving with PIN requests in which no
entry is refused and no card swapped between a run's reading of the counter and its `AT+CPIN=`. -/
theorem unlocker_submits_with_two_left (s : Sys) (es : List Event) (hquiet : s.Quiet)
    (hlog : s.world.log = []) (hes : machine.Admits ReadingUndisturbed s es) :
    ∀ e ∈ (machine.run s es).world.log, e.source = .unlocker → 2 ≤ e.left :=
  (Machine.invariant (fun _ e hg h => Sys.Floor.step h e hg) hes (.of_quiet hquiet hlog)).log

/-- A PIN request from its start up to and including its `AT+CPIN=`. -/
def typedPin (pin : Text) (counter : Text) : List Event :=
  [.request 0 pin, .enter 0 {}, .enter 0 { reply := "+CPIN: SIM PIN\nOK" },
    .enter 0 { reply := counter }, .enter 0 { reply := "ERROR" }]

theorem unlocker_submits_with_two_left_after_typo :
    let es := typedPin "0000" (counterReply '3') ++
      fullRun "89880001" (counterReply '2') []
    machine.Admits ReadingUndisturbed staleRouter es ∧
      (machine.run staleRouter es).world.log.map (·.source) = [.ui, .unlocker] ∧
      ∀ e ∈ (machine.run staleRouter es).world.log, e.source = .unlocker → 2 ≤ e.left := by
  have hes : machine.Admits ReadingUndisturbed staleRouter
      (typedPin "0000" (counterReply '3') ++
        fullRun "89880001" (counterReply '2') []) := by decide
  exact ⟨hes, by decide, unlocker_submits_with_two_left staleRouter _
    (atRest_quiet _ _) rfl hes⟩

/-- One mistyped PIN leaves two attempts, which the unlocker reads; a second one comes between that
reading and the `AT+CPIN=`, which then takes the card's last attempt. Every reply is true. -/
theorem ui_entry_under_unlocker :
    let run := fullRun "89880001" (counterReply '2') []
    let es := typedPin "0000" (counterReply '3') ++ [.killRequest 0] ++ run.dropLast ++
      typedPin "1111" (counterReply '2') ++ run.getLast?.toList
    staleRouter.Quiet ∧ staleRouter.world.log = [] ∧
      machine.Admits RepliesTrue staleRouter es ∧
      (∃ e ∈ (machine.run staleRouter es).world.log, e.source = .unlocker ∧ e.left = 1) ∧
      ((machine.run staleRouter es).world.cards 0).left = 0 :=
  ⟨atRest_quiet _ _, rfl, by decide, by decide, by decide⟩

end GlXe3000.Cellular.Sim
