import GlXe3000.Cellular.Sim.System

/-! # The unlock lock

`gl-cellular-sim-unlock` runs one at a time from `flock -n 8` on, whatever the interleaving and
whichever runs are killed. Steps outside the lock touch nothing but the lock itself. -/

namespace GlXe3000.Cellular.Sim
namespace Unlock

/-- What a command does to the lock: a run that is past `flock` leaves it alone, a run before it
changes nothing but a free lock, which it takes. -/
theorem advance_lock (p : Nat) (o : Outcome) (w : World) (pc : Pc) :
    (pc.locked = true ∧ (advance p o w pc).2.lock = w.lock) ∨
    (pc.locked = false ∧ (advance p o w pc).1.locked = false ∧ (advance p o w pc).2 = w) ∨
    (pc.locked = false ∧ w.lock = none ∧
      advance p o w pc = (.poll 0, { w with lock := some p })) := by
  cases pc with
  | lockWait i =>
    by_cases h : w.lock = none
    · exact .inr (.inr ⟨rfl, h, by simp [advance, h]⟩)
    · refine .inr (.inl ⟨rfl, ?_, by simp [advance, h]⟩)
      simp only [advance, h, if_false]
      split_ifs <;> rfl
  | start | openLock =>
    refine .inr (.inl ⟨rfl, ?_, rfl⟩)
    simp only [advance]
    split_ifs <;> rfl
  | idle | exit => exact .inr (.inl ⟨rfl, rfl, rfl⟩)
  | poll | confirm =>
    refine .inl ⟨rfl, ?_⟩
    simp only [advance]
    split <;> rfl
  | clearDelete | setPending =>
    refine .inl ⟨rfl, ?_⟩
    simp only [advance]
    split_ifs <;> rfl
  | submit =>
    refine .inl ⟨rfl, ?_⟩
    simp only [advance, World.submit]
    split <;> rfl
  | _ => exact .inl ⟨rfl, rfl⟩

theorem Pc.locked_of_inactive {pc : Pc} (h : pc.inactive = true) : pc.locked = false := by
  cases pc <;> simp_all [inactive, locked]

theorem step_fst (p : Nat) (o : Outcome) (w : World) (pc : Pc) :
    (step p o w pc).1 = (advance p o w pc).1 := by
  unfold step; dsimp only; split <;> rfl

theorem step_snd (p : Nat) (o : Outcome) (w : World) (pc : Pc) :
    (step p o w pc).2 =
      if (advance p o w pc).1.inactive then release p (advance p o w pc).2
      else (advance p o w pc).2 := by
  unfold step; dsimp only; split <;> rfl

theorem release_lock (p : Nat) (w : World) :
    (release p w).lock = if w.lock = some p then none else w.lock := by
  unfold release; split_ifs <;> simp_all

theorem release_world (p : Nat) (w : World) : ∃ lock, release p w = { w with lock := lock } := by
  unfold release
  split_ifs <;> exact ⟨_, rfl⟩

/-- What a step does to the world: `AT+CPIN=`, or a change of the lock and of the script's own two
options. -/
theorem step_world (p : Nat) (o : Outcome) (w : World) (pc : Pc) :
    (∃ pin left, pc = .submit pin left ∧
      (step p o w pc).2 = w.submit .unlocker pin o.reached) ∨
    ∃ lock failed pending, (step p o w pc).2 =
      { w with
        lock := lock
        uci := { w.uci with pinFailed := failed, pinPending := pending } } := by
  have hrel : (∃ lock failed pending, (advance p o w pc).2 =
      { w with lock := lock, uci := { w.uci with pinFailed := failed, pinPending := pending } }) →
      ∃ lock failed pending, (step p o w pc).2 =
      { w with
        lock := lock
        uci := { w.uci with pinFailed := failed, pinPending := pending } } := by
    rintro ⟨lock, failed, pending, h⟩
    obtain ⟨lock', hr⟩ := release_world p (advance p o w pc).2
    rw [step_snd, hr, h]
    split_ifs <;> exact ⟨_, _, _, rfl⟩
  cases pc with
  | submit pin left =>
    refine .inl ⟨pin, left, rfl, ?_⟩
    have hpc : (advance p o w (.submit pin left)).1.inactive = false := by
      simp only [advance]
      split_ifs <;> rfl
    rw [step_snd, hpc]
    rfl
  | poll | confirm =>
    refine .inr (hrel ?_)
    simp only [advance]
    split <;> exact ⟨_, _, _, rfl⟩
  | lockWait | clearDelete | setPending =>
    refine .inr (hrel ?_)
    simp only [advance]
    split_ifs <;> exact ⟨_, _, _, rfl⟩
  | _ => exact .inr (hrel ⟨_, _, _, rfl⟩)

theorem advance_reading {o : Outcome} {pc : Pc} (h : (advance p o w pc).1.reading = some left) :
    (pc.reading = some left ∧ ∀ pin left, pc ≠ .submit pin left) ∨
      ∃ pin, pc = .attempts pin ∧ left = attemptsOf o.reply ∧ (left = ['2'] ∨ left = ['3']) := by
  cases pc with
  | attempts pin =>
    simp only [advance] at h
    split_ifs at h with h1 h2 h3
    all_goals try simp [Pc.reading] at h
    subst h
    exact .inr ⟨pin, rfl, rfl, by simpa using h3⟩
  | intent gate pin left' =>
    refine .inl ⟨?_, by simp⟩
    simp only [advance] at h
    split_ifs at h
    · cases gate <;> exact h
    · simp [Pc.reading] at h
  | getPending pin left' | setPending pin left' | commitPending pin left' =>
    refine .inl ⟨?_, by simp⟩
    simp only [advance] at h
    split_ifs at h <;> first | exact h | simp [Pc.reading] at h
  | poll | confirm =>
    simp only [advance] at h
    split at h <;> (try split_ifs at h) <;> simp [Pc.reading] at h
  | lockWait | start | openLock | clearGet | clearDelete | clearCommit | getIccid | getFailed
  | iccid | submit =>
    simp only [advance] at h
    split_ifs at h <;> simp [Pc.reading] at h
  | _ => simp [advance, Pc.reading] at h

theorem Pc.locked_of_reading {pc : Pc} (h : pc.reading.isSome = true) : pc.locked = true := by
  cases pc <;> simp_all [reading, locked]

/-- A run past `flock` is the one the lock names. -/
def Pc.HeldBy (lock : Option Nat) (p : Nat) (pc : Pc) : Prop := pc.locked = true → lock = some p

namespace Pc.HeldBy

theorem of_unlocked {pc : Pc} (h : pc.locked = false) :
    HeldBy lock p pc := fun hl => by simp [h] at hl

end Pc.HeldBy
end Unlock

theorem PinEntry.step_world (o : Outcome) (w : World) (pc : PinEntry.Pc) :
    (∃ pin before, pc = .submit pin before ∧
      (PinEntry.step o w pc).2 = w.submit .ui pin o.reached) ∨
    (∃ pin iccid, pc = .save pin iccid ∧
      (PinEntry.step o w pc).2 = { w with uci := PinEntry.saved w.uci pin iccid }) ∨
    (PinEntry.step o w pc).2 = w := by
  cases pc with
  | submit pin before => exact .inl ⟨pin, before, rfl, rfl⟩
  | save pin iccid => exact .inr (.inl ⟨pin, iccid, rfl, rfl⟩)
  | _ => exact .inr (.inr rfl)

namespace Sys
open Unlock (Pc)

/-- Every run past `flock` holds the lock; so there is at most one. -/
def LockHeld (s : Sys) : Prop := ∀ p, Pc.HeldBy s.world.lock p (s.runs p)

theorem LockHeld.unique {s : Sys} (h : s.LockHeld)
    (hp : (s.runs p).locked = true) (hq : (s.runs q).locked = true) : p = q := by
  have := (h p hp).symm.trans (h q hq)
  simpa using this

/-- Does the run that holds the lock satisfy `f`? -/
def holder (s : Sys) (f : Pc → Bool) : Bool :=
  match s.world.lock with
  | none => false
  | some p => f (s.runs p)

theorem LockHeld.holder {s : Sys} (h : s.LockHeld) {f : Pc → Bool}
    (hl : (s.runs p).locked = true) (hf : f (s.runs p) = true) : s.holder f = true := by
  rw [Sys.holder, h p hl]
  exact hf

theorem LockHeld.of_quiet {s : Sys} (h : s.Quiet) : s.LockHeld := fun p =>
  .of_unlocked (Pc.locked_of_inactive (h.runs p))

private theorem LockHeld.release {s : Sys} (h : s.LockHeld) {pc : Pc} (hpc : pc.locked = false) :
    ∀ q, Pc.HeldBy (Unlock.release p s.world).lock q (Function.update s.runs p pc q) := by
  refine forall_update (fun q hq hl => ?_) (.of_unlocked hpc)
  rw [Unlock.release_lock, h q hl, if_neg (by simpa using hq)]

theorem LockHeld.unlock {s : Sys} (h : s.LockHeld) (p : Nat) (o : Outcome) :
    LockHeld (s.step (.unlock p o)) := by
  show ∀ q, Pc.HeldBy (Unlock.step p o s.world (s.runs p)).2.lock q
    (Function.update s.runs p (Unlock.step p o s.world (s.runs p)).1 q)
  rw [Unlock.step_fst, Unlock.step_snd]
  rcases Unlock.advance_lock p o s.world (s.runs p) with ⟨hl, hw⟩ | ⟨_, hl', hw⟩ | ⟨_, hfree, heq⟩
  · -- `p` is the holder, so no other entry is locked before or after.
    have hother : ∀ q, q ≠ p → (s.runs q).locked = false := fun q hq =>
      Bool.eq_false_iff.mpr fun hlq => hq (h.unique hlq hl)
    split
    · next hin =>
      exact forall_update (fun q hq => .of_unlocked (hother q hq))
        (.of_unlocked (Pc.locked_of_inactive hin))
    · exact forall_update (fun q hq => .of_unlocked (hother q hq)) (fun _ => hw.trans (h p hl))
  · split
    · simp only [hw]; exact h.release hl'
    · simp only [hw]; exact forall_update (fun q _ => h q) (.of_unlocked hl')
  · simp only [heq, Pc.inactive, Bool.false_eq_true, if_false]
    refine forall_update (fun q _ hlq => ?_) (fun _ => rfl)
    exact absurd (h q hlq) (by simp [hfree])

theorem LockHeld.step {s : Sys} (h : s.LockHeld) (e : Event) : LockHeld (s.step e) := by
  cases e with
  | unlock p o => exact h.unlock p o
  | launch p =>
    simp only [Sys.step]
    split
    · exact forall_update (fun q _ => h q) (.of_unlocked rfl)
    · exact h
  | killRun p => exact h.release rfl
  | request q pin => simp only [Sys.step]; split <;> exact h
  | enter q o =>
    have hlock : (PinEntry.step o s.world (s.requests q)).2.lock = s.world.lock := by
      rcases PinEntry.step_world o s.world (s.requests q) with
        ⟨pin, _, _, hw⟩ | ⟨_, _, _, hw⟩ | hw
      · rw [hw, World.submit_lock]
      · rw [hw]
      · rw [hw]
    exact fun p hp => hlock.trans (h p hp)
  | relock | swap t =>
    intro p hp
    simp only [Sys.step, World.powerUp] at hp ⊢
    split <;> exact h p hp
  | killRequest | setGate | setFlashing => exact h

end Sys
end GlXe3000.Cellular.Sim
