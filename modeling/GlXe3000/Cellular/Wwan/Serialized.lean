import GlXe3000.Cellular.Wwan.LockProtocol
import GlXe3000.Cellular.Wwan.System

/-! # One at a time on wwan

The runs that obey the protocol of the lock exclude each other. `upgrade_cellular` does not take the
lock, so it stays out of the others' way only as long as nothing else runs beside it. -/

namespace GlXe3000.Cellular.Wwan

/-! ## The runs and what they did -/

/-- What became of a run: its job, whether it got the lock and touched wwan, and whether its last
touch was an `ifdown`. -/
structure Trace where
  job : Option Job := none
  locked : Bool := false
  touched : Bool := false
  down : Bool := false
  deriving DecidableEq

/-- A run performs its next action; `free` is what `flock -n` finds. -/
def Trace.after (t : Trace) (free : Bool) : Option Act → Trace
  | some .flock => { t with locked := t.locked || free }
  | some .ifdown => { t with touched := true, down := true }
  | some .ifup => { t with touched := true, down := false }
  | _ => t

theorem Trace.after_job (t : Trace) (free : Bool) (a : Option Act) :
    (t.after free a).job = t.job := by
  unfold Trace.after; split <;> rfl

theorem Trace.after_locked {t : Trace} (free : Bool) (a : Option Act) (h : t.locked = true) :
    (t.after free a).locked = true := by
  unfold Trace.after
  split
  · simp [h]
  all_goals exact h

theorem Trace.after_touched {t : Trace}
    (h : (t.after free (some a)).touched = true) : t.touched = true ∨ a = .ifdown ∨ a = .ifup := by
  cases a with
  | ifdown => exact .inr (.inl rfl)
  | ifup => exact .inr (.inr rfl)
  | _ => exact .inl h

structure Watch where
  state : State
  trace : Nat → Trace

namespace Watch

def step (w : Watch) : Event → Watch
  | .start p j =>
    { state := w.state.step (.start p j)
      trace := if w.state.vacant p then Function.update w.trace p { job := some j } else w.trace }
  | .step p e =>
    { state := w.state.step (.step p e)
      trace := Function.update w.trace p
        ((w.trace p).after w.state.world.lock.isNone (w.state.runs p).next) }
  | ev => { w with state := w.state.step ev }

def machine : Machine Watch Event := ⟨step⟩

/-- The run `p` is between its `ifdown` and its `ifup`, or its end if there is none. -/
def InSequence (w : Watch) (p : Nat) : Prop :=
  (w.trace p).down = true ∧ (w.state.runs p).isDone = false

instance (w : Watch) (p : Nat) : Decidable (w.InSequence p) := by
  unfold InSequence; infer_instance

/-- The run `p` is about to touch wwan. -/
def Touching (w : Watch) (p : Nat) : Prop :=
  (w.state.runs p).next = some .ifdown ∨ (w.state.runs p).next = some .ifup

/-- `upgrade_cellular` is started when nothing runs, and nothing is started while it runs. The scan
for operators takes wwan down and up in two calls and is not part of this. -/
def UpgradeAlone (w : Watch) : Event → Prop
  | .start _ .upgradeCellular => ∀ q, (w.state.runs q).isDone = true
  | .start _ .scanOperatorList => False
  | .start _ _ => ∀ q, (w.trace q).job = some .upgradeCellular → (w.state.runs q).isDone = true
  | _ => True

/-! ## The invariant -/

def At (p : Nat) (lock : Option Nat) (down : Bool) : Phase → Prop
  | .free => lock ≠ some p ∧ down = false
  | .held => lock = some p ∧ down = false
  | .down => lock = some p ∧ down = true
  | .returned => lock ≠ some p

/-- The runs, the lock and what the runs did fit together. Every run but `upgrade_cellular` is under
the protocol, and `upgrade_cellular` runs alone. -/
structure Inv (lock : Option Nat) (runs : Nat → Script Bool) (trace : Nat → Trace) : Prop where
  orderly : ∀ p, (trace p).job ≠ some .upgradeCellular →
    ∃ phase, At p lock (trace p).down phase ∧ Serial phase (runs p)
  single : ∀ p, (trace p).job = some .upgradeCellular → Single (runs p)
  alone : ∀ p q, (trace p).job = some .upgradeCellular → (runs p).isDone = false →
    (runs q).isDone = false → q = p
  locked : ∀ p, lock = some p → (trace p).locked = true
  touched : ∀ p, (trace p).touched = true →
    (trace p).locked = true ∨ (trace p).job = some .upgradeCellular

def Released (lock : Option Nat) (runs : Nat → Script Bool) : Prop :=
  ∀ p, (runs p).isDone = true → lock ≠ some p

/-! ## One action -/

section
variable {p q : Nat} {e : Reply} {a : Act} {w : World} {t : Trace} {phase : Phase}

theorem at_answer (h : At p w.lock t.down phase) (ha : phase.allows a) :
    At p (w.answer p e a).2.lock (t.after w.lock.isNone (some a)).down
      (phase.next a (w.answer p e a).1) := by
  cases phase with
  | returned => exact absurd ha (by cases a <;> exact id)
  | free =>
    cases a with
    | flock =>
      cases hl : w.lock with
      | none => simpa [World.answer, Trace.after, Phase.next, hl, At] using h.2
      | some q => simpa [World.answer, Trace.after, Phase.next, hl, At] using h
    | ifdown | ifup | unlock | spawnWorker => exact absurd ha id
    | _ => exact h
  | held =>
    cases a with
    | flock => simpa [World.answer, Trace.after, Phase.next, h.1, At] using h.2
    | unlock => simpa [World.answer, World.release, Trace.after, Phase.next, h.1, At] using h.2
    | ifdown => exact ⟨h.1, rfl⟩
    | ifup => exact ⟨h.1, rfl⟩
    | _ => exact h
  | down =>
    cases a with
    | flock => simpa [World.answer, Trace.after, Phase.next, h.1, At] using h.2
    | unlock => simp [World.answer, World.release, Phase.next, h.1, At]
    | ifdown => exact ⟨h.1, rfl⟩
    | ifup => exact ⟨h.1, rfl⟩
    | _ => exact h

theorem answer_lock_other (h : q ≠ p) : (w.answer p e a).2.lock = some q ↔ w.lock = some q := by
  have hp : p ≠ q := h.symm
  cases a with
  | flock => cases hl : w.lock <;> simp [World.answer, hl, hp]
  | unlock =>
    simp only [World.answer, World.release]
    split
    · next hl => simp [hl, hp]
    · exact .rfl
  | _ => exact .rfl

theorem locked_of_answer (h : (w.answer p e a).2.lock = some p)
    (hlocked : w.lock = some p → t.locked = true) :
    (t.after w.lock.isNone (some a)).locked = true := by
  cases a with
  | flock =>
    cases hl : w.lock with
    | none => simp [Trace.after]
    | some q =>
      simp only [World.answer, hl, Option.or_some, Option.getD_some] at h
      simp [Trace.after, hlocked (hl.trans h)]
  | unlock =>
    simp only [World.answer, World.release] at h
    split at h
    · cases h
    · next hl => exact absurd h hl
  | _ => exact hlocked h

end

theorem at_congr (h : lock' = some p ↔ lock = some p) (hat : At p lock down phase) :
    At p lock' down phase := by
  cases phase with
  | free => exact ⟨mt h.1 hat.1, hat.2⟩
  | held | down => exact ⟨h.2 hat.1, hat.2⟩
  | returned => exact mt h.1 hat

theorem eq_ret_of_isDone {m : Script Bool} (h : m.isDone = true) : ∃ b, m = .ret b := by
  cases m with
  | ret b => exact ⟨b, rfl⟩
  | act a k => cases h

section
variable {lock lock' : Option Nat} {runs : Nat → Script Bool} {trace : Nat → Trace} {p : Nat}

theorem Inv.finish (h : Inv lock runs trace) (hp : (runs p).isDone = true)
    (hself : lock' ≠ some p) (hother : ∀ q, q ≠ p → (lock' = some q ↔ lock = some q)) :
    Inv lock' runs trace where
  orderly q hq := by
    by_cases hqp : q = p
    · subst hqp
      obtain ⟨b, hb⟩ := eq_ret_of_isDone hp
      exact ⟨.returned, hself, by rw [hb]; trivial⟩
    · obtain ⟨phase, hat, hserial⟩ := h.orderly q hq
      exact ⟨phase, at_congr (hother q hqp) hat, hserial⟩
  single := h.single
  alone := h.alone
  locked q hq := by
    by_cases hqp : q = p
    · subst hqp; exact absurd hq hself
    · exact h.locked q ((hother q hqp).1 hq)
  touched := h.touched

theorem Inv.stop (h : Inv lock runs trace) (b : Bool) :
    Inv lock (Function.update runs p (.ret b)) trace where
  orderly := by
    refine forall_update (I := fun q m => (trace q).job ≠ _ →
      ∃ phase, At q lock (trace q).down phase ∧ Serial phase m)
      (fun q _ => h.orderly q) fun hp => ?_
    obtain ⟨phase, hat, -⟩ := h.orderly p hp
    exact ⟨phase, hat, trivial⟩
  single := forall_update (I := fun q m => (trace q).job = _ → Single m) (fun q _ => h.single q)
    fun _ => trivial
  alone q r hq hdq hdr := by
    have hne : ∀ q, ((Function.update runs p (.ret b)) q).isDone = false → q ≠ p := by
      rintro q hq rfl
      rw [Function.update_self] at hq
      cases hq
    rw [Function.update_of_ne (hne q hdq)] at hdq
    rw [Function.update_of_ne (hne r hdr)] at hdr
    exact h.alone q r hq hdq hdr
  locked := h.locked
  touched := h.touched

theorem lock_of_touch {phase : Phase} (hat : At p lock down phase)
    (ha : phase.allows a) (ht : a = .ifdown ∨ a = .ifup) : lock = some p := by
  cases phase with
  | held | down => exact hat.1
  | free | returned => rcases ht with rfl | rfl <;> exact ha.elim

theorem Inv.act {w : World} {k : Answer a → Script Bool}
    (h : Inv w.lock runs trace) (hrun : runs p = .act a k) :
    Inv (w.answer p e a).2.lock (Function.update runs p (k (w.answer p e a).1))
      (Function.update trace p ((trace p).after w.lock.isNone (some a))) where
  orderly q hq := by
    by_cases hqp : q = p
    · subst hqp
      simp only [Function.update_self, Trace.after_job] at hq ⊢
      obtain ⟨phase, hat, hserial⟩ := h.orderly q hq
      rw [hrun] at hserial
      exact ⟨_, at_answer hat hserial.1, hserial.2 _⟩
    · simp only [Function.update_of_ne hqp] at hq ⊢
      obtain ⟨phase, hat, hserial⟩ := h.orderly q hq
      exact ⟨phase, at_congr (answer_lock_other hqp) hat, hserial⟩
  single q hq := by
    by_cases hqp : q = p
    · subst hqp
      simp only [Function.update_self, Trace.after_job] at hq ⊢
      have hsingle := h.single q hq
      rw [hrun] at hsingle
      exact (hsingle.2 _).resolve_left id
    · simp only [Function.update_of_ne hqp] at hq ⊢
      exact h.single q hq
  alone q r hq hdq hdr := by
    -- The run was not over before its action either.
    have hdone : ∀ q m, ((Function.update runs p m) q).isDone = false →
        (runs q).isDone = false := by
      intro q m hq
      by_cases hqp : q = p
      · subst hqp; rw [hrun]; rfl
      · rwa [Function.update_of_ne hqp] at hq
    refine h.alone q r ?_ (hdone q _ hdq) (hdone r _ hdr)
    by_cases hqp : q = p
    · subst hqp
      rwa [Function.update_self, Trace.after_job] at hq
    · rwa [Function.update_of_ne hqp] at hq
  locked q hq := by
    by_cases hqp : q = p
    · subst hqp
      rw [Function.update_self]
      exact locked_of_answer hq (h.locked q)
    · rw [Function.update_of_ne hqp]
      exact h.locked q ((answer_lock_other hqp).1 hq)
  touched q hq := by
    by_cases hqp : q = p
    · subst hqp
      rw [Function.update_self] at hq ⊢
      rw [Trace.after_job]
      rcases Trace.after_touched hq with ht | ht
      · exact (h.touched q ht).imp_left (Trace.after_locked _ _)
      · by_cases hjob : (trace q).job = some .upgradeCellular
        · exact .inr hjob
        · obtain ⟨phase, hat, hserial⟩ := h.orderly q hjob
          rw [hrun] at hserial
          exact .inl (Trace.after_locked _ _ (h.locked q (lock_of_touch hat hserial.1 ht)))
    · rw [Function.update_of_ne hqp] at hq ⊢
      exact h.touched q hq

theorem Inv.not_spawns (h : Inv lock runs trace) (redial : Bool) :
    (runs p).next ≠ some (.spawnWorker redial) := by
  intro hnext
  by_cases hjob : (trace p).job = some .upgradeCellular
  · exact (h.single p hjob).no_use hnext trivial
  · obtain ⟨phase, -, hserial⟩ := h.orderly p hjob
    have hallowed := hserial.allowed hnext
    cases phase <;> exact hallowed

end

/-! ## The system -/

def Sound (w : Watch) : Prop :=
  Inv w.state.world.lock w.state.runs w.trace ∧ Released w.state.world.lock w.state.runs

section
variable {w : Watch} {p : Nat}

theorem UpgradeAlone.start_cases (hg : UpgradeAlone w (.start p j)) :
    (j = .upgradeCellular ∧ ∀ q, (w.state.runs q).isDone = true) ∨
    (j ≠ .upgradeCellular ∧ j ≠ .scanOperatorList ∧
      ∀ q, (w.trace q).job = some .upgradeCellular → (w.state.runs q).isDone = true) := by
  cases j with
  | upgradeCellular => exact .inl ⟨rfl, hg⟩
  | scanOperatorList => exact hg.elim
  | _ => exact .inr ⟨by decide, by decide, hg⟩

theorem Inv.begin {runs : Nat → Script Bool} {trace : Nat → Trace} {j : Job}
    (h : Inv lock runs trace) (hlock : lock ≠ some p)
    (hj : j ≠ .upgradeCellular → j ≠ .scanOperatorList)
    (halone : ∀ q, (trace q).job = some .upgradeCellular → (runs q).isDone = true)
    (hup : j = .upgradeCellular → ∀ q, (runs q).isDone = true) :
    Inv lock (Function.update runs p j.script) (Function.update trace p { job := some j }) where
  orderly q hq := by
    by_cases hqp : q = p
    · subst hqp
      simp only [Function.update_self] at hq ⊢
      have hne : j ≠ .upgradeCellular := fun h => hq (congrArg some h)
      exact ⟨.free, ⟨hlock, rfl⟩, serial_script j hne (hj hne)⟩
    · simp only [Function.update_of_ne hqp] at hq ⊢
      exact h.orderly q hq
  single q hq := by
    by_cases hqp : q = p
    · subst hqp
      simp only [Function.update_self] at hq ⊢
      obtain rfl : j = .upgradeCellular := Option.some.inj hq
      exact single_upgradeCellular
    · simp only [Function.update_of_ne hqp] at hq ⊢
      exact h.single q hq
  alone q r hq hdq hdr := by
    by_cases hqp : q = p
    · subst hqp
      rw [Function.update_self] at hq
      by_cases hrq : r = q
      · exact hrq
      · rw [Function.update_of_ne hrq] at hdr
        rw [hup (Option.some.inj hq) r] at hdr
        cases hdr
    · rw [Function.update_of_ne hqp] at hq hdq
      rw [halone q hq] at hdq
      cases hdq
  locked q hq := by
    have hqp : q ≠ p := fun hqp => hlock (hqp ▸ hq)
    rw [Function.update_of_ne hqp]
    exact h.locked q hq
  touched q hq := by
    by_cases hqp : q = p
    · subst hqp
      rw [Function.update_self] at hq
      cases hq
    · rw [Function.update_of_ne hqp] at hq ⊢
      exact h.touched q hq

theorem Sound.start (h : Sound w) (hg : UpgradeAlone w (.start p j)) :
    Sound (w.step (.start p j)) := by
  by_cases hv : w.state.vacant p = true
  case neg => simpa [Sound, step, State.step, State.begin, hv] using h
  simp only [Sound, step, State.step, State.begin, hv, if_true]
  obtain ⟨hinv, hreleased⟩ := h
  have hdone : (w.state.runs p).isDone = true := (Bool.and_eq_true_iff.1 hv).1
  have hlock : w.state.world.lock ≠ some p := hreleased p hdone
  refine ⟨?_, fun q hq => ?_⟩
  · rcases hg.start_cases with ⟨rfl, hall⟩ | ⟨hne, hscan, halone⟩
    · exact hinv.begin hlock (fun h => absurd rfl h) (fun q _ => hall q) fun _ => hall
    · exact hinv.begin hlock (fun _ => hscan) halone fun h => absurd h hne
  · by_cases hqp : q = p
    · exact hqp ▸ hlock
    · rw [Function.update_of_ne hqp] at hq
      exact hreleased q hq

theorem Sound.finish {s : State} {trace : Nat → Trace} (h : Inv s.world.lock s.runs trace)
    (hreleased : ∀ q, q ≠ p → (s.runs q).isDone = true → s.world.lock ≠ some q) :
    Sound ⟨s.finish p, trace⟩ := by
  by_cases hdone : (s.runs p).isDone = true
  · have hself : (s.world.finish p).lock ≠ some p := by
      simp only [World.finish, World.release, World.setPci]
      split
      · exact Option.some_ne_none p |>.symm
      · assumption
    have hother : ∀ q, q ≠ p → ((s.world.finish p).lock = some q ↔ s.world.lock = some q) := by
      intro q hq
      simp only [World.finish, World.release, World.setPci]
      split
      · next hl => simp [hl, hq.symm]
      · exact .rfl
    simp only [Sound, State.finish, hdone, if_true]
    refine ⟨h.finish hdone hself hother, fun q hq => ?_⟩
    by_cases hqp : q = p
    · exact hqp ▸ hself
    · exact mt (hother q hqp).1 (hreleased q hqp hq)
  · simp only [Sound, State.finish, hdone]
    refine ⟨h, fun q hq => ?_⟩
    by_cases hqp : q = p
    · subst hqp; exact absurd hq hdone
    · exact hreleased q hqp hq

theorem Sound.perform (h : Sound w) : Sound (w.step (.step p e)) := by
  obtain ⟨hinv, hreleased⟩ := h
  have hstep : w.state.step (.step p e) = w.state.perform p e := by
    rcases State.step_step_cases w.state p e with hs | ⟨redial, hnext, -⟩
    · exact hs
    · exact absurd hnext (hinv.not_spawns redial)
  simp only [step, hstep]
  cases hrun : w.state.runs p with
  | ret b =>
    have hruns : Function.update w.state.runs p (.ret b) = w.state.runs := by
      rw [← hrun, Function.update_eq_self]
    have htrace : Function.update w.trace p ((w.trace p).after w.state.world.lock.isNone none) =
        w.trace := Function.update_eq_self p w.trace
    have hperform : w.state.perform p e = w.state.finish p := by
      simp only [State.perform, hrun, Proc.advance, hruns]
    rw [hperform]
    simp only [Proc.next, htrace]
    exact Sound.finish hinv fun q _ => hreleased q
  | act a k =>
    have hperform : w.state.perform p e = State.finish
        ⟨(w.state.world.answer p e a).2,
          Function.update w.state.runs p (k (w.state.world.answer p e a).1)⟩ p := by
      simp only [State.perform, hrun, Proc.advance]
    rw [hperform]
    refine Sound.finish (hinv.act hrun) fun q hq hdone => ?_
    dsimp only at hdone
    rw [Function.update_of_ne hq] at hdone
    exact mt (answer_lock_other hq).1 (hreleased q hdone)

theorem Sound.kill (h : Sound w) : Sound (w.step (.kill p)) := by
  obtain ⟨hinv, hreleased⟩ := h
  refine Sound.finish (hinv.stop false) fun q hq hdone => ?_
  dsimp only at hdone
  rw [Function.update_of_ne hq] at hdone
  exact hreleased q hdone

theorem Sound.step (hg : UpgradeAlone w ev) (h : Sound w) : Sound (w.step ev) := by
  cases ev with
  | start p j => exact h.start hg
  | step p e => exact h.perform
  | kill p => exact h.kill
  | store g v => exact h
  | removed p =>
    by_cases hp : w.state.world.pci p = .removing
    · simpa only [Sound, Watch.step, State.step, if_pos hp, World.setPci] using h
    · simpa only [Sound, Watch.step, State.step, if_neg hp] using h

end

section
variable {w : Watch} {p q : Nat}

theorem InSequence.lock (hp : w.InSequence p) (h : Sound w)
    (hjob : (w.trace p).job ≠ some .upgradeCellular) : w.state.world.lock = some p := by
  obtain ⟨phase, hat, hserial⟩ := h.1.orderly p hjob
  obtain ⟨hdown, hrunning⟩ := hp
  cases phase with
  | free | held => exact absurd (hat.2.symm.trans hdown) Bool.false_ne_true
  | down => exact hat.1
  | returned =>
    cases hrun : w.state.runs p with
    | ret b => rw [hrun] at hrunning; cases hrunning
    | act a k =>
      rw [hrun] at hserial
      exact absurd hserial.1 (by cases a <;> exact id)

theorem Touching.lock (hp : w.Touching p) (h : Sound w)
    (hjob : (w.trace p).job ≠ some .upgradeCellular) : w.state.world.lock = some p := by
  obtain ⟨phase, hat, hserial⟩ := h.1.orderly p hjob
  rcases hp with hp | hp
  · exact lock_of_touch hat (hserial.allowed hp) (.inl rfl)
  · exact lock_of_touch hat (hserial.allowed hp) (.inr rfl)

theorem Touching.running (hp : w.Touching p) : (w.state.runs p).isDone = false := by
  rcases hp with hp | hp <;> simp [Proc.isDone, hp]

theorem Sound.exclusive (h : Sound w) (hp : w.InSequence p)
    (hq : w.InSequence q ∨ w.Touching q) : q = p := by
  have hrunning : (w.state.runs q).isDone = false := hq.elim And.right Touching.running
  by_cases hjp : (w.trace p).job = some .upgradeCellular
  · exact h.1.alone p q hjp hp.2 hrunning
  · by_cases hjq : (w.trace q).job = some .upgradeCellular
    · exact (h.1.alone q p hjq hrunning hp.2).symm
    · have hlock : w.state.world.lock = some q := hq.elim (·.lock h hjq) (·.lock h hjq)
      exact Option.some.inj (hlock.symm.trans (hp.lock h hjp))

end

def fresh (u : Uci) : Watch := ⟨Wwan.fresh u, fun _ => {}⟩

theorem sound_fresh (u : Uci) : Sound (fresh u) where
  left :=
    { orderly := fun p _ => ⟨.free, ⟨(Option.some_ne_none p).symm, rfl⟩, trivial⟩
      single := fun p hp => (by cases hp)
      alone := fun p q hp => (by cases hp)
      locked := fun p hp => (by cases hp)
      touched := fun p hp => (by cases hp) }
  right p _ := (Option.some_ne_none p).symm

/-- In every schedule in which `upgrade_cellular` runs alone, the sequences of two runs do not
overlap and nobody touches wwan inside the sequence of another; and a run that did not get the lock
has not touched wwan, unless it is `upgrade_cellular`, which does not wait for it. -/
theorem sequences_never_overlap (u : Uci) (es : List Event)
    (h : machine.Admits UpgradeAlone (fresh u) es) :
    let w := machine.run (fresh u) es
    (∀ p q, w.InSequence p → w.InSequence q ∨ w.Touching q → q = p) ∧
      ∀ p, (w.trace p).touched = true →
        (w.trace p).locked = true ∨ (w.trace p).job = some .upgradeCellular := by
  have hsound := Machine.invariant (fun w ev => Sound.step) h (sound_fresh u)
  exact ⟨fun p q hp hq => hsound.exclusive hp hq, hsound.1.touched⟩

/-- `n` actions of the run `p`, each with success. -/
def actions (p n : Nat) : List Event := List.replicate n (.step p { yes := true })

/-- A reconnect has taken wwan down, and a redial is waiting. -/
theorem redial_waits_for_reconnect :
    let es := [Event.start 0 .wwanReconnect, .start 1 .doRedial] ++ (actions 0 7 ++ actions 1 2)
    let w := machine.run (fresh {}) es
    machine.Admits UpgradeAlone (fresh {}) es ∧ w.InSequence 0 ∧
      (w.trace 1).touched = false ∧ ∀ q, w.InSequence q ∨ w.Touching q → q = 0 := by
  intro es w
  have hadmits : machine.Admits UpgradeAlone (fresh {}) es := by
    refine Machine.admits_append.2 ⟨⟨fun q hq => (by cases hq), fun q hq => ?_, trivial⟩, ?_⟩
    · cases q with
      | zero => cases hq
      | succ q => cases hq
    · refine Machine.Admits.of_forall (fun ev hev s => ?_) _
      rcases List.mem_append.1 hev with hev | hev <;>
      · obtain ⟨-, rfl⟩ := List.mem_replicate.1 hev
        trivial
  have hin : w.InSequence 0 := by decide
  exact ⟨hadmits, hin, by decide, fun q => (sequences_never_overlap {} es hadmits).1 0 q hin⟩

/-- A reconnect has taken wwan down; `upgrade_cellular` does not wait for it. -/
theorem upgrade_overlaps_reconnect :
    let w := machine.run (fresh {}) ([Event.start 0 .wwanReconnect] ++ (actions 0 7 ++
      ([Event.start 1 .upgradeCellular] ++ actions 1 2)))
    w.InSequence 0 ∧ w.InSequence 1 := by
  decide

end Watch

end GlXe3000.Cellular.Wwan
