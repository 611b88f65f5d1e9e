import GlXe3000.Cellular.Sim.Locking

/-! # A refused PIN is entered once

With nobody typing a PIN and nobody changing the card, `pin_pending` is the memory that survives a
lost verdict and a killed run: it is written before `AT+CPIN=` and only `READY` clears it. After the
one submission a card refuses, either `pin_failed` is set or `pin_pending` is above the card's
counter, and each of the two stops every later run before it reaches `AT+CPIN=`.

The memory belongs to no card: with another one in the tray, its `READY` clears what the first has
left, and the first is sent the PIN again (`other_card_clears_pending`). And it is read against the
counter the modem reports, so this needs reports that are right where they can be read at all;
`garbled_counter_resubmits` is a run in which one digit is not. -/

namespace GlXe3000.Cellular.Sim
open Unlock (Pc pendingValue)

/-- Events of a router left alone with one card: unlock runs that start, step and are killed, the
modem re-initialising the card, the connection being switched, the flashing flag. -/
def Event.unattended : Event → Bool
  | .launch _ | .unlock .. | .killRun _ | .relock | .setGate .. | .setFlashing _ => true
  | .request .. | .enter .. | .killRequest _ | .swap _ => false

/-- The router is left alone, and a reply to `AT+CPIN?`, `AT+QCCID` or `AT+QPINC?` out of which a run
can read a lock state, a card number or a counter reports the card's. -/
def ReadableRepliesTrue (s : Sys) : Event → Prop
  | .unlock p o => ∀ q ∈ Unlock.query (s.runs p), Truthful s.world q o.reply
  | e => e.unattended = true

instance (s : Sys) : (e : Event) → Decidable (ReadableRepliesTrue s e)
  | .unlock .. | .launch _ | .killRun _ | .request .. | .enter .. | .killRequest _ | .relock
  | .swap _ | .setGate .. | .setFlashing _ => by unfold ReadableRepliesTrue; infer_instance

namespace World

/-- The card that holds the wrong saved PIN is still locked, was sent it once, and the
configuration remembers: the failure mark, or a record above the card's counter. -/
def Spent (w : World) (i tries : Nat) : Prop :=
  w.log.length = 1 ∧ (w.cards i).left + 1 = tries ∧ (w.cards i).verified = false ∧
    (w.uci.pinFailed = ['1'] ∨ (w.cards i).left < pendingValue w.uci.pinPending)

def AtMostOne (w : World) (i tries : Nat) : Prop :=
  (w.log = [] ∧ (w.cards i).left = tries) ∨ w.Spent i tries

/-- What a run past `pin_failed` may count on: nothing was sent, or the record shows it. -/
def Recorded (w : World) (i : Nat) : Prop :=
  w.log = [] ∨ (w.cards i).left < pendingValue w.uci.pinPending

/-- A reading of the counter is one of the two the script acts on, and it is the card's. -/
def Reads (w : World) (i : Nat) (left : Text) : Prop :=
  (left = ['2'] ∨ left = ['3']) ∧ Text.toNumber left = (w.cards i).left

def RunOk (w : World) (i : Nat) : Pc → Prop
  | .clearGet | .clearDelete | .clearCommit => w.log = []
  | .getPin => (w.cards i).verified = false
  | .getIccid pin | .getFailed pin _ => (w.cards i).verified = false ∧ pin = w.uci.pincode
  | .iccid pin _ | .attempts pin =>
    (w.cards i).verified = false ∧ pin = w.uci.pincode ∧ w.Recorded i
  | .getPending pin left =>
    (w.cards i).verified = false ∧ pin = w.uci.pincode ∧ w.Recorded i ∧ w.Reads i left
  | .intent _ pin left | .setPending pin left =>
    (w.cards i).verified = false ∧ pin = w.uci.pincode ∧ w.log = [] ∧ w.Reads i left
  | .commitPending pin left | .submit pin left =>
    (w.cards i).verified = false ∧ pin = w.uci.pincode ∧ w.log = [] ∧ w.Reads i left ∧
      w.uci.pinPending = left
  | .failDelete => w.uci.pinFailed = ['1']
  | _ => True

end World

/-- The card in the tray refuses the saved PIN and was sent it at most once. -/
structure World.Once (i tries : Nat) (w : World) : Prop where
  tray : w.tray = some i
  refuses : w.uci.pincode ≠ (w.cards i).pin
  history : w.AtMostOne i tries

/-- The invariant: with the card and the configuration as they should be, each run is where its
commands have brought it. -/
structure Sys.Once (i tries : Nat) (s : Sys) : Prop where
  world : s.world.Once i tries
  held : s.LockHeld
  runs : ∀ p, s.world.RunOk i (s.runs p)

namespace World
variable {w w' : World} {i tries : Nat}

theorem RunOk.of_unlocked {pc : Pc} (h : pc.locked = false) : w.RunOk i pc := by
  cases pc <;> trivial

/-- `RunOk` and `AtMostOne` see the card's counter, whether it is locked, the PIN options and the
log; a change that keeps these, and locks at most, keeps both. -/
theorem RunOk.frame (h : w.RunOk i pc) (hlog : w'.log = w.log)
    (hleft : (w'.cards i).left = (w.cards i).left)
    (hver : (w.cards i).verified = false → (w'.cards i).verified = false)
    (hpin : w'.uci.pincode = w.uci.pincode) (hfail : w'.uci.pinFailed = w.uci.pinFailed)
    (hpend : w'.uci.pinPending = w.uci.pinPending) : w'.RunOk i pc := by
  cases pc <;> simp only [RunOk, Recorded, Reads, hlog, hleft, hpin, hfail, hpend] at h ⊢ <;>
    first
    | exact h
    | exact hver h
    | exact ⟨hver h.1, h.2⟩

theorem AtMostOne.frame (h : w.AtMostOne i tries) (hlog : w'.log = w.log)
    (hleft : (w'.cards i).left = (w.cards i).left)
    (hver : (w.cards i).verified = false → (w'.cards i).verified = false)
    (hfail : w'.uci.pinFailed = w.uci.pinFailed)
    (hpend : w'.uci.pinPending = w.uci.pinPending) : w'.AtMostOne i tries := by
  rcases h with ⟨h1, h2⟩ | ⟨h1, h2, h3, h4⟩
  · exact .inl ⟨hlog.trans h1, hleft.trans h2⟩
  · refine .inr ⟨by rw [hlog, h1], by rw [hleft, h2], hver h3, ?_⟩
    rw [hfail, hpend, hleft]; exact h4

theorem AtMostOne.unsent_of_ready (h : w.AtMostOne i tries) (hr : (w.cards i).verified = true) :
    w.log = [] := by
  rcases h with h | ⟨_, _, hv, _⟩
  · exact h.1
  · rw [hr] at hv; exact absurd hv (by simp)

theorem AtMostOne.recorded (h : w.AtMostOne i tries) (hf : w.uci.pinFailed ≠ ['1']) :
    w.Recorded i := by
  rcases h with h | ⟨_, _, _, hf' | hp⟩
  · exact .inl h.1
  · exact absurd hf' hf
  · exact .inr hp

theorem pending_ne_nil_of_lt {t : Text} (h : n < pendingValue t) : t.isEmpty = false := by
  cases t with
  | nil => simp [pendingValue, Text.toNumber] at h
  | cons => rfl

theorem Reads.pendingValue_eq (h : w.Reads i left) : pendingValue left = (w.cards i).left := by
  rw [← h.2]
  rcases h.1 with rfl | rfl <;> rfl

theorem Once.card (h : w.Once i tries) : w.card = some (w.cards i) := by
  simp [World.card, h.tray]

theorem Once.submit (h : w.Once i tries) (reached : Bool)
    (hok : w.RunOk i (.submit pin left)) : (w.submit .unlocker pin reached).Once i tries := by
  obtain ⟨hv, rfl, hlog, hreads, hpend⟩ := hok
  cases reached with
  | false => simpa [World.submit] using h
  | true =>
    obtain ⟨hv', hleft⟩ := Card.enter_wrong h.refuses
    have htries : (w.cards i).left = tries := by
      rcases h.history with h' | h'
      · exact h'.2
      · simp [hlog, Spent] at h'
    have hpos : 2 ≤ (w.cards i).left := by
      rw [← hreads.2]; rcases hreads.1 with rfl | rfl <;> decide
    have hval := hreads.pendingValue_eq
    simp only [hv, Bool.false_eq_true, if_false] at hv' hleft
    simp only [World.submit, h.tray]
    refine ⟨rfl, by simpa using h.refuses, .inr ⟨by simp [hlog], ?_, by simpa using hv', .inr ?_⟩⟩
    · simp only [Function.update_self, hleft]; omega
    · simp only [Function.update_self, hleft, hpend, hval]; omega

theorem Once.advance (h : w.Once i tries) (p : Nat) (o : Outcome) (hok : w.RunOk i pc)
    (ht : ∀ q ∈ Unlock.query pc, Truthful w q o.reply) :
    (Unlock.advance p o w pc).2.Once i tries ∧
      (Unlock.advance p o w pc).2.RunOk i (Unlock.advance p o w pc).1 := by
  cases pc with
  | idle | exit | rejectCommit | failCommit => exact ⟨h, trivial⟩
  | start | openLock | clearCommit =>
    simp only [Unlock.advance]
    split_ifs <;> exact ⟨h, trivial⟩
  | lockWait n =>
    simp only [Unlock.advance]
    split_ifs
    · exact ⟨⟨h.tray, h.refuses, h.history⟩, trivial⟩
    all_goals exact ⟨h, trivial⟩
  | poll n | confirm n =>
    obtain ⟨hready, hpin⟩ := ht .cpin rfl
    simp only [h.card, Option.mem_some_iff, exists_eq_left'] at hready hpin
    simp only [Unlock.advance]
    cases hst : cpinState o.reply with
    | ready => exact ⟨h, h.history.unsent_of_ready (hready hst)⟩
    | pin => first | exact ⟨h, hpin hst⟩ | (dsimp only; split_ifs <;> exact ⟨h, trivial⟩)
    | puk => exact ⟨h, trivial⟩
    | noat | other => dsimp only; split_ifs <;> exact ⟨h, trivial⟩
  | clearGet =>
    simp only [Unlock.advance]
    split_ifs
    · exact ⟨h, trivial⟩
    · exact ⟨h, hok⟩
  | clearDelete =>
    have hlog : w.log = [] := hok
    simp only [Unlock.advance]
    split_ifs
    · refine ⟨⟨h.tray, h.refuses, .inl ⟨hlog, ?_⟩⟩, hlog⟩
      rcases h.history with h' | h'
      · exact h'.2
      · simp [hlog, Spent] at h'
    · exact ⟨h, trivial⟩
  | getPin => exact ⟨h, hok, rfl⟩
  | getIccid pin =>
    simp only [Unlock.advance]
    split_ifs
    · exact ⟨h, hok⟩
    · exact ⟨h, trivial⟩
  | getFailed pin saved =>
    simp only [Unlock.advance]
    split_ifs with hf
    · exact ⟨h, trivial⟩
    · exact ⟨h, hok.1, hok.2, h.history.recorded hf⟩
  | iccid pin saved =>
    simp only [Unlock.advance]
    split_ifs <;> first | exact ⟨h, trivial⟩ | exact ⟨h, hok⟩
  | attempts pin =>
    have hq := ht .qpinc rfl
    simp only [Truthful, h.card, Option.mem_some_iff, exists_eq_left'] at hq
    simp only [Unlock.advance]
    split_ifs with hnil h01 h23
    · exact ⟨h, trivial⟩
    · exact ⟨h, trivial⟩
    · refine ⟨h, hok.1, hok.2.1, hok.2.2, by simpa using h23, (hq ?_).symm⟩
      simpa using hnil
    · exact ⟨h, trivial⟩
  | getPending pin left =>
    obtain ⟨hv, hp, hrec, hreads⟩ := hok
    simp only [Unlock.advance]
    split_ifs with hlt
    · exact ⟨h, trivial⟩
    · refine ⟨h, hv, hp, hrec.resolve_right fun hr => hlt ?_, hreads⟩
      simp [pending_ne_nil_of_lt hr, hreads.2, hr]
  | failSet =>
    refine ⟨⟨h.tray, h.refuses, ?_⟩, rfl⟩
    rcases h.history with h' | ⟨h1, h2, h3, _⟩
    · exact .inl h'
    · exact .inr ⟨h1, h2, h3, .inl rfl⟩
  | failDelete =>
    refine ⟨⟨h.tray, h.refuses, ?_⟩, trivial⟩
    rcases h.history with h' | ⟨h1, h2, h3, _⟩
    · exact .inl h'
    · exact .inr ⟨h1, h2, h3, .inl hok⟩
  | intent gate pin left =>
    simp only [Unlock.advance]
    cases gate.isOpen w.uci with
    | false => exact ⟨h, trivial⟩
    | true => cases gate <;> exact ⟨h, hok⟩
  | setPending pin left =>
    obtain ⟨hv, hp, hlog, hreads⟩ := hok
    simp only [Unlock.advance]
    split_ifs
    · refine ⟨⟨h.tray, h.refuses, .inl ⟨hlog, ?_⟩⟩, hv, hp, hlog, hreads, rfl⟩
      rcases h.history with h' | h'
      · exact h'.2
      · simp [hlog, Spent] at h'
    · exact ⟨h, trivial⟩
  | commitPending pin left =>
    simp only [Unlock.advance]
    split_ifs
    · exact ⟨h, hok⟩
    · exact ⟨h, trivial⟩
  | submit pin left =>
    simp only [Unlock.advance]
    split_ifs <;> exact ⟨h.submit o.reached hok, trivial⟩
  | rejectSet =>
    refine ⟨⟨h.tray, h.refuses, ?_⟩, trivial⟩
    rcases h.history with h' | ⟨h1, h2, h3, _⟩
    · exact .inl h'
    · exact .inr ⟨h1, h2, h3, .inl rfl⟩

theorem Once.release (h : w.Once i tries) (p : Nat) : (Unlock.release p w).Once i tries := by
  unfold Unlock.release
  split_ifs
  · exact ⟨h.tray, h.refuses, h.history⟩
  · exact h

theorem RunOk.release (h : w.RunOk i pc) (p : Nat) : (Unlock.release p w).RunOk i pc := by
  unfold Unlock.release
  split_ifs
  · exact h.frame rfl rfl id rfl rfl rfl
  · exact h

end World

namespace Sys.Once
variable {s : Sys} {i tries : Nat}

theorem unlock (h : s.Once i tries) (p : Nat) (o : Outcome)
    (ht : ∀ q ∈ Unlock.query (s.runs p), Truthful s.world q o.reply) :
    Once i tries (s.step (.unlock p o)) := by
  obtain ⟨hw, hp⟩ := h.world.advance p o (h.runs p) ht
  have hw' : (Unlock.step p o s.world (s.runs p)).2.Once i tries := by
    rw [Unlock.step_snd]; split_ifs
    · exact hw.release p
    · exact hw
  have hp' : (Unlock.step p o s.world (s.runs p)).2.RunOk i
      (Unlock.step p o s.world (s.runs p)).1 := by
    rw [Unlock.step_fst, Unlock.step_snd]; split_ifs
    · exact hp.release p
    · exact hp
  refine ⟨hw', h.held.unlock p o, forall_update (fun q hq => ?_) hp'⟩
  -- Another run is either outside the lock, where it relies on nothing, or `p` is outside and
  -- changed nothing it relies on.
  by_cases hlq : (s.runs q).locked = true
  · have hlp : (s.runs p).locked = false :=
      Bool.eq_false_iff.mpr fun hlp => hq (h.held.unique hlq hlp)
    have hq' := h.runs q
    show (Unlock.step p o s.world (s.runs p)).2.RunOk i (s.runs q)
    rw [Unlock.step_snd]
    rcases Unlock.advance_lock p o s.world (s.runs p) with ⟨hl, _⟩ | ⟨_, _, hsame⟩ | ⟨_, _, heq⟩
    · rw [hlp] at hl; exact absurd hl (by simp)
    · rw [hsame]; split_ifs
      · exact hq'.release p
      · exact hq'
    · rw [heq]; exact hq'.frame rfl rfl id rfl rfl rfl
  · exact .of_unlocked (by simpa using hlq)

theorem step (h : s.Once i tries) (e : Event) (hg : ReadableRepliesTrue s e) :
    Once i tries (s.step e) := by
  have hheld := h.held.step e
  cases e with
  | unlock p o => exact h.unlock p o hg
  | launch p =>
    refine ⟨?_, hheld, ?_⟩ <;> simp only [Sys.step] <;> split
    · exact h.world
    · exact h.world
    · exact forall_update (fun q _ => h.runs q) trivial
    · exact h.runs
  | killRun p =>
    exact ⟨h.world.release p, hheld,
      forall_update (fun q _ => (h.runs q).release p) (.of_unlocked rfl)⟩
  | relock =>
    have hlock : (s.world.cards i).verified = false → (s.world.cards i).powerUp.verified = false :=
      Card.powerUp_locked
    simp only [Sys.step, World.powerUp, h.world.tray] at hheld ⊢
    refine ⟨⟨rfl, by simpa using h.world.refuses, ?_⟩, hheld, fun p => ?_⟩
    · exact h.world.history.frame rfl (by simp) (by simpa using hlock) rfl rfl
    · exact (h.runs p).frame rfl (by simp) (by simpa using hlock) rfl rfl rfl
  | setGate g v =>
    refine ⟨⟨h.world.tray, by simpa [Sys.step] using h.world.refuses, ?_⟩, hheld, fun p => ?_⟩
    · exact h.world.history.frame rfl rfl id (by simp [Sys.step]) (by simp [Sys.step])
    · exact (h.runs p).frame rfl rfl id (by simp [Sys.step]) (by simp [Sys.step])
        (by simp [Sys.step])
  | setFlashing b =>
    exact ⟨⟨h.world.tray, h.world.refuses, h.world.history⟩, hheld,
      fun p => (h.runs p).frame rfl rfl id rfl rfl rfl⟩
  | request | enter | killRequest | swap => simp [ReadableRepliesTrue, Event.unattended] at hg

theorem of_quiet (hq : s.Quiet) (hlog : s.world.log = []) (htray : s.world.tray = some i)
    (hpin : s.world.uci.pincode ≠ (s.world.cards i).pin) : s.Once i (s.world.cards i).left :=
  ⟨⟨htray, hpin, .inl ⟨hlog, rfl⟩⟩, .of_quiet hq,
    fun p => .of_unlocked (Unlock.Pc.locked_of_inactive (hq.runs p))⟩

end Sys.Once

/-- A card that refuses the saved PIN is sent it at most once in any history of unlock runs, lost
and unreadable replies and kills, so its counter drops by at most one. -/
theorem refused_pin_submitted_at_most_once (s : Sys) (i : Nat) (es : List Event)
    (hquiet : s.Quiet) (hlog : s.world.log = []) (htray : s.world.tray = some i)
    (hrefuses : s.world.uci.pincode ≠ (s.world.cards i).pin)
    (hes : machine.Admits ReadableRepliesTrue s es) :
    (machine.run s es).world.log.length ≤ 1 ∧
      (s.world.cards i).left ≤ ((machine.run s es).world.cards i).left + 1 := by
  have hinv : Sys.Once i (s.world.cards i).left (machine.run s es) :=
    Machine.invariant (fun s e hg h => h.step e hg) hes (.of_quiet hquiet hlog htray hrefuses)
  rcases hinv.world.history with ⟨h1, h2⟩ | ⟨h1, h2, _⟩
  · exact ⟨by simp [h1], by omega⟩
  · exact ⟨by omega, by omega⟩

/-! ## Runs on one card -/

def lockedCard (iccid pin : Text) : Card where
  iccid := iccid
  pin := pin
  pinEnabled := true
  left := 3
  verified := false
  left_le := Nat.le_refl _
  ready_of_disabled := by simp

/-- A router whose tray holds card 0 out of `cards`, with no process under way. -/
def atRest (uci : Uci) (cards : Nat → Card) : Sys where
  world := { uci, flashing := false, cards, tray := some 0, lock := none, log := [] }
  runs := fun _ => .idle
  requests := fun _ => .idle

theorem atRest_quiet (uci : Uci) (cards : Nat → Card) : (atRest uci cards).Quiet :=
  ⟨fun _ => rfl, fun _ => rfl, rfl⟩

/-- In every interleaving, kills and requests included, one run at most is past `flock`. -/
theorem one_run_past_flock (uci : Uci) (cards : Nat → Card) (es : List Event) :
    {p | ((machine.run (atRest uci cards) es).runs p).locked = true}.Subsingleton := by
  have hheld : (machine.run (atRest uci cards) es).LockHeld :=
    List.foldlRecOn es _ (.of_quiet (atRest_quiet uci cards)) fun _ h e _ => Sys.LockHeld.step h e
  exact fun p hp q hq => hheld.unique hp hq

/-- Run 0 from its start up to and including `AT+CPIN=`, whose reply is `verdict`; the counter is
read out of `counter`. -/
def fullRun (iccid counter verdict : Text) : List Event :=
  [.launch 0, .unlock 0 {}, .unlock 0 {}, .unlock 0 {},
    .unlock 0 { reply := "+CPIN: SIM PIN\nOK" },
    .unlock 0 {}, .unlock 0 {}, .unlock 0 {},
    .unlock 0 { reply := "+QCCID: ".toList ++ iccid ++ "\nOK".toList },
    .unlock 0 { reply := counter }, .unlock 0 {},
    .unlock 0 {}, .unlock 0 {}, .unlock 0 {}, .unlock 0 {},
    .unlock 0 {}, .unlock 0 {}, .unlock 0 { reply := verdict }]

/-- A saved PIN for card `89880001` that the card does not accept. -/
def staleRouter : Sys :=
  atRest { pincode := "1234", pinIccid := "89880001" }
    fun _ => lockedCard "89880001" "9876"

/-- The reply to `AT+QPINC?` with `n` attempts left. -/
def counterReply (n : Char) : Text := "+QPINC: \"SC\",".toList ++ n :: ",10\nOK"

theorem refused_pin_submitted_at_most_once_lost_verdict :
    let es := fullRun "89880001" (counterReply '3') [] ++ [.killRun 0] ++
      fullRun "89880001" (counterReply '2') []
    machine.Admits ReadableRepliesTrue staleRouter es ∧
      (machine.run staleRouter es).world.log.length = 1 ∧
      (machine.run staleRouter es).world.log.length ≤ 1 ∧
      (staleRouter.world.cards 0).left ≤ ((machine.run staleRouter es).world.cards 0).left + 1 := by
  have hes : machine.Admits ReadableRepliesTrue staleRouter
      (fullRun "89880001" (counterReply '3') [] ++ [.killRun 0] ++
        fullRun "89880001" (counterReply '2') []) := by decide
  exact ⟨hes, by decide, refused_pin_submitted_at_most_once staleRouter 0 _
    (atRest_quiet _ _) rfl rfl (by decide) hes⟩

/-- Beside that card there is one without a PIN. -/
def twoCards : Sys :=
  atRest { pincode := "1234", pinIccid := "89880001" } fun i =>
    if i = 0 then lockedCard "89880001" "9876"
    else ⟨"89880002", [], false, 3, true, Nat.le_refl _, fun _ => rfl⟩

/-- The verdict is lost and the run is killed. While the other card is in the tray a run finds it
`READY` and drops `pin_pending`; back in the tray, the first card is sent the PIN it has refused. Every
reply is true. -/
theorem other_card_clears_pending :
    let es := fullRun "89880001" (counterReply '3') [] ++ [.killRun 0, .swap (some 1), .launch 0,
      .unlock 0 {}, .unlock 0 {}, .unlock 0 {}, .unlock 0 { reply := "+CPIN: READY\nOK" },
      .unlock 0 {}, .unlock 0 {}, .unlock 0 {}, .swap (some 0)] ++
        fullRun "89880001" (counterReply '2') []
    twoCards.Quiet ∧ twoCards.world.log = [] ∧
      twoCards.world.uci.pincode ≠ (twoCards.world.cards 0).pin ∧
      machine.Admits RepliesTrue twoCards es ∧
      (machine.run twoCards es).world.log.length = 2 ∧
      ((machine.run twoCards es).world.cards 0).left = 1 :=
  ⟨atRest_quiet _ _, rfl, by decide, by decide +kernel⟩

/-- One digit of one reply is garbled, `3` for `2`: the run that reads it takes the refused
submission for one that never reached the card and enters the PIN a second time. -/
theorem garbled_counter_resubmits :
    let es := fullRun "89880001" (counterReply '3') [] ++ [.killRun 0] ++
      fullRun "89880001" (counterReply '3') []
    staleRouter.Quiet ∧ staleRouter.world.log = [] ∧ staleRouter.world.tray = some 0 ∧
      staleRouter.world.uci.pincode ≠ (staleRouter.world.cards 0).pin ∧
      (∀ e ∈ es, e.unattended = true) ∧
      (machine.run staleRouter es).world.log.length = 2 ∧
      ((machine.run staleRouter es).world.cards 0).left = 1 :=
  ⟨atRest_quiet _ _, rfl, rfl, by decide, by decide, by decide +kernel⟩

end GlXe3000.Cellular.Sim
