import GlXe3000.Cellular.Sim.AttemptFloor

/-! # The saved PIN and the card it belongs to

`set_sim_pin_code` stores the PIN a card accepted together with the card's ICCID, and
`gl-cellular-sim-unlock` compares that ICCID with the card in the tray before it submits. The pair
is a pair only as long as it is written and read as one: a failed `AT+QCCID` stores a new PIN next
to the old ICCID (`stale_iccid_sends_foreign_pin`), the unlocker reads the two options with two
commands, and a swap after either check goes unnoticed. Without these, a PIN goes to a card only
after that card accepted it. -/

namespace GlXe3000.Cellular.Sim
open Unlock (Pc)

def Unlock.Pc.checked : Pc → Option Text
  | .attempts pin | .getPending pin _ | .intent _ pin _ | .setPending pin _
  | .commitPending pin _ | .submit pin _ => some pin
  | _ => none

def Unlock.Pc.halfRead : Pc → Bool
  | .getIccid _ => true
  | _ => false

def PinEntry.Pc.unbound : PinEntry.Pc → Option Text
  | .wait pin _ | .iccid pin | .save pin none => some pin
  | _ => none

theorem Unlock.Pc.locked_of_checked {pc : Pc} (h : pc.checked.isSome = true) :
    pc.locked = true := by
  cases pc <;> simp_all [checked, locked]

theorem Unlock.Pc.locked_of_halfRead {pc : Pc} (h : pc.halfRead = true) : pc.locked = true := by
  cases pc <;> simp_all [halfRead, locked]

/-- A PIN is stored together with an ICCID, or next to one that is missing or this card's, and not
between an unlock run's two `uci get`s. -/
def Sys.SafeSave (s : Sys) : PinEntry.Pc → Prop
  | .save _ iccid => s.holder Pc.halfRead = false ∧
      (iccid = none →
        s.world.uci.pinIccid = [] ∨ ∃ c ∈ s.world.card, c.iccid = s.world.uci.pinIccid)
  | _ => True

instance (s : Sys) : (pc : PinEntry.Pc) → Decidable (s.SafeSave pc)
  | .save .. => by unfold Sys.SafeSave; infer_instance
  | .idle | .start _ | .state _ | .before _ | .submit .. | .after _ | .wait .. | .iccid _
  | .done _ => .isTrue trivial

def SavesPair (s : Sys) (e : Event) : Prop :=
  RepliesTrue s e ∧
    match e with
    | .enter q _ => s.SafeSave (s.requests q)
    | _ => True

instance (s : Sys) (e : Event) : Decidable (SavesPair s e) := by
  unfold SavesPair
  cases e <;> infer_instance

/-- Cards are swapped only when no run and no request relies on the one in the tray. -/
def SwapsUnwatched (s : Sys) : Event → Prop
  | .swap _ => s.holder (·.checked.isSome) = false ∧ ∀ q, (s.requests q).unbound = none
  | _ => True

/-- Card `i` accepted `pin` from a PIN request. -/
def Accepted (log : List Submission) (i : Nat) (pin : Text) : Prop :=
  ∃ e ∈ log, e.source = .ui ∧ e.accepted = true ∧ e.card = i ∧ e.pin = pin

namespace World

def Paired (w : World) (pin iccid : Text) : Prop :=
  ∃ i, (w.cards i).iccid = iccid ∧ Accepted w.log i pin

def Trusts (w : World) (pin : Text) : Prop := ∃ i, w.tray = some i ∧ Accepted w.log i pin

def RunPaired (w : World) : Pc → Prop
  | .getIccid pin => pin = w.uci.pincode
  | .getFailed pin saved | .iccid pin saved => saved ≠ [] → w.Paired pin saved
  | .attempts pin | .getPending pin _ | .intent _ pin _ | .setPending pin _
  | .commitPending pin _ | .submit pin _ => w.Trusts pin
  | _ => True

def RequestPaired (w : World) : PinEntry.Pc → Prop
  | .wait pin _ | .iccid pin | .save pin none => w.Trusts pin
  | .save pin (some iccid) => w.Paired pin iccid
  | _ => True

/-- `w'` has the cards of `w` and everything `w` has on record. -/
structure Extends (w' w : World) : Prop where
  iccid : ∀ i, (w'.cards i).iccid = (w.cards i).iccid
  log : w.log ⊆ w'.log

variable {w w' : World}

theorem Extends.submit (source : Source) (pin : Text) (reached : Bool) :
    (w.submit source pin reached).Extends w := by
  refine ⟨w.submit_iccid source pin reached, ?_⟩
  rcases w.submit_log source pin reached with hl | ⟨i, _, hl⟩
  · rw [hl]; exact List.Subset.refl _
  · rw [hl]; exact List.subset_append_left _ _

theorem Extends.powerUp (hcards : w'.cards = w.cards) (hlog : w'.log = w.log) :
    w'.powerUp.Extends w :=
  ⟨fun i => by rw [powerUp_iccid, hcards], by rw [powerUp_log, hlog]; exact List.Subset.refl _⟩

theorem Paired.mono (h : w.Paired pin iccid) (hx : w'.Extends w) : w'.Paired pin iccid := by
  obtain ⟨i, hi, e, he, hacc⟩ := h
  exact ⟨i, (hx.iccid i).trans hi, e, hx.log he, hacc⟩

theorem Trusts.mono (h : w.Trusts pin) (hx : w'.Extends w) (ht : w'.tray = w.tray) :
    w'.Trusts pin := by
  obtain ⟨i, hi, e, he, hacc⟩ := h
  exact ⟨i, ht.trans hi, e, hx.log he, hacc⟩

theorem RunPaired.mono {pc : Pc} (h : w.RunPaired pc) (hx : w'.Extends w)
    (ht : pc.checked.isSome = true → w'.tray = w.tray)
    (hp : pc.halfRead = true → w'.uci.pincode = w.uci.pincode) : w'.RunPaired pc := by
  cases pc with
  | getIccid pin => exact h.trans (hp rfl).symm
  | getFailed pin saved | iccid pin saved => exact fun hne => (h hne).mono hx
  | attempts | getPending | intent | setPending | commitPending | submit =>
    exact Trusts.mono h hx (ht rfl)
  | _ => trivial

theorem RequestPaired.mono {pc : PinEntry.Pc} (h : w.RequestPaired pc) (hx : w'.Extends w)
    (ht : pc.unbound.isSome = true → w'.tray = w.tray) : w'.RequestPaired pc := by
  cases pc with
  | wait | iccid => exact Trusts.mono h hx (ht rfl)
  | save pin iccid =>
    cases iccid with
    | none => exact Trusts.mono h hx (ht rfl)
    | some id => exact Paired.mono h hx
  | _ => trivial

theorem Trusts.submit (h : ∃ c ∈ w.card, c.accepts pin = true) :
    (w.submit .ui pin true).Trusts pin := by
  obtain ⟨c, hc, hacc⟩ := h
  obtain ⟨i, hi, rfl⟩ : ∃ i, w.tray = some i ∧ w.cards i = c := by simpa [World.card] using hc
  refine ⟨i, by rw [submit_tray, hi], ⟨.ui, i, pin, (w.cards i).left, true⟩, ?_, rfl, rfl, rfl, rfl⟩
  simp [World.submit, hi, hacc]

theorem RequestPaired.step (h : w.RequestPaired pc) (ht : PinEntry.TrueReply w o pc) :
    (PinEntry.step o w pc).2.RequestPaired (PinEntry.step o w pc).1 := by
  cases pc with
  | submit pin before =>
    simp only [PinEntry.step]
    split_ifs with hok
    · obtain ⟨hreached, hacc⟩ := ht hok
      rw [hreached]
      exact Trusts.submit hacc
    · trivial
  | wait pin i =>
    simp only [PinEntry.step]
    split_ifs <;> exact h
  | iccid pin =>
    simp only [PinEntry.step]
    cases hid : luaIccid o.reply with
    | none => exact h
    | some id =>
      obtain ⟨c, hc, hcid⟩ := ht.2 id (by rw [hid]; rfl)
      obtain ⟨i, hi, hacc⟩ := h
      obtain rfl : w.cards i = c := by simpa [World.card, hi] using hc
      exact ⟨i, hcid, hacc⟩
  | start | state =>
    simp only [PinEntry.step]
    split_ifs <;> trivial
  | _ => trivial

theorem RunPaired.of_unlocked {pc : Pc} (h : pc.locked = false) : w.RunPaired pc := by
  cases pc <;> trivial

end World

/-- Every automatic submission in the log comes after an acceptance of that PIN by that card. -/
def Vouched (log : List Submission) : Prop :=
  ∀ (pre : List Submission) (e : Submission), pre ++ [e] <+: log → e.source = .unlocker →
    Accepted pre e.card e.pin

theorem Vouched.concat {e : Submission} (h : Vouched log)
    (he : e.source = .unlocker → Accepted log e.card e.pin) : Vouched (log ++ [e]) := by
  intro pre e' hpre hs
  rcases List.prefix_concat_iff.mp hpre with heq | hpre
  · obtain ⟨rfl, heq'⟩ := List.append_inj' heq rfl
    obtain rfl : e' = e := by simpa using heq'
    exact he hs
  · exact h pre e' hpre hs

/-- The invariant: the stored pair belongs together, and each process is where a check of it has
brought it. -/
structure Sys.Bound (s : Sys) : Prop where
  held : s.LockHeld
  distinct : Function.Injective fun i => (s.world.cards i).iccid
  stored : Unlock.wellFormed s.world.uci.pincode = true → s.world.uci.pinIccid ≠ [] →
    s.world.Paired s.world.uci.pincode s.world.uci.pinIccid
  runs : ∀ p, s.world.RunPaired (s.runs p)
  requests : ∀ q, s.world.RequestPaired (s.requests q)
  log : Vouched s.world.log

namespace Sys.Bound
variable {s : Sys}

theorem of_world (h : s.Bound) {t : Sys} (hheld : t.LockHeld) (hx : t.world.Extends s.world)
    (htray : t.world.tray = s.world.tray) (hpin : t.world.uci.pincode = s.world.uci.pincode)
    (hiccid : t.world.uci.pinIccid = s.world.uci.pinIccid)
    (hruns : ∀ p, s.world.RunPaired (t.runs p))
    (hrequests : ∀ q, t.world.RequestPaired (t.requests q)) (hlog : Vouched t.world.log) :
    t.Bound := by
  refine ⟨hheld, ?_, ?_, fun p => ?_, hrequests, hlog⟩
  · intro i j hij
    exact h.distinct ((hx.iccid i).symm.trans (hij.trans (hx.iccid j)))
  · rw [hpin, hiccid]
    exact fun hwf hne => (h.stored hwf hne).mono hx
  · exact (hruns p).mono hx (fun _ => htray) (fun _ => hpin)

theorem advance (h : s.Bound) (p : Nat) (o : Outcome) (hpc : s.world.RunPaired pc)
    (ht : ∀ q ∈ Unlock.query pc, Truthful s.world q o.reply) :
    s.world.RunPaired (Unlock.advance p o s.world pc).1 := by
  cases pc with
  | getPin => rfl
  | getIccid pin =>
    simp only [Unlock.advance]
    split_ifs with hwf
    · intro hne
      obtain rfl : pin = s.world.uci.pincode := hpc
      exact h.stored hwf hne
    · trivial
  | getFailed pin saved =>
    simp only [Unlock.advance]
    split_ifs
    · trivial
    · exact hpc
  | iccid pin saved =>
    simp only [Unlock.advance]
    split_ifs with hnil hsaved
    · trivial
    · trivial
    · -- The ICCID in the reply is the tray card's, and only one card has it.
      have hne : iccidOf o.reply ≠ [] := by simpa using hnil
      simp only [Bool.or_eq_true, decide_eq_true_eq, not_or, not_not] at hsaved
      obtain ⟨c, hc, hid⟩ := (ht .qccid rfl).1 hne
      obtain ⟨j, hj, rfl⟩ : ∃ j, s.world.tray = some j ∧ s.world.cards j = c := by
        simpa [World.card] using hc
      obtain ⟨i, hi, hacc⟩ := hpc (hsaved.2 ▸ hne)
      obtain rfl : i = j := h.distinct (hi.trans (hsaved.2.trans hid.symm))
      exact ⟨i, hj, hacc⟩
  | intent gate pin left =>
    simp only [Unlock.advance]
    split_ifs
    · cases gate <;> exact hpc
    · trivial
  | poll | confirm =>
    simp only [Unlock.advance]
    split <;> (try split_ifs) <;> trivial
  | start | openLock | lockWait | clearGet | clearDelete | clearCommit | attempts | getPending
  | setPending | commitPending | submit =>
    simp only [Unlock.advance]
    split_ifs <;> trivial
  | _ => trivial

theorem unlock (h : s.Bound) (p : Nat) (o : Outcome)
    (ht : ∀ q ∈ Unlock.query (s.runs p), Truthful s.world q o.reply) :
    Bound (s.step (.unlock p o)) := by
  have hheld := h.held.unlock p o
  have hnext := h.advance p o (h.runs p) ht
  rw [← Unlock.step_fst] at hnext
  have hruns : ∀ q, s.world.RunPaired ((s.step (.unlock p o)).runs q) :=
    forall_update (I := fun _ pc => s.world.RunPaired pc) (fun q _ => h.runs q) hnext
  have hworld : (s.step (.unlock p o)).world = (Unlock.step p o s.world (s.runs p)).2 := rfl
  rcases Unlock.step_world p o s.world (s.runs p) with ⟨pin, left, hpc, hw⟩ | ⟨_, _, _, hw⟩
  · have htrusts : s.world.Trusts pin := by
      have := h.runs p
      rwa [hpc] at this
    rw [hw] at hworld
    refine h.of_world hheld (hworld ▸ .submit ..) (by simp [hworld]) (by simp [hworld])
      (by simp [hworld]) hruns (fun q => ?_) ?_
    · exact (h.requests q).mono (hworld ▸ .submit ..) (by simp [hworld])
    · rw [hworld]
      rcases s.world.submit_log .unlocker pin o.reached with hl | ⟨i, htray, hl⟩
      · rw [hl]; exact h.log
      · rw [hl]
        obtain ⟨j, hj, hacc⟩ := htrusts
        obtain rfl : i = j := by simpa [hj] using htray.symm
        exact h.log.concat fun _ => hacc
  · rw [hw] at hworld
    have hx : (s.step (.unlock p o)).world.Extends s.world := by
      rw [hworld]
      exact ⟨fun _ => rfl, fun _ he => he⟩
    refine h.of_world hheld hx (by rw [hworld]) (by rw [hworld]) (by rw [hworld]) hruns ?_ ?_
    · exact fun q => (h.requests q).mono hx (fun _ => by rw [hworld])
    · rw [hworld]; exact h.log

theorem stored_save (hpc : s.world.RequestPaired (.save pin iccid)) (hsafe : s.SafeSave (.save pin iccid))
    (hne : (PinEntry.saved s.world.uci pin iccid).pinIccid ≠ []) :
    s.world.Paired pin (PinEntry.saved s.world.uci pin iccid).pinIccid := by
  cases iccid with
  | some id => exact hpc
  | none =>
    obtain ⟨i, hi, hacc⟩ := hpc
    rcases hsafe.2 rfl with hnil | ⟨c, hc, hid⟩
    · exact absurd hnil hne
    · obtain rfl : s.world.cards i = c := by simpa [World.card, hi] using hc
      exact ⟨i, hid, hacc⟩

theorem enter (h : s.Bound) (q : Nat) (o : Outcome)
    (ht : PinEntry.TrueReply s.world o (s.requests q)) (hsafe : s.SafeSave (s.requests q)) :
    Bound (s.step (.enter q o)) := by
  have hheld := h.held.step (.enter q o)
  have hnext := (h.requests q).step ht
  have hworld : (s.step (.enter q o)).world = (PinEntry.step o s.world (s.requests q)).2 := rfl
  have hrequests : (s.step (.enter q o)).world.Extends s.world →
      (s.step (.enter q o)).world.tray = s.world.tray →
      ∀ r, (s.step (.enter q o)).world.RequestPaired ((s.step (.enter q o)).requests r) :=
    fun hx htray => forall_update (I := fun _ pc => World.RequestPaired _ pc)
      (fun r _ => (h.requests r).mono hx (fun _ => htray)) hnext
  rcases PinEntry.step_world o s.world (s.requests q) with
    ⟨pin, before, hpc, hw⟩ | ⟨pin, iccid, hpc, hw⟩ | hw
  · rw [hw] at hworld
    have hx : (s.step (.enter q o)).world.Extends s.world := hworld ▸ .submit ..
    refine h.of_world hheld hx (by simp [hworld]) (by simp [hworld]) (by simp [hworld]) h.runs
      (hrequests hx (by simp [hworld])) ?_
    rw [hworld]
    rcases s.world.submit_log .ui pin o.reached with hl | ⟨i, _, hl⟩
    · rw [hl]; exact h.log
    · rw [hl]; exact h.log.concat fun hs => absurd hs (by simp)
  · rw [hw] at hworld
    rw [hpc] at hsafe
    have hx : (s.step (.enter q o)).world.Extends s.world := by
      rw [hworld]
      exact ⟨fun _ => rfl, fun _ he => he⟩
    refine ⟨hheld, ?_, ?_, fun p => ?_, hrequests hx (by rw [hworld]), by rw [hworld]; exact h.log⟩
    · rw [hworld]; exact h.distinct
    · have hpaired := h.requests q
      rw [hpc] at hpaired
      rw [hworld]
      exact fun _ hne => stored_save hpaired hsafe hne
    · -- No run is between its two reads of the pair.
      refine (h.runs p).mono hx (fun _ => by rw [hworld]) (fun hhalf => ?_)
      have := h.held.holder (Pc.locked_of_halfRead hhalf) hhalf
      rw [hsafe.1] at this
      exact absurd this (by simp)
  · rw [hw] at hworld
    have hx : (s.step (.enter q o)).world.Extends s.world := by
      rw [hworld]
      exact ⟨fun _ => rfl, fun _ he => he⟩
    exact h.of_world hheld hx (by rw [hworld]) (by rw [hworld]) (by rw [hworld]) h.runs
      (hrequests hx (by rw [hworld])) (by rw [hworld]; exact h.log)

theorem of_frame (h : s.Bound) {t : Sys} (hheld : t.LockHeld) (hx : t.world.Extends s.world)
    (hlog : t.world.log = s.world.log) (htray : t.world.tray = s.world.tray)
    (hpin : t.world.uci.pincode = s.world.uci.pincode)
    (hiccid : t.world.uci.pinIccid = s.world.uci.pinIccid)
    (hruns : ∀ p, s.world.RunPaired (t.runs p))
    (hrequests : ∀ q, s.world.RequestPaired (t.requests q)) : t.Bound :=
  h.of_world hheld hx htray hpin hiccid hruns
    (fun q => (hrequests q).mono hx (fun _ => htray)) (hlog ▸ h.log)

theorem step (h : s.Bound) (e : Event) (hg : SavesPair s e ∧ SwapsUnwatched s e) :
    Bound (s.step e) := by
  have hheld := h.held.step e
  have hrefl : s.world.Extends s.world := ⟨fun _ => rfl, fun _ he => he⟩
  cases e with
  | unlock p o => exact h.unlock p o hg.1.1
  | enter q o => exact h.enter q o hg.1.1 hg.1.2
  | launch p =>
    simp only [Sys.step] at hheld ⊢
    split at hheld
    · next hin =>
      rw [if_pos hin]
      exact h.of_frame hheld hrefl rfl rfl rfl rfl
        (forall_update (I := fun _ pc => World.RunPaired _ pc) (fun q _ => h.runs q) trivial)
        h.requests
    · next hin =>
      rw [if_neg hin]
      exact h
  | killRun p =>
    obtain ⟨lock, hw⟩ := Unlock.release_world p s.world
    have hworld : (s.step (.killRun p)).world = { s.world with lock := lock } := hw
    refine h.of_frame hheld (by rw [hworld]; exact ⟨fun _ => rfl, fun _ he => he⟩)
      (by rw [hworld]) (by rw [hworld]) (by rw [hworld]) (by rw [hworld]) ?_ h.requests
    exact forall_update (I := fun _ pc => World.RunPaired _ pc) (fun q _ => h.runs q) trivial
  | request q pin =>
    simp only [Sys.step] at hheld ⊢
    split
    · exact h.of_frame h.held hrefl rfl rfl rfl rfl h.runs
        (forall_update (I := fun _ pc => World.RequestPaired _ pc) (fun r _ => h.requests r)
          trivial)
    · exact h.of_frame h.held hrefl rfl rfl rfl rfl h.runs
        (forall_update (I := fun _ pc => World.RequestPaired _ pc) (fun r _ => h.requests r)
          trivial)
    · exact h
  | killRequest q =>
    exact h.of_frame hheld hrefl rfl rfl rfl rfl h.runs
      (forall_update (I := fun _ pc => World.RequestPaired _ pc) (fun r _ => h.requests r) trivial)
  | relock =>
    exact h.of_frame hheld (.powerUp rfl rfl) (by simp [Sys.step]) (by simp [Sys.step])
      (by simp [Sys.step]) (by simp [Sys.step]) h.runs h.requests
  | swap t =>
    obtain ⟨hchecked, hunbound⟩ := hg.2
    have hx : (s.step (.swap t)).world.Extends s.world := .powerUp rfl rfl
    refine ⟨hheld, ?_, ?_, fun p => ?_, fun q => ?_, by simpa [Sys.step] using h.log⟩
    · intro i j hij
      exact h.distinct ((hx.iccid i).symm.trans (hij.trans (hx.iccid j)))
    · intro hwf hne
      simp only [Sys.step, World.powerUp_uci] at hwf hne ⊢
      exact (h.stored hwf hne).mono hx
    · refine (h.runs p).mono hx (fun hc => ?_) (fun _ => by simp [Sys.step])
      have := h.held.holder (f := (·.checked.isSome)) (Pc.locked_of_checked hc) hc
      rw [hchecked] at this
      exact absurd this (by simp)
    · refine (h.requests q).mono hx (fun hu => ?_)
      rw [hunbound q] at hu
      exact absurd hu (by simp)
  | setGate g v =>
    exact h.of_frame hheld ⟨fun _ => rfl, fun _ he => he⟩ rfl rfl (by simp [Sys.step])
      (by simp [Sys.step]) h.runs h.requests
  | setFlashing b =>
    exact h.of_frame hheld ⟨fun _ => rfl, fun _ he => he⟩ rfl rfl rfl rfl h.runs h.requests

theorem of_quiet (hq : s.Quiet) (hlog : s.world.log = []) (hpin : s.world.uci.pincode = [])
    (hdistinct : Function.Injective fun i => (s.world.cards i).iccid) : s.Bound where
  held := .of_quiet hq
  distinct := hdistinct
  stored := fun hwf => by simp [hpin, Unlock.wellFormed, Text.isNumber] at hwf
  runs := fun p => .of_unlocked (Pc.locked_of_inactive (hq.runs p))
  requests := fun q => by rw [hq.requests q]; trivial
  log := fun pre e hpre => by
    rw [hlog, List.prefix_nil] at hpre
    exact absurd hpre (by simp)

end Sys.Bound

/-- Automatic entry sends a card no PIN but one the same card accepted before, in every history
that starts without a saved PIN and in which pairs are stored whole and no card is swapped under a
process that relies on it. -/
theorem submitted_pin_was_accepted_by_card (s : Sys) (es : List Event) (hquiet : s.Quiet)
    (hlog : s.world.log = []) (hpin : s.world.uci.pincode = [])
    (hdistinct : Function.Injective fun i => (s.world.cards i).iccid)
    (hes : machine.Admits (fun s e => SavesPair s e ∧ SwapsUnwatched s e) s es) :
    ∀ (pre : List Submission) (e : Submission),
      pre ++ [e] <+: (machine.run s es).world.log → e.source = .unlocker →
      ∃ e' ∈ pre, e'.source = .ui ∧ e'.accepted = true ∧ e'.card = e.card ∧ e'.pin = e.pin :=
  (Machine.invariant (fun _ e hg h => Sys.Bound.step h e hg) hes
    (.of_quiet hquiet hlog hpin hdistinct)).log

/-! ## Two cards in turn -/

/-- Card `i` has an ICCID of its own; card 0 has the PIN `1111`, the others `2222`. -/
def numberedCard (i : Nat) : Card :=
  lockedCard (List.replicate (i + 1) '8') (if i = 0 then "1111" else "2222")

theorem numberedCard_injective : Function.Injective fun i => (numberedCard i).iccid := by
  intro i j hij
  have hlen := congrArg List.length hij
  simp only [numberedCard, lockedCard, List.length_replicate] at hlen
  exact Nat.succ.inj hlen

def freshRouter : Sys := atRest {} numberedCard

/-- A PIN request that succeeds, from its start to its commit; `iccid` is the reply to `AT+QCCID`. -/
def storedPin (pin iccid : Text) : List Event :=
  [.request 0 pin, .enter 0 {}, .enter 0 { reply := "+CPIN: SIM PIN\nOK" },
    .enter 0 { reply := counterReply '3' }, .enter 0 { reply := "OK" },
    .enter 0 { reply := "+CPIN: READY\nOK" }, .enter 0 { reply := iccid }, .enter 0 {}]

def Event.firstRequest : Event → Bool
  | .request q _ | .enter q _ | .killRequest q => q = 0
  | _ => true

def Event.isSwap : Event → Bool
  | .swap _ => true
  | _ => false

theorem requests_idle_of_firstRequest {s : Sys}
    (hes : ∀ e ∈ es, e.firstRequest = true) (hs : ∀ q, q ≠ 0 → s.requests q = .idle) :
    ∀ q, q ≠ 0 → (machine.run s es).requests q = .idle := by
  have hadmits : machine.Admits (fun _ e => e.firstRequest = true) s es :=
    .of_forall (fun e he _ => hes e he) s
  refine Machine.invariant (I := fun s : Sys => ∀ q, q ≠ 0 → s.requests q = .idle)
    (fun s e he h q hq => ?_) hadmits hs
  show (s.step e).requests q = .idle
  cases e with
  | request r pin =>
    obtain rfl : r = 0 := by simpa [Event.firstRequest] using he
    simp only [Sys.step]
    split <;> simp [hq, h q hq]
  | enter r o | killRequest r =>
    obtain rfl : r = 0 := by simpa [Event.firstRequest] using he
    simp [Sys.step, hq, h q hq]
  | launch p =>
    simp only [Sys.step]
    split <;> exact h q hq
  | _ => exact h q hq

/-- The PIN of card 0 is saved, the card is taken out and put back, and unlocked automatically. -/
theorem submitted_pin_was_accepted_by_card_after_swap :
    let before := storedPin "1111" "+QCCID: 8\nOK"
    let after := [Event.swap (some 0)] ++ fullRun "8" (counterReply '3') "OK"
    let es := before ++ [Event.swap (some 1)] ++ after
    machine.Admits (fun s e => SavesPair s e ∧ SwapsUnwatched s e) freshRouter es ∧
      (machine.run freshRouter es).world.log.map (·.source) = [.ui, .unlocker] ∧
      ∀ (pre : List Submission) (e : Submission),
        pre ++ [e] <+: (machine.run freshRouter es).world.log → e.source = .unlocker →
        ∃ e' ∈ pre, e'.source = .ui ∧ e'.accepted = true ∧ e'.card = e.card ∧ e'.pin = e.pin := by
  intro before after es
  have hidle : ∀ fs : List Event, (∀ e ∈ fs, e.firstRequest = true) →
      ((machine.run freshRouter fs).requests 0).unbound = none →
      ∀ q, ((machine.run freshRouter fs).requests q).unbound = none := by
    intro fs hfs h0 q
    by_cases hq : q = 0
    · rw [hq]; exact h0
    · rw [requests_idle_of_firstRequest hfs (fun _ _ => rfl) q hq]; rfl
  have hstay : ∀ fs : List Event, (∀ e ∈ fs, e.isSwap = false) → ∀ s,
      machine.Admits SwapsUnwatched s fs := by
    refine fun fs hfs => .of_forall fun e he s => ?_
    have := hfs e he
    cases e <;> trivial
  have hswaps : machine.Admits SwapsUnwatched freshRouter es := by
    refine Machine.admits_append.mpr ⟨Machine.admits_append.mpr ⟨?_, ?_, trivial⟩, ?_, ?_⟩
    · exact hstay before (by decide) _
    · exact ⟨by decide, hidle before (by decide) (by decide)⟩
    · exact ⟨by decide, hidle (before ++ [.swap (some 1)]) (by decide) (by decide)⟩
    · exact hstay _ (by decide) _
  have hes : machine.Admits (fun s e => SavesPair s e ∧ SwapsUnwatched s e) freshRouter es :=
    .and (by decide) hswaps
  exact ⟨hes, by decide, submitted_pin_was_accepted_by_card freshRouter es
    (atRest_quiet _ _) rfl rfl numberedCard_injective hes⟩

/-- The reply to `AT+QCCID` is lost while the PIN of card 1 is stored, so it is stored next to the
ICCID of card 0; back in the tray, card 0 is sent it. Every reply that comes is true. -/
theorem stale_iccid_sends_foreign_pin :
    let es := storedPin "1111" "+QCCID: 8\nOK".toList ++ [Event.swap (some 1)] ++
      storedPin "2222" [] ++ [Event.swap (some 0)] ++
      fullRun "8" (counterReply '3') "+CME ERROR: 16"
    freshRouter.Quiet ∧ freshRouter.world.log = [] ∧ freshRouter.world.uci.pincode = [] ∧
      (Function.Injective fun i => (freshRouter.world.cards i).iccid) ∧
      machine.Admits RepliesTrue freshRouter es ∧
      (∃ e ∈ (machine.run freshRouter es).world.log,
        e.source = .unlocker ∧ e.card = 0 ∧ e.pin = "2222" ∧ e.accepted = false) ∧
      ∀ e ∈ (machine.run freshRouter es).world.log,
        e.source = .ui → e.pin = "2222" → e.card = 1 :=
  ⟨atRest_quiet _ _, rfl, rfl, numberedCard_injective, by decide, by decide,
    by decide⟩

end GlXe3000.Cellular.Sim
