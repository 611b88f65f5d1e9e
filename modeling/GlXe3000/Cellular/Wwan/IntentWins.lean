import GlXe3000.Cellular.Wwan.System

/-! # Cellular that is switched off stays off

The user switches cellular off with one of three options. `gl-cellular-modem-reset`,
`gl-cellular-wwan-reconnect` and a redial look at all three on their way to `ifup wwan`; the MHI
reset, the reconnect after a PIN entry, the operator scan and the firmware upgrade do not, or not at
all of them. Between the last look of a run and its `ifup` an option can still be stored, so even
the careful scripts keep the user's will only if it does not change there. -/

namespace GlXe3000.Cellular.Wwan

def intentGates : List Gate := [.auto, .disabled, .dialEnabled]

def IntentOn (u : Uci) : Prop := ∀ g ∈ intentGates, g.isOpen u = true

instance (u : Uci) : Decidable (IntentOn u) := inferInstanceAs (Decidable (∀ g ∈ intentGates, _))

def bringsUp : Act → Prop
  | .ifup | .spawnWorker true => True
  | _ => False

def seesOpen (g : Gate) : (a : Act) → Answer a → Prop
  | .get h, isOpen => h = g ∧ isOpen = true
  | .getBoth h k, isOpen => h = g ∧ isOpen.1 = true ∨ k = g ∧ isOpen.2 = true
  | _, _ => False

def Heeds (g : Gate) (m : Script Bool) : Prop := m.Covered bringsUp (seesOpen g) fun _ => True

def Job.heeds : Job → Gate → Bool
  | .modemReset, _ | .wwanReconnect, _ | .doRedial, _ | .disconnect, _ => true
  | .scanOperatorList, g => g = .dialEnabled
  | .mhiReset, _ | .pinBounce, _ | .upgradeCellular, _ => false

/-- An option is switched off only when every run will still look at it, and while it is off only
scripts that look at it are started. -/
def OffWhenHeeded (s : State) : Event → Prop
  | .store g v => g ∈ intentGates → v = g.closing → ∀ p, Heeds g (s.runs p)
  | .start _ j => ∀ g ∈ intentGates, g.isOpen s.world.uci = false → j.heeds g = true
  | _ => True

/-! ## The scripts -/

section
variable {g : Gate} {Q : Bool → Prop}

theorem covered_gatesOpen (hg : g ∈ intentGates) (hQ : Q false) :
    gatesOpen.Covered bringsUp (seesOpen g) Q := by
  simp only [intentGates, List.mem_cons, List.not_mem_nil, or_false] at hg
  rcases hg with rfl | rfl | rfl <;> simp [gatesOpen, get, bringsUp, seesOpen, hQ]

theorem covered_enabled (hg : g ∈ intentGates) (hQ : Q false) :
    enabled.Covered bringsUp (seesOpen g) Q := by
  simp only [intentGates, List.mem_cons, List.not_mem_nil, or_false] at hg
  rcases hg with rfl | rfl | rfl <;>
    simp [enabled, administrativelyEnabled, getBoth, ask, setScan, bringsUp, seesOpen, hQ]

theorem heeds_gated (hg : g ∈ intentGates) (n : Nat) (rest : Script Bool) :
    Heeds g (do
      unless ← acquire n do return false
      unless ← gatesOpen do return false
      rest) := by
  refine Proc.Covered.bind_iff.2 (covered_acquire id (fun held => ?_) n)
  cases held with
  | false => trivial
  | true => exact Proc.Covered.bind_iff.2 (covered_gatesOpen hg trivial)

theorem heeds_wwanReconnect (hg : g ∈ intentGates) : Heeds g wwanReconnect := by
  refine ⟨id, fun raised => .inr ?_⟩
  cases raised with
  | false => exact heeds_gated hg 20 _
  | true => trivial

theorem heeds_modemReset (hg : g ∈ intentGates) : Heeds g modemReset := by
  refine ⟨id, fun raised => .inr ?_⟩
  cases raised with
  | true => trivial
  | false =>
    refine ⟨id, fun found => .inr ?_⟩
    cases found with
    | false => trivial
    | true => exact heeds_gated hg 30 _

theorem heeds_doRedial (hg : g ∈ intentGates) : Heeds g doRedial := by
  refine Proc.Covered.bind_iff.2 (covered_acquire id (fun held => ?_) 10)
  cases held with
  | false => trivial
  | true =>
    refine ⟨id, fun _ => .inr ⟨id, fun _ => .inr ?_⟩⟩
    exact (Proc.Covered.bind_iff (m := enabled)).2 (covered_enabled hg trivial)

theorem heeds_scanOperatorList : Heeds .dialEnabled scanOperatorList := by
  simp [Heeds, scanOperatorList, get, setScan, scanPause, spawnWorker, ask, bringsUp, seesOpen]

theorem Job.heeds_script {j : Job} (hg : g ∈ intentGates) (h : j.heeds g = true) :
    Heeds g j.script := by
  cases j with
  | modemReset => exact heeds_modemReset hg
  | wwanReconnect => exact heeds_wwanReconnect hg
  | doRedial => exact heeds_doRedial hg
  | disconnect => exact covered_netRun id id (by simp [ifdown, bringsUp]) fun _ => trivial
  | scanOperatorList => obtain rfl := of_decide_eq_true h; exact heeds_scanOperatorList
  | mhiReset | pinBounce | upgradeCellular => cases h

end

/-! ## The system -/

section
variable {g : Gate} {p : Nat} {e : Reply} {a : Act} {w : World}

theorem World.answer_isOpen (hg : g ∈ intentGates) :
    g.isOpen (w.answer p e a).2.uci = g.isOpen w.uci := by
  cases a with
  | setScan v =>
    have hne : g ≠ .scanInProgress := by rintro rfl; revert hg; decide
    simp only [World.answer, Gate.isOpen, Gate.get_set_of_ne hne]
  | _ => rfl

theorem not_seesOpen (h : g.isOpen w.uci = false) : ¬seesOpen g a (w.answer p e a).1 := by
  intro hs
  cases a with
  | get k => obtain ⟨rfl, hs⟩ := hs; exact Bool.false_ne_true (h.symm.trans hs)
  | getBoth k l =>
    rcases hs with ⟨rfl, hs⟩ | ⟨rfl, hs⟩ <;> exact Bool.false_ne_true (h.symm.trans hs)
  | _ => exact hs

theorem World.mem_answer_log (h : .up q u ∈ (w.answer p e a).2.log) :
    .up q u ∈ w.log ∨ a = .ifup ∧ u = w.uci := by
  cases a with
  | ifup =>
    rcases List.mem_append.1 h with h | h
    · exact .inl h
    · cases List.mem_singleton.1 h; exact .inr ⟨rfl, rfl⟩
  | ifdown =>
    rcases List.mem_append.1 h with h | h
    · exact .inl h
    · cases List.mem_singleton.1 h
  | _ => exact .inl h

end

namespace State

theorem perform_isOpen {s : State} {g : Gate} (hg : g ∈ intentGates) :
    g.isOpen (s.perform p e).world.uci = g.isOpen s.world.uci := by
  have same : g.isOpen ((s.runs p).advance (World.answer p e) s.world).2.uci =
      g.isOpen s.world.uci :=
    Proc.advance_of_next (P := fun w : World => g.isOpen w.uci = _) rfl fun _ _ =>
      World.answer_isOpen hg
  simpa [State.perform] using same

/-- Where an option is off, every run still looks at it, and every `ifup` so far was wanted. -/
structure IntentSafe (s : State) : Prop where
  heeds : ∀ g ∈ intentGates, g.isOpen s.world.uci = false → ∀ p, Heeds g (s.runs p)
  log : ∀ p u, .up p u ∈ s.world.log → IntentOn u

namespace IntentSafe
variable {s : State} {p : Nat} {e : Reply}

theorem intentOn (h : s.IntentSafe) (ha : (s.runs p).next = some a) (hu : bringsUp a) :
    IntentOn s.world.uci := by
  intro g hg
  by_contra hc
  exact (h.heeds g hg (Bool.eq_false_iff.2 hc) p).no_use ha hu

theorem start (h : s.IntentSafe)
    (hm : ∀ g ∈ intentGates, g.isOpen s.world.uci = false → Heeds g m) :
    (s.begin p m).IntentSafe where
  heeds g hg hc := by
    rw [begin_world] at hc
    exact forall_begin (h.heeds g hg hc) (hm g hg hc)
  log := by simpa using h.log

theorem perform (h : s.IntentSafe) : (s.perform p e).IntentSafe where
  heeds g hg hc := by
    rw [perform_isOpen hg] at hc
    refine forall_perform (fun q _ => h.heeds g hg hc q) ?_
    exact (h.heeds g hg hc p).advance fun a _ => not_seesOpen hc
  log q u hu := by
    have new : .up q u ∈ ((s.runs p).advance (World.answer p e) s.world).2.log →
        .up q u ∈ s.world.log ∨ IntentOn u :=
      Proc.advance_of_next (P := fun w : World => .up q u ∈ w.log → _) .inl fun a ha hw => by
        rcases World.mem_answer_log hw with hw | ⟨rfl, rfl⟩
        · exact .inl hw
        · exact .inr (h.intentOn ha trivial)
    exact (new (by simpa [State.perform] using hu)).elim (h.log q u) id

theorem spawn (h : s.IntentSafe) (hn : (s.runs p).next = some (.spawnWorker redial)) :
    ((s.perform p e).begin q (scanWorker redial)).IntentSafe := by
  refine h.perform.start fun g hg hc => ?_
  rw [perform_isOpen hg] at hc
  cases redial with
  | false => exact ⟨id, fun _ => .inr trivial⟩
  | true => exact absurd (h.intentOn hn trivial g hg) (Bool.eq_false_iff.1 hc)

theorem store (h : s.IntentSafe) (hg : OffWhenHeeded s (.store g v)) :
    (s.step (.store g v)).IntentSafe := by
  refine ⟨fun k hk hc => ?_, h.log⟩
  by_cases hkg : k = g
  · subst hkg
    exact hg hk (by simpa [State.step, Gate.isOpen] using hc)
  · refine h.heeds k hk ?_
    simpa only [State.step, Gate.isOpen, Gate.get_set_of_ne hkg] using hc

theorem step (h : s.IntentSafe) (ev : Event) (hg : OffWhenHeeded s ev) :
    (s.step ev).IntentSafe := by
  cases ev with
  | start p j => exact h.start fun g hi hc => Job.heeds_script hi (hg g hi hc)
  | step p e =>
    rcases step_step_cases s p e with hs | ⟨redial, hn, hs⟩
    · exact hs ▸ h.perform
    · exact hs ▸ h.spawn hn
  | kill p =>
    refine ⟨fun g hi hc => ?_, by simpa [State.step] using h.log⟩
    exact forall_kill (h.heeds g hi (by simpa [State.step] using hc)) trivial
  | store g v => exact h.store hg
  | removed p =>
    obtain ⟨hr, hu, hl⟩ := step_removed_frame (s := s) (p := p)
    exact ⟨hr ▸ hu ▸ h.heeds, hl ▸ h.log⟩

end IntentSafe

theorem AtRest.intentSafe {s : State} (h : s.AtRest) : s.IntentSafe where
  heeds g _ _ p := by rw [h.runs p]; trivial
  log p u hu := by rw [h.log] at hu; cases hu

end State

/-- If no option is switched off behind the last look of a run, and the scripts that do not look are
started only with the intent on, then every `ifup wwan` happens with the intent on. -/
theorem ifup_only_with_intent {s : State} (hs : s.AtRest) {es : List Event}
    (h : machine.Admits OffWhenHeeded s es) {p : Nat} {u : Uci}
    (hu : .up p u ∈ (machine.run s es).world.log) : IntentOn u := by
  have hrun : (machine.run s es).IntentSafe :=
    Machine.invariant (I := State.IntentSafe) (fun _ e hg ht => ht.step e hg) h hs.intentSafe
  exact hrun.log p u hu

def offAndOn : List Event :=
  [Event.store .dialEnabled ['0'], .store .dialEnabled ['1'], .start 0 .wwanReconnect] ++
  List.replicate 13 (Event.step 0 ⟨true, 0⟩)

theorem ifup_only_with_intent_reconnect :
    machine.Admits OffWhenHeeded (fresh {}) offAndOn ∧
    .up 0 { dialEnabled := ['1'] } ∈ (machine.run (fresh {}) offAndOn).world.log ∧
    IntentOn { dialEnabled := ['1'] } := by
  have adm : machine.Admits OffWhenHeeded (fresh {}) offAndOn := by
    refine Machine.admits_append.2 ⟨⟨?_, ?_, ?_, trivial⟩, Machine.Admits.of_forall ?_ _⟩
    · exact fun _ _ _ => trivial
    · exact fun _ h => absurd h (by decide)
    · exact fun _ _ _ => rfl
    · intro e he _
      obtain ⟨-, rfl⟩ := List.mem_replicate.1 he
      trivial
  have hup : .up 0 { dialEnabled := ['1'] } ∈ (machine.run (fresh {}) offAndOn).world.log := by
    decide
  exact ⟨adm, hup, ifup_only_with_intent (atRest_fresh {}) adm hup⟩

/-- An MHI reset on a router whose wwan is switched off: `redial_if_down` declines because of
`auto=0`, and its caller brings the interface up instead. -/
def mhiResetWhileOff : List Event :=
  [.start 0 .mhiReset, .step 0 ⟨true, 0⟩, .step 0 ⟨true, 0⟩, .step 0 ⟨true, 0⟩,
    .step 0 ⟨false, 0⟩, .step 0 ⟨true, 0⟩, .step 0 ⟨true, 0⟩,
    .step 0 ⟨false, 0⟩, .step 0 ⟨false, 0⟩, .step 0 ⟨true, 0⟩]

theorem mhi_reset_dials_against_intent :
    let off : Uci := { auto := ['0'] }
    .up 0 off ∈ (machine.run (fresh off) mhiResetWhileOff).world.log ∧ ¬IntentOn off := by
  decide

end GlXe3000.Cellular.Wwan
