import GlXe3000.Cellular.Wwan.System

/-! # The PCIe function is left alone while the modem is flashed

`gl-cellular-modem-reset` looks at the flashing flag once, before it waits for the lock, and
`upgrade_cellular` raises the flag without taking that lock. A run that has passed its look will
still remove and rescan the function, up to the end of a second cycle, and the child that writes to
`remove` can outlive it. So the flag excludes the sequence exactly as far as it is raised at a
moment when no such run is about. -/

namespace GlXe3000.Cellular.Wwan

/-- The sequence of the run `p` is executing. -/
def State.Cycling (s : State) (p : Nat) : Prop :=
  s.world.pci p ≠ .idle ∨ (s.runs p).next = some .remove ∨ (s.runs p).next = some .rescan

def touchesPci : Act → Prop
  | .remove | .rescan => True
  | _ => False

def seesNoFlag : (a : Act) → Answer a → Prop
  | .flashing, raised => raised = false
  | _, _ => False

def Spares (m : Script Bool) : Prop := m.Covered touchesPci seesNoFlag fun _ => True

/-- No sequence is executing, and none is to come without a look at the flag. -/
def State.Clear (s : State) : Prop := ∀ p, s.world.pci p = .idle ∧ Spares (s.runs p)

/-- `upgrade_cellular` raises its flag only when the PCIe function is clear. -/
def RaisedWhenClear (s : State) : Event → Prop
  | .step p _ => (s.runs p).next = some .raise → s.Clear
  | _ => True

/-! ## The scripts -/

theorem spares_netRun (h : Spares command) : Spares (netRun command) :=
  covered_netRun id id h fun _ => trivial

theorem spares_ifdown : Spares (netRun ifdown) :=
  spares_netRun (by simp [Spares, ifdown, touchesPci])

theorem spares_ifup : Spares (netRun ifup) :=
  spares_netRun (by simp [Spares, ifup, touchesPci])

theorem spares_scanWorker (redial : Bool) : Spares (scanWorker redial) := by
  refine ⟨id, fun _ => .inr ?_⟩
  cases redial with
  | false => trivial
  | true => exact spares_ifup

theorem spares_scanPause (redial : Bool) : Spares (scanPause redial) := by
  cases redial with
  | false => trivial
  | true => exact spares_ifdown

theorem spares_scanOperatorList : Spares scanOperatorList := by
  refine ⟨id, fun redial => .inr ⟨id, fun _ => .inr ?_⟩⟩
  refine (Proc.Covered.bind_iff (m := scanPause redial)).2 ?_
  refine (spares_scanPause redial).mono fun _ _ => ?_
  refine ⟨id, fun _ => .inr ⟨id, fun answered => .inr ⟨id, fun _ => .inr ?_⟩⟩⟩
  exact Proc.Covered.ite_iff.2 (by split; exacts [spares_ifup, trivial])

theorem spares_script (j : Job) : Spares j.script := by
  cases j with
  | modemReset => simp [Spares, Job.script, modemReset, flashing, touchesPci, seesNoFlag]
  | wwanReconnect => simp [Spares, Job.script, wwanReconnect, flashing, touchesPci, seesNoFlag]
  | mhiReset => simp [Spares, Job.script, mhiReset, flashing, touchesPci, seesNoFlag]
  | doRedial =>
    refine Proc.Covered.bind_iff.2 (covered_acquire id (fun b => ?_) 10)
    simp [ifdown, ifup, ask, enabled, administrativelyEnabled, getBoth, setScan, touchesPci]
  | disconnect => exact spares_ifdown
  | pinBounce => exact spares_netRun (by simp [Spares, ifdown, ifup, touchesPci])
  | scanOperatorList => exact spares_scanOperatorList
  | upgradeCellular =>
    simp [Spares, Job.script, upgradeCellular, raise, lower, ifdown, ifup, ask, touchesPci]

/-! ## The system -/

section
variable {p : Nat} {e : Reply} {a : Act} {w : World}

theorem World.answer_pci (h : ¬touchesPci a) : (w.answer p e a).2.pci = w.pci := by
  cases a with
  | remove | rescan => exact absurd trivial h
  | _ => rfl

theorem World.answer_flashing (h : (w.answer p e a).2.flashing = true) :
    w.flashing = true ∨ a = .raise := by
  cases a with
  | raise => exact .inr rfl
  | lower => cases h
  | _ => exact .inl h

theorem not_seesNoFlag (h : w.flashing = true ∨ a = .raise) : ¬seesNoFlag a (w.answer p e a).1 := by
  intro hs
  cases a with
  | flashing =>
    rcases h with h | h
    · exact Bool.false_ne_true (hs.symm.trans h)
    · cases h
  | _ => exact hs

end

namespace State
variable {s : State} {p : Nat} {e : Reply}

theorem Clear.start (h : s.Clear) (hm : Spares m) : (s.begin p m).Clear :=
  fun q => ⟨by simpa using (h q).1, forall_begin (fun q => (h q).2) hm q⟩

theorem Clear.perform (h : s.Clear)
    (hflag : s.world.flashing = true ∨ (s.runs p).next = some .raise) : (s.perform p e).Clear := by
  have hrun : Spares ((s.runs p).advance (World.answer p e) s.world).1 :=
    (h p).2.advance fun a ha => not_seesNoFlag (hflag.imp_right fun hr => by simpa [ha] using hr)
  have hpci : ((s.runs p).advance (World.answer p e) s.world).2.pci = s.world.pci :=
    Proc.advance_of_next (P := fun w : World => w.pci = s.world.pci) rfl fun a ha =>
      World.answer_pci ((h p).2.no_use ha)
  intro q
  refine ⟨finish_pci (fun q => ?_) q, forall_perform (fun q _ => (h q).2) hrun q⟩
  simpa [hpci] using (h q).1

def FlashSafe (s : State) : Prop := s.world.flashing = true → s.Clear

theorem FlashSafe.perform (h : s.FlashSafe) (hg : RaisedWhenClear s (.step p e)) :
    (s.perform p e).FlashSafe := by
  intro hf
  have raised : ((s.runs p).advance (World.answer p e) s.world).2.flashing = true →
      s.world.flashing = true ∨ (s.runs p).next = some .raise :=
    Proc.advance_of_next (P := fun w : World => w.flashing = true → _) .inl fun a ha hw =>
      (World.answer_flashing hw).imp_right fun hr : a = .raise => hr ▸ ha
  have hflag := raised (by simpa [State.perform] using hf)
  exact Clear.perform (hflag.elim h hg) hflag

theorem FlashSafe.step (h : s.FlashSafe) (ev : Event) (hg : RaisedWhenClear s ev) :
    (s.step ev).FlashSafe := by
  cases ev with
  | start p j =>
    intro hf
    exact Clear.start (h (by simpa [State.step] using hf)) (spares_script j)
  | step p e =>
    rcases step_step_cases s p e with hs | ⟨redial, -, hs⟩
    · exact hs ▸ h.perform hg
    · intro hf
      rw [hs] at hf ⊢
      exact Clear.start (h.perform hg (by simpa using hf)) (spares_scanWorker redial)
  | kill p =>
    intro hf
    have hc := h (by simpa [State.step] using hf)
    intro q
    exact ⟨kill_pci (fun q => (hc q).1) q, forall_kill (I := Spares) (fun q => (hc q).2) trivial q⟩
  | store g v => exact h
  | removed p =>
    by_cases hp : s.world.pci p = .removing
    · -- A child in its write contradicts the flag.
      intro hf
      have hidle := (h (by simpa [State.step, hp, World.setPci] using hf) p).1
      cases hp.symm.trans hidle
    · simpa only [State.step, if_neg hp] using h

theorem Clear.not_cycling (h : s.Clear) (p : Nat) : ¬s.Cycling p := by
  rintro (hc | hc | hc)
  · exact hc (h p).1
  · exact (h p).2.no_use hc trivial
  · exact (h p).2.no_use hc trivial

theorem AtRest.clear (h : s.AtRest) : s.Clear := by
  intro p
  rw [h.runs p]
  exact ⟨h.pci p, trivial⟩

end State

/-- If the flag is only ever raised over a clear function, no remove/rescan sequence executes while
it exists, whatever else runs and however it is interleaved. -/
theorem no_cycle_while_flashing {s : State} (hs : s.AtRest) {es : List Event}
    (h : machine.Admits RaisedWhenClear s es) (hf : (machine.run s es).world.flashing = true)
    (p : Nat) : ¬(machine.run s es).Cycling p := by
  have hrun : (machine.run s es).FlashSafe :=
    Machine.invariant (I := State.FlashSafe) (fun _ e hg ht => ht.step e hg) h fun _ => hs.clear
  exact (hrun hf).not_cycling p

/-- The flag goes up on an idle router; the reset that is started afterwards turns away. -/
def flashThenReset : List Event :=
  [.start 1 .upgradeCellular, .step 1 ⟨true, 0⟩, .start 0 .modemReset, .step 0 ⟨true, 0⟩]

theorem no_cycle_while_flashing_idle_router :
    machine.Admits RaisedWhenClear (fresh {}) flashThenReset ∧
    (machine.run (fresh {}) flashThenReset).world.flashing = true ∧
    ¬(machine.run (fresh {}) flashThenReset).Cycling 0 := by
  have adm : machine.Admits RaisedWhenClear (fresh {}) flashThenReset := by
    refine ⟨trivial, fun _ => ?_, trivial, fun h => ?_, trivial⟩
    · exact (atRest_fresh {}).clear.start (spares_script .upgradeCellular)
    · cases h
  exact ⟨adm, rfl, no_cycle_while_flashing (atRest_fresh {}) adm rfl 0⟩

/-- The flag goes up while a reset that has already looked waits for its lock. -/
def resetThenFlash : List Event :=
  [Event.start 0 .modemReset, .step 0 ⟨true, 0⟩, .step 0 ⟨true, 0⟩,
    .start 1 .upgradeCellular, .step 1 ⟨true, 0⟩] ++
  List.replicate 7 (Event.step 0 ⟨true, 0⟩)

theorem function_removed_while_flashing :
    let t := machine.run (fresh {}) resetThenFlash
    t.world.flashing = true ∧ t.world.pci 0 = .removing ∧ t.Cycling 0 := by
  have hpci : (machine.run (fresh {}) resetThenFlash).world.pci 0 = .removing := by decide
  exact ⟨by decide, hpci, .inl (by rw [hpci]; decide)⟩

end GlXe3000.Cellular.Wwan
