import GlXe3000.Cellular.Traffic.Reset

/-! # What is counted and what was transferred

The counters belong to devices, which are recreated and take turns to carry the link; the daemon
keeps the last counters it saw and not whose they were. On one device the difference is at most what
was transferred since. Between two devices it has no meaning, and is still counted where it happens
to be positive. -/

namespace GlXe3000.Cellular.Traffic

variable {Dev : Type} [DecidableEq Dev]

structure Link (Dev : Type) where
  state : State
  /-- `statistics/rx_bytes` and `statistics/tx_bytes`. -/
  counters : Dev → Nat × Nat
  device : Option Dev := none
  sampled : Option Dev := none
  transferred : Nat := 0
  accumulated : Nat := 0

namespace Link

inductive Event (Dev : Type)
  | transfer (dev : Dev) (rx tx : Nat)
  | recreate (dev : Dev)
  | carry (dev : Option Dev)
  | sample (now : Int) (between : Write)
  | start (persistInterval : Int)
  | stop
  | setTrafficConfig (w : Write)
  | reset

def step (s : Link Dev) : Event Dev → Link Dev
  | .transfer dev rx tx =>
    { s with
      counters := Function.update s.counters dev ((s.counters dev).1 + rx, (s.counters dev).2 + tx)
      transferred := s.transferred + (rx + tx) }
  | .recreate dev => { s with counters := Function.update s.counters dev (0, 0) }
  | .carry dev => { s with device := dev }
  | .sample now between =>
    { s with
      state := s.state.step (.sample (s.device.map s.counters) now between)
      sampled := if s.state.daemon.isSome then s.device.or s.sampled else s.sampled
      accumulated := s.accumulated +
        (s.state.daemon.map (addedBy (s.device.map s.counters))).getD 0 }
  | .start persistInterval => { s with state := s.state.step (.start persistInterval) }
  | .stop => { s with state := s.state.step .stop }
  | .setTrafficConfig w => { s with state := s.state.step (.setTrafficConfig w) }
  | .reset => { s with state := s.state.step .reset }

def machine : Machine (Link Dev) (Event Dev) := ⟨step⟩

def last (s : Link Dev) : Option (Nat × Nat) := s.state.daemon.bind Daemon.last

/-- Nothing was counted that was not transferred, and what the sampled device has over the last
counters is not counted yet. -/
structure Backed (s : Link Dev) : Prop where
  counted : s.accumulated ≤ s.transferred
  pending : ∀ last ∈ s.last, ∀ dev ∈ s.sampled,
    s.accumulated + (s.counters dev).1 + (s.counters dev).2 ≤ s.transferred + last.1 + last.2

/-- A sample is taken on the device of the one before, or one of the counters went backwards. -/
def SameDevice (s : Link Dev) : Event Dev → Prop
  | .sample .. => ∀ dev ∈ s.device, ∀ last ∈ s.last,
    s.sampled = some dev ∨ (s.counters dev).1 < last.1 ∨ (s.counters dev).2 < last.2
  | _ => True

instance (s : Link Dev) : DecidablePred (SameDevice s) := by
  intro e; cases e <;> unfold SameDevice <;> infer_instance

end Link

/-! ## The last counters -/

theorem sample_last (counters : Option (Nat × Nat)) (now : Int) (w : Write) (d : Daemon) (u : Uci) :
    (trafficSample counters now w d u).1.last = counters.or d.last := by
  unfold trafficSample
  cases counters with
  | none => rfl
  | some counters => dsimp only; split <;> rfl

namespace Link

theorem last_sample {s : Link Dev} {d : Daemon} (hd : s.state.daemon = some d) :
    (s.step (.sample now w)).last = (s.device.map s.counters).or d.last := by
  simp [last, step, State.step, hd, sample_last]

theorem Backed.transfer {s : Link Dev} (hs : Backed s) (dev : Dev) (rx tx : Nat) :
    Backed (s.step (.transfer dev rx tx)) := by
  have hcounted := hs.counted
  refine ⟨Nat.le_add_right_of_le hcounted, fun l hl dev' hdev' => ?_⟩
  have hpending := hs.pending l hl dev' hdev'
  simp only [step]
  by_cases h : dev' = dev
  · subst h
    simp only [Function.update_self]
    omega
  · simp only [Function.update_of_ne h]
    omega

theorem Backed.recreate {s : Link Dev} (hs : Backed s) (dev : Dev) :
    Backed (s.step (.recreate dev)) := by
  have hcounted := hs.counted
  refine ⟨hcounted, fun l hl dev' hdev' => ?_⟩
  have hpending := hs.pending l hl dev' hdev'
  simp only [step]
  by_cases h : dev' = dev
  · subst h
    simp only [Function.update_self]
    omega
  · simpa only [Function.update_of_ne h] using hpending

omit [DecidableEq Dev] in
theorem Backed.added_le {s : Link Dev} (hs : Backed s)
    (hd : s.state.daemon = some d) (h : SameDevice s (.sample now w)) :
    s.accumulated + addedBy (s.device.map s.counters) d ≤ s.transferred := by
  have hcounted := hs.counted
  unfold addedBy
  cases hdev : s.device with
  | none => simpa using hcounted
  | some dev =>
    cases hl : d.last with
    | none => simpa [sampledDelta] using hcounted
    | some l =>
      have hlast : s.last = some l := by simp [last, hd, hl]
      simp only [Option.map_some, Option.bind_some, sampledDelta]
      split
      · next hle =>
        have hpending := hs.pending l hlast dev <|
          (h dev hdev l hlast).resolve_right (by omega)
        simp only [Option.getD_some]
        omega
      · exact hcounted

theorem Backed.sample {s : Link Dev} (hs : Backed s)
    (h : SameDevice s (.sample now w)) : Backed (s.step (.sample now w)) := by
  cases hd : s.state.daemon with
  | none =>
    have hlast : (s.step (.sample now w)).last = none := by simp [last, step, State.step, hd]
    refine ⟨by simpa [step, hd] using hs.counted, fun l hl => ?_⟩
    rw [hlast] at hl
    cases hl
  | some d =>
    have hadded := hs.added_le hd h
    refine ⟨by simpa [step, hd] using hadded, fun l hl dev hdev => ?_⟩
    rw [last_sample hd] at hl
    cases hdevice : s.device with
    | none =>
      have hpending := hs.pending l (by simpa [last, hd, hdevice] using hl) dev
        (by simpa [step, hd, hdevice] using hdev)
      simpa [step, hd, hdevice, addedBy] using hpending
    | some dev' =>
      obtain rfl : dev' = dev := by simpa [step, hd, hdevice] using hdev
      obtain rfl : s.counters dev' = l := by simpa [hdevice] using hl
      rw [hdevice] at hadded
      simp only [step, hd, hdevice, Option.map_some, Option.getD_some] at hadded ⊢
      omega

omit [DecidableEq Dev] in
theorem Backed.of_state {s : Link Dev} (hs : Backed s) {state : State}
    (h : ∀ l ∈ state.daemon.bind Daemon.last, l ∈ s.last) : Backed { s with state } :=
  ⟨hs.counted, fun l hl dev hdev => hs.pending l (h l hl) dev hdev⟩

theorem Backed.step {s : Link Dev} (h : SameDevice s e) (hs : Backed s) : Backed (s.step e) := by
  cases e with
  | transfer dev rx tx => exact hs.transfer dev rx tx
  | recreate dev => exact hs.recreate dev
  | carry dev => exact ⟨hs.counted, hs.pending⟩
  | sample now between => exact hs.sample h
  | start persistInterval =>
    refine hs.of_state fun l hl => ?_
    cases hd : s.state.daemon <;> simp_all [State.step, Daemon.start, last]
  | stop => exact hs.of_state fun l hl => (by simp [State.step] at hl)
  | setTrafficConfig w => exact hs.of_state fun l hl => hl
  | reset =>
    refine hs.of_state fun l hl => ?_
    cases hd : s.state.daemon <;> simp_all [State.step, resetTraffic, last]

/-- In every run whose samples follow one device, or see a counter go backwards where it changes,
the daemon counts at most what was transferred. -/
theorem accumulated_le_transferred (u : Uci) (counters : Dev → Nat × Nat) (es : List (Event Dev))
    (h : machine.Admits SameDevice { state := { uci := u }, counters } es) :
    (machine.run { state := { uci := u }, counters } es).accumulated ≤
      (machine.run { state := { uci := u }, counters } es).transferred := by
  have hstart : Backed ({ state := { uci := u }, counters } : Link Dev) :=
    ⟨Nat.le_refl 0, fun l hl => (by cases hl)⟩
  exact (Machine.invariant (fun s e => Backed.step) h hstart).counted

def countersBefore (dev : Bool) : Nat × Nat := if dev then (3000, 2000) else (60, 40)

/-- A device that is recreated, and a change to one whose counters are below. -/
theorem accumulated_le_transferred_recreated :
    let es := [Event.start 300, .carry (some true), .sample 0 {}, .transfer true 30 5,
      .sample 60 {}, .recreate true, .transfer true 7 1, .sample 120 {}, .transfer true 2 2,
      .sample 180 {}, .transfer false 1 1, .recreate false, .carry (some false), .sample 240 {}]
    let s := machine.run { state := { uci := {} }, counters := countersBefore } es
    machine.Admits SameDevice { state := { uci := {} }, counters := countersBefore } es ∧
      s.accumulated = 39 ∧ s.transferred = 49 ∧ s.accumulated ≤ s.transferred :=
  ⟨by decide, by decide, by decide, accumulated_le_transferred {} countersBefore _ (by decide)⟩

/-- The link moves to a device with traffic from before the run: 4900 bytes are counted, none was
transferred. -/
theorem device_change_counted : let es :=
      [Event.start 300, .carry (some false), .sample 0 {}, .carry (some true), .sample 60 {}]
    let s := machine.run { state := { uci := {} }, counters := countersBefore } es
    s.accumulated = 4900 ∧ s.transferred = 0 ∧ s.state.total = 4900 := by
  decide

end Link
end GlXe3000.Cellular.Traffic
