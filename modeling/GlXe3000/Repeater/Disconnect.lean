import GlXe3000.Repeater.Timeout

/-! # A disconnect is final

`disconnect` removes the retry that is due and disables the station. Then a pass of the daemon finds
no retry and a disabled station, and leaves both alone. A pass that is under way has looked before: it
enables the station that it found due, or schedules a retry for the one that it found enabled. -/

namespace GlXe3000.Repeater

/-! ## The station -/

section
variable {p q : Package} {n m : Text}

/-- The section is a station of the network `repeater`. -/
def isStationName (p : Package) (n : Text) : Bool :=
  p.get n "mode" = some (.text "sta") &&
    p.get n "network" = some (.text "repeater")

theorem repeaterIface_eq (p : Package) : repeaterIface p =
    ((p.headers.filter fun h => h.2 = "wifi-iface".toList && isStationName p h.1).getLast?).map
      Prod.fst := by
  have hfilter : (p.ofType "wifi-iface").filter (fun e => isStation e.2) =
      p.sections.filter fun e => e.2.type = "wifi-iface".toList && isStationName p e.1 := by
    rw [Package.ofType, List.filter_filter]
    refine List.filter_congr fun e he => ?_
    have hfind : p.find e.1 = some e.2 := Package.find_eq_some_iff.2 he
    have hget : ∀ o, p.get e.1 o = e.2.options o := fun o => by rw [Package.get, hfind]; rfl
    rw [isStationName, hget, hget, isStation, Bool.and_comm]
  rw [repeaterIface, hfilter, Package.headers, List.filter_map, List.getLast?_map, Option.map_map]
  rfl

theorem repeaterIface_congr (hheaders : q.headers = p.headers)
    (hmode : ∀ n, q.get n "mode" = p.get n "mode")
    (hnetwork : ∀ n, q.get n "network" = p.get n "network") :
    repeaterIface q = repeaterIface p := by
  have hname : isStationName q = isStationName p := by
    funext n
    rw [isStationName, hmode, hnetwork, isStationName]
  rw [repeaterIface_eq, repeaterIface_eq, hheaders, hname]

theorem repeaterIface_set {o : String} (hmode : o ≠ "mode") (hnetwork : o ≠ "network") :
    repeaterIface (p.set n o.toList v) = repeaterIface p := by
  have hne : ∀ o' : String, o ≠ o' → o'.toList ≠ o.toList := fun o' h heq =>
    h (String.toList_injective heq).symm
  exact repeaterIface_congr Package.headers_set
    (fun _ => Package.get_set_of_ne (.inr (hne _ hmode)))
    (fun _ => Package.get_set_of_ne (.inr (hne _ hnetwork)))

theorem typeOf_of_repeaterIface (h : repeaterIface p = some n) :
    p.typeOf n = some "wifi-iface" := by
  obtain ⟨⟨m, s⟩, hs, rfl⟩ := Option.map_eq_some_iff.1 h
  exact Package.typeOf_eq_some_iff.2 ⟨s, (List.mem_filter.1 (List.mem_of_getLast? hs)).1⟩

theorem repeaterIface_setDisabled : repeaterIface (setDisabled p n b) = repeaterIface p :=
  repeaterIface_set (by decide) (by decide)

theorem isOn_setDisabled (h : (p.typeOf n).isSome) :
    isOn ((setDisabled p n b).get n "disabled") = b := by
  rw [setDisabled, Package.get_set_self h]
  exact isOn_flagValue b

def StationOff (p : Package) : Prop :=
  ∀ n, repeaterIface p = some n → isOn (p.get n "disabled") = true

theorem stationOff_disableUplink (c : Config) : StationOff (disableUplink c).wireless := by
  unfold disableUplink
  split
  · next hnone =>
    intro n hn
    rw [hnone] at hn
    cases hn
  · next n hn =>
    intro m hm
    have hm : repeaterIface (setDisabled c.wireless n true) = some m := hm
    rw [repeaterIface_setDisabled, hn] at hm
    cases hm
    exact isOn_setDisabled (by rw [typeOf_of_repeaterIface hn]; rfl)

end

def requestedBand (args : Json) : Option Text := (Json.orElse (arg args "lock_band") (.str [])).asText

def Moves (args : Json) (c : Config) : Prop :=
  ∃ n radio, repeaterIface c.wireless = some n ∧
    radioForBand c.wireless (requestedBand args) = some radio ∧
    c.wireless.get n "device" ≠ some (.text radio)

theorem setBand_of_not_moves {c : Config} (h : ¬Moves args c) :
    (setBand args c).2.wireless = c.wireless := by
  unfold setBand
  split
  · next band hband =>
    split
    · rfl
    · dsimp only
      unfold moveUplink
      split
      · next n radio hn hradio =>
        refine if_pos ?_
        by_contra hdevice
        refine h ⟨n, radio, hn, ?_, hdevice⟩
        rw [requestedBand, hband]
        exact hradio
      · rfl
  · rfl

namespace Timeout

/-! ## A quiet station -/

/-- Nothing is due, the station is disabled, and a pass that is under way will find it so. -/
structure Quiet (w : World) (d : Daemon) : Prop where
  retryAt : w.files.retryAt = none
  off : StationOff w.config.wireless
  pc : d.pc = .top ∨ d.pc = .noStation ∨
    (d.pc = .checkRetry ∨ d.pc = .checkDisabled) ∧ w.isDisabled d.station = true

theorem Quiet.congr {w w' : World} (h : Quiet w d) (hretry : w'.files.retryAt = w.files.retryAt)
    (hwireless : w'.config.wireless = w.config.wireless) : Quiet w' d := by
  refine ⟨hretry.trans h.retryAt, hwireless ▸ h.off, ?_⟩
  rw [World.isDisabled, hwireless]
  exact h.pc

theorem Quiet.pc_ne_enable {d : Daemon} (h : Quiet w d) : d.pc ≠ .enable := by
  intro henable
  have hpc := h.pc
  rw [henable] at hpc
  obtain hpc | hpc | ⟨hpc | hpc, -⟩ := hpc
  all_goals cases hpc

theorem Quiet.step {max : Nat} {e : Reply} {w : World} {d : Daemon} (h : Quiet w d) :
    Quiet (d.step max e w).1 (d.step max e w).2 := by
  obtain ⟨pc, station, since, nak⟩ := d
  obtain ⟨hretry, hoff, hpc⟩ := h
  dsimp only at hpc
  obtain rfl | rfl | ⟨rfl | rfl, hdisabled⟩ := hpc
  · unfold Daemon.step
    dsimp only
    split
    · exact ⟨hretry, hoff, .inr (.inl rfl)⟩
    · next station hstation =>
      exact ⟨hretry, hoff, .inr (.inr ⟨.inl rfl, hoff station hstation⟩)⟩
  · exact ⟨rfl, hoff, .inl rfl⟩
  · have hnone : w.files.retryAt.isSome = false := by rw [hretry]; rfl
    unfold Daemon.step
    dsimp only
    rw [hnone]
    exact ⟨hretry, hoff, .inr (.inr ⟨.inr rfl, hdisabled⟩)⟩
  · unfold Daemon.step
    dsimp only
    rw [if_pos hdisabled]
    exact ⟨hretry, hoff, .inl rfl⟩

/-! ## Steps -/

/-- The daemon sleeps from the call of a `disconnect` until it returns, and no call moves the station
to another radio after that. -/
def Sleeps (s : State) : Event → Prop
  | .call c => c = .disconnect → s.acts = [] → s.daemon.pc = .top
  | .daemon _ => Act.disable ∉ s.acts
  | .act => ∀ args, s.acts.head? = some (.setBand args) → s.disconnected = true →
      ¬Moves args s.world.config
  | .clock _ => True

structure Inv (s : State) : Prop where
  quiet : s.disconnected = true → Quiet s.world s.daemon
  served : .disable ∈ s.acts → s.daemon.pc = .top ∧
    (s.acts = [.clear, .disable] ∨ s.acts = [.disable] ∧ s.world.files.retryAt = none)
  log : ∀ retry, .enabled true retry ∉ s.log

section
variable {s : State} {max : Nat}

theorem startCall_inv (h : Inv s) (hsleeps : Sleeps s (.call c)) : Inv (s.startCall c) := by
  unfold State.startCall
  split
  · exact h
  · next hacts =>
    refine ⟨fun hd => h.quiet (Bool.and_eq_true_iff.1 hd).1, fun hmem => ?_, fun retry hmem => ?_⟩
    · cases c with
      | disconnect => exact ⟨hsleeps rfl hacts, .inl rfl⟩
      | _ => simp [Call.acts] at hmem
    · refine h.log retry ?_
      dsimp only at hmem
      split at hmem
      · exact (List.mem_cons.1 hmem).resolve_left (fun heq => nomatch heq)
      · exact hmem

theorem Inv.disable_not_mem (h : Inv s) (hacts : s.acts = a :: acts)
    (hclear : a ≠ .clear) : .disable ∉ acts := by
  intro hmem
  obtain ⟨-, heq | ⟨heq, -⟩⟩ := h.served (hacts ▸ List.mem_cons_of_mem _ hmem)
  · rw [hacts] at heq
    exact hclear (List.cons.inj heq).1
  · rw [hacts] at heq
    rw [(List.cons.inj heq).2] at hmem
    cases hmem

theorem act_inv (h : Inv s) (hsleeps : Sleeps s .act) : Inv s.act := by
  unfold State.act
  split
  · exact h
  · next a acts hacts =>
    cases a with
    | clear =>
      refine ⟨fun hd => ?_, fun hmem => ?_, h.log⟩
      · obtain ⟨-, hoff, hpc⟩ := h.quiet hd
        exact ⟨rfl, hoff, hpc⟩
      · obtain ⟨hpc, heq | ⟨heq, -⟩⟩ := h.served (hacts ▸ List.mem_cons_of_mem _ hmem)
        · rw [hacts] at heq
          exact ⟨hpc, .inr ⟨(List.cons.inj heq).2, rfl⟩⟩
        · rw [hacts] at heq
          cases (List.cons.inj heq).1
    | disable =>
      obtain ⟨hpc, heq | ⟨heq, hretry⟩⟩ := h.served (hacts ▸ List.mem_cons_self)
      · rw [hacts] at heq
        cases (List.cons.inj heq).1
      · refine ⟨fun _ => ⟨hretry, stationOff_disableUplink _, .inl hpc⟩, fun hmem => ?_, h.log⟩
        exact absurd hmem (h.disable_not_mem hacts fun heq => nomatch heq)
    | enable =>
      refine ⟨(fun hd => nomatch hd), fun hmem => ?_, h.log⟩
      exact absurd hmem (h.disable_not_mem hacts fun heq => nomatch heq)
    | apply env args =>
      refine ⟨(fun hd => nomatch hd), fun hmem => ?_, h.log⟩
      exact absurd hmem (h.disable_not_mem hacts fun heq => nomatch heq)
    | setBand args =>
      refine ⟨fun hd => ?_, fun hmem => ?_, h.log⟩
      · exact (h.quiet hd).congr rfl (setBand_of_not_moves (hsleeps args (by rw [hacts]; rfl) hd))
      · exact absurd hmem (h.disable_not_mem hacts fun heq => nomatch heq)

theorem runDaemon_inv {e : Reply} (h : Inv s) (hsleeps : Sleeps s (.daemon e)) :
    Inv (s.runDaemon max e) := by
  refine ⟨fun hd => (h.quiet hd).step, fun hmem => absurd hmem hsleeps, fun retry hmem => ?_⟩
  obtain hmem | hmem := List.mem_append.1 hmem
  · unfold State.notes at hmem
    split at hmem
    · split at hmem
      · cases List.mem_singleton.1 hmem
      · cases hmem
    · cases List.mem_singleton.1 hmem
    · next hpc =>
      injection List.mem_singleton.1 hmem with hd
      exact (h.quiet hd.symm).pc_ne_enable hpc
    · cases hmem
  · exact h.log retry hmem

theorem step_inv (h : Inv s) (hsleeps : Sleeps s e) : Inv ((machine max).step s e) := by
  cases e with
  | call c => exact startCall_inv h hsleeps
  | act => exact act_inv h hsleeps
  | daemon e => exact runDaemon_inv h hsleeps
  | clock now =>
    exact ⟨fun hd => (h.quiet hd).congr rfl rfl, h.served, h.log⟩

end

structure State.Fresh (s : State) : Prop where
  acts : s.acts = []
  disconnected : s.disconnected = false
  log : s.log = []

theorem State.Fresh.inv {s : State} (h : s.Fresh) : Inv s where
  quiet hd := by
    rw [h.disconnected] at hd
    cases hd
  served hmem := by
    rw [h.acts] at hmem
    cases hmem
  log retry hmem := by
    rw [h.log] at hmem
    cases hmem

/-- If the daemon sleeps while a `disconnect` is served, it does not enable the station after it has
returned, until the user connects or selects a network. -/
theorem disconnect_is_final {max : Nat} {s : State} {es : List Event} (hs : s.Fresh)
    (hes : (machine max).Admits Sleeps s es) (retry : Option (Nat × Bool)) :
    .enabled true retry ∉ ((machine max).run s es).log :=
  (Machine.invariant (I := Inv) (fun _ _ hsleeps h => step_inv h hsleeps) hes hs.inv).log retry

def waiting : State where
  world :=
    { config :=
        { wireless := Package.empty.newSection "sta0" "wifi-iface"
            [("mode", .text "sta"), ("network", .text "repeater"),
              ("disabled", .text ['1'])]
          repeater := Package.empty
          network := Package.empty }
      files := ⟨some 50, true, some 1, none, none⟩
      now := 60 }
  daemon := ⟨.top, [], none, none⟩
  acts := []
  disconnected := false
  retry := some (30, false)
  log := []

def down : Reply := ⟨true, false, none⟩

/-- The daemon enables the station and begins to time the attempt; then the user disconnects. -/
theorem disconnect_is_final_attempting :
    let es := List.replicate 11 (.daemon down) ++
      [.call .disconnect, .act, .act, .daemon down, .daemon down, .daemon down]
    (machine 6).Admits Sleeps waiting es ∧ ((machine 6).run waiting es).disconnected = true ∧
      ((machine 6).run waiting es).log = [.enabled false (some (30, false))] ∧
      .enabled true none ∉ ((machine 6).run waiting es).log := by
  have hfree : ∀ s : State, s.acts = [] → Act.disable ∉ s.acts := fun s h hmem => by
    rw [h] at hmem
    cases hmem
  have hadmits : (machine 6).Admits Sleeps waiting (List.replicate 11 (.daemon down) ++
      [.call .disconnect, .act, .act, .daemon down, .daemon down, .daemon down]) := by
    refine ⟨hfree _ rfl, hfree _ rfl, hfree _ rfl, hfree _ rfl, hfree _ rfl, hfree _ rfl, hfree _ rfl,
      hfree _ rfl, hfree _ rfl, hfree _ rfl, hfree _ rfl, fun _ _ => ?_, ?_, ?_, hfree _ rfl, hfree _ rfl,
      hfree _ rfl, trivial⟩
    · decide
    · exact fun _ h => nomatch h
    · exact fun _ h => nomatch h
  exact ⟨hadmits, by decide, by decide, disconnect_is_final ⟨rfl, rfl, rfl⟩ hadmits none⟩

/-- The daemon has seen that the time has come and waits for the lock, while the user disconnects. -/
theorem enabled_after_disconnect : waiting.Fresh ∧
    .enabled true none ∈ ((machine 6).run waiting
      [.daemon down, .daemon down, .daemon down, .call .disconnect, .act, .act, .daemon down,
        .daemon down]).log :=
  ⟨⟨rfl, rfl, rfl⟩, by decide⟩

end Timeout
end GlXe3000.Repeater
