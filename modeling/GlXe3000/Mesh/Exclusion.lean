import GlXe3000.Mesh.Config
import GlXe3000.Repeater.Budget

/-! # The mesh or the repeater

Both want the station side of a radio. `mesh.lua` looks for a station before it switches the mesh on.
Nothing in `repeater.lua` or its daemon looks for the mesh. -/

namespace GlXe3000.Mesh
open Repeater Repeater.Timeout

/-! ## Stations -/

section
variable {p q : Package} {n m : Text}

def StationOn (p : Package) (n : Text) : Prop :=
  p.typeOf n = some "wifi-iface" ∧ p.get n "mode" = some (.text "sta") ∧
    isOn (p.get n "disabled") = false

instance : Decidable (StationOn p n) := inferInstanceAs (Decidable (_ ∧ _ ∧ _))

def AllOff (p : Package) : Prop := ∀ n, ¬StationOn p n

theorem AllOff.congr (h : AllOff p) (htype : q.typeOf = p.typeOf)
    (hmode : ∀ n, q.get n "mode" = p.get n "mode")
    (hdisabled : ∀ n, q.get n "disabled" = p.get n "disabled") : AllOff q := by
  rintro n ⟨hn, hsta, hoff⟩
  exact h n ⟨htype ▸ hn, hmode n ▸ hsta, hdisabled n ▸ hoff⟩

theorem AllOff.stationOff (h : AllOff p) : StationOff p := by
  intro n hn
  have hmode : p.get n "mode" = some (.text "sta") := by
    rw [repeaterIface_eq] at hn
    obtain ⟨header, hlast, rfl⟩ := Option.map_eq_some_iff.1 hn
    have hstation := (List.mem_filter.1 (List.mem_of_getLast? hlast)).2
    exact of_decide_eq_true (Bool.and_eq_true_iff.1 (Bool.and_eq_true_iff.1 hstation).2).1
  by_contra hoff
  exact h n ⟨typeOf_of_repeaterIface hn, hmode, Bool.eq_false_iff.2 hoff⟩

theorem isOn_setDisabled_true (hn : (p.typeOf n).isSome = true)
    (h : isOn (p.get m "disabled") = true) :
    isOn ((setDisabled p n true).get m "disabled") = true := by
  by_cases hm : m = n
  · rw [hm]
    exact isOn_setDisabled hn
  · rw [setDisabled, Package.get_set_of_ne (.inl hm)]
    exact h

theorem AllOff.setDisabled (h : AllOff p) (hn : (p.typeOf n).isSome = true) :
    AllOff (setDisabled p n true) := by
  rintro m ⟨hm, hsta, hoff⟩
  rw [Repeater.setDisabled, Package.typeOf_set] at hm
  rw [Repeater.setDisabled, Package.get_set_of_ne (.inr (by decide))] at hsta
  have hon : isOn (p.get m "disabled") ≠ true := fun hon => by
    rw [isOn_setDisabled_true hn hon] at hoff
    cases hoff
  exact h m ⟨hm, hsta, Bool.eq_false_iff.2 hon⟩

end

/-! ## The two systems -/

structure State where
  repeater : Timeout.State
  mesh : Package
  prplmesh : Package

/-- The packages as `mesh.lua` sees them. -/
def State.config (s : State) : Config :=
  ⟨s.mesh, s.prplmesh, s.repeater.world.config.wireless, s.repeater.world.config.repeater⟩

def State.commit (s : State) (c : Config) : State :=
  { repeater := { s.repeater with world := s.repeater.world.setWireless c.wireless }
    mesh := c.mesh
    prplmesh := c.prplmesh }

inductive Event
  | repeater (e : Timeout.Event)
  | mesh (env : Env) (args : Json)

def State.step (max : Nat) (s : State) : Event → State
  | .repeater e => { s with repeater := s.repeater.step max e }
  | .mesh env args => s.commit (setConfig env args s.config).2

def machine (max : Nat) : Machine State Event := ⟨State.step max⟩

def switchesOn (args : Json) : Prop := (arg args "enabled").bind Json.asBool ≠ some false

/-- While the mesh is on, the user does not connect the repeater or move its station. The mesh is
switched on when no call is being served, the daemon sleeps and has no retry to make, and the radios
report a station if there is one. -/
def KeepsApart (s : State) : Event → Prop
  | .repeater (.call c) => isEnabled s.config = true → c.selects = false
  | .repeater .act => ∀ args, s.repeater.acts.head? = some (.setBand args) →
      isEnabled s.config = true → ¬Moves args s.repeater.world.config
  | .repeater (.daemon _) | .repeater (.clock _) => True
  | .mesh env args => switchesOn args → s.repeater.acts = [] ∧ s.repeater.daemon.pc = .top ∧
      s.repeater.world.files.retryAt = none ∧
      ∀ n, StationOn s.repeater.world.config.wireless n → reportsStation env.status = true

structure Still (s : Timeout.State) : Prop where
  off : AllOff s.world.config.wireless
  quiet : Quiet s.world s.daemon
  acts : ∀ a ∈ s.acts, a.joins = false

/-! ## The repeater -/

section
variable {s : Timeout.State} {max : Nat}

theorem config_of_quiet {w : World} {d : Daemon} (h : Quiet w d) :
    (d.step max e w).1.config = w.config := by
  unfold Daemon.step
  obtain hpc | hpc | ⟨hpc | hpc, -⟩ := h.pc
  · rw [hpc]
    dsimp only
    split
    all_goals rfl
  · rw [hpc]
    rfl
  · rw [hpc]
  · rw [hpc]
    dsimp only
    split
    all_goals rfl

/-- The stations stay off when the uplink is disabled, and a pass that is under way finds them so. -/
theorem disableUplink_quiet {w : World} (hoff : AllOff w.config.wireless)
    (h : Quiet w d) : AllOff (disableUplink w.config).wireless ∧
      Quiet { w with config := disableUplink w.config } d := by
  unfold disableUplink
  split
  · exact ⟨hoff, h⟩
  · next n hn =>
    have hsome : (w.config.wireless.typeOf n).isSome = true := by
      rw [typeOf_of_repeaterIface hn]
      rfl
    have hnew := hoff.setDisabled hsome
    refine ⟨hnew, h.retryAt, hnew.stationOff, ?_⟩
    obtain hpc | hpc | ⟨hpc, hdisabled⟩ := h.pc
    · exact .inl hpc
    · exact .inr (.inl hpc)
    · exact .inr (.inr ⟨hpc, isOn_setDisabled_true hsome hdisabled⟩)

theorem startCall_still {c : Timeout.Call} (h : Still s) (hc : c.selects = false) :
    Still (s.startCall c) := by
  unfold State.startCall
  split
  · exact h
  · refine ⟨h.off, h.quiet, ?_⟩
    cases c with
    | disconnect => simp [Timeout.Call.acts, Act.joins]
    | setBand args => simp [Timeout.Call.acts, Act.joins]
    | _ => cases hc

theorem act_still (h : Still s) (hmoves : ∀ args, s.acts.head? = some (.setBand args) →
    ¬Moves args s.world.config) : Still s.act := by
  obtain ⟨hoff, hquiet, hjoins⟩ := h
  unfold State.act
  split
  · exact ⟨hoff, hquiet, hjoins⟩
  · next a acts hacts =>
    have hrest : ∀ b ∈ acts, b.joins = false := fun b hb =>
      hjoins b (hacts ▸ List.mem_cons_of_mem _ hb)
    have hself := hjoins a (hacts ▸ List.mem_cons_self)
    cases a with
    | clear => exact ⟨hoff, ⟨rfl, hquiet.off, hquiet.pc⟩, hrest⟩
    | disable =>
      obtain ⟨hoff', hquiet'⟩ := disableUplink_quiet hoff hquiet
      exact ⟨hoff', hquiet', hrest⟩
    | enable => cases hself
    | apply env args => cases hself
    | setBand args =>
      have hwireless : (Repeater.setBand args s.world.config).2.wireless = s.world.config.wireless :=
        setBand_of_not_moves (hmoves args (by rw [hacts]; rfl))
      refine ⟨?_, hquiet.congr rfl hwireless, hrest⟩
      change AllOff (Repeater.setBand args s.world.config).2.wireless
      rw [hwireless]
      exact hoff

theorem runDaemon_still (h : Still s) : Still (s.runDaemon max e) := by
  refine ⟨?_, h.quiet.step, h.acts⟩
  change AllOff (s.daemon.step max e s.world).1.config.wireless
  rw [config_of_quiet h.quiet]
  exact h.off

end

/-! ## The mesh -/

section
variable {env : Env} {args : Json} {c : Config}

theorem setConfig_cases (env : Env) (args : Json) (c : Config) : (setConfig env args c).2 = c ∨
    (setConfig env args c).2 = setEnabled c false ∨
    switchesOn args ∧ repeaterActive env c = false ∧ ∃ mode aps main ssid,
      (setConfig env args c).2 = configureMesh env c mode aps main ssid := by
  unfold setConfig
  dsimp only
  split
  · exact .inl rfl
  split
  · exact .inl rfl
  split
  · exact .inr (.inl rfl)
  next hon =>
  split
  · exact .inl rfl
  split
  · exact .inl rfl
  next hactive =>
  split
  · exact .inl rfl
  · exact .inr (.inr ⟨hon, Bool.eq_false_iff.2 hactive, _, _, _, _, rfl⟩)

theorem typeOf_ensureSection : ((ensureSection p n type).typeOf n).isSome = true := by
  unfold ensureSection
  split
  · rw [Package.typeOf_setType_self]
    rfl
  · next h =>
    rw [Option.isSome_iff_ne_none]
    exact fun hnone => h (hnone ▸ rfl)

theorem isEnabled_setEnabled_false : isEnabled (setEnabled c false) = false := by
  unfold isEnabled setEnabled
  rw [Package.get_set_self typeOf_ensureSection, Package.get_set_self typeOf_ensureSection]
  rfl

theorem backhaulOptions_names (ho : o ∈ (backhaulOptions main ssid).map Prod.fst) :
    o ∈ ["multi_ap", "multi_ap_backhaul_ssid", "multi_ap_backhaul_key"] := by
  unfold backhaulOptions at ho
  split at ho
  · exact ho
  · exact List.mem_of_mem_head? (List.mem_singleton.1 ho ▸ rfl)

theorem AllOff.addAp (h : AllOff c.wireless) : AllOff (addAp main ssid c ap).wireless := by
  have hkept : ∀ o : String, o ∉ ["multi_ap", "multi_ap_backhaul_ssid", "multi_ap_backhaul_key"] →
      ∀ n, (Mesh.addAp main ssid c ap).wireless.get n o.toList = c.wireless.get n o.toList :=
    fun o ho n => Package.get_setAll_of_not_mem
      (Section.toList_ne_of_not_mem fun hmem => ho (backhaulOptions_names hmem))
  exact h.congr (funext fun n => Package.typeOf_setAll) (hkept "mode" (by decide))
    (hkept "disabled" (by decide))

theorem AllOff.configureMesh (h : AllOff c.wireless) :
    AllOff (configureMesh env c mode aps main ssid).wireless := by
  have hfold : ∀ (aps : List Ap) (c : Config), AllOff c.wireless →
      AllOff (aps.foldl (Mesh.addAp main ssid) c).wireless := by
    intro aps
    induction aps with
    | nil => exact fun _ h => h
    | cons ap aps ih => exact fun c h => ih _ h.addAp
  exact hfold aps _ h

end

/-! ## Runs -/

section
variable {s : State} {max : Nat}

theorem mesh_still (hapart : KeepsApart s (.mesh env args)) (hon : switchesOn args)
    (hactive : repeaterActive env s.config = false) :
    Still (s.commit (configureMesh env s.config mode aps main ssid)).repeater := by
  obtain ⟨hacts, hpc, hretry, hreports⟩ := hapart hon
  have hoff : AllOff s.repeater.world.config.wireless := fun n hn => by
    have hreport := hreports n hn
    rw [repeaterActive, hreport, Bool.or_true] at hactive
    cases hactive
  have hnew : AllOff (configureMesh env s.config mode aps main ssid).wireless :=
    AllOff.configureMesh hoff
  refine ⟨hnew, ⟨hretry, hnew.stationOff, .inl hpc⟩, fun a ha => ?_⟩
  have ha : a ∈ s.repeater.acts := ha
  rw [hacts] at ha
  cases ha

theorem step_still (h : isEnabled s.config = true → Still s.repeater)
    (hapart : KeepsApart s e) (hon : isEnabled ((machine max).step s e).config = true) :
    Still ((machine max).step s e).repeater := by
  cases e with
  | repeater e =>
    -- the calls of the repeater do not touch the packages of the mesh
    have hstill : Still s.repeater := h hon
    cases e with
    | call c => exact startCall_still hstill (hapart hon)
    | act => exact act_still hstill fun args hargs => hapart args hargs hon
    | daemon e => exact runDaemon_still hstill
    | clock now => exact ⟨hstill.off, hstill.quiet.congr rfl rfl, hstill.acts⟩
  | mesh env args =>
    have hstep : (machine max).step s (.mesh env args) = s.commit (setConfig env args s.config).2 := rfl
    rw [hstep] at hon ⊢
    obtain heq | heq | ⟨hswitch, hactive, mode, aps, main, ssid, heq⟩ :=
      setConfig_cases env args s.config
    · rw [heq] at hon ⊢
      exact h hon
    · rw [heq] at hon
      have hoff : isEnabled (setEnabled s.config false) = true := hon
      rw [isEnabled_setEnabled_false] at hoff
      cases hoff
    · rw [heq]
      exact mesh_still hapart hswitch hactive

/-- If the two are kept apart, the mesh is never on while a station is enabled. -/
theorem mesh_excludes_repeater {es : List Event} (hs : isEnabled s.config = false)
    (hes : (machine max).Admits KeepsApart s es) :
    ¬(isEnabled ((machine max).run s es).config = true ∧
      ∃ n, StationOn ((machine max).run s es).repeater.world.config.wireless n) := by
  have hstill := Machine.invariant (I := fun s => isEnabled s.config = true → Still s.repeater)
    (fun _ _ hapart h => step_still h hapart) hes fun hon => by
      rw [hs] at hon
      cases hon
  rintro ⟨hon, n, hn⟩
  exact (hstill hon).off n hn

end

def homeEnv : Env where
  status := [{
    name := "radio0"
    band := some "2g"
    disabled := false
    interfaces := [{
      name := "default_radio0"
      ifname := "phy0-ap0"
      mode := "ap"
      network := ["lan"]
      ssid := some "home"
      key := some "12345678"
      encryption := some "sae-mixed"
      disabled := false }] }]
  lanDevice := "br-lan"

def apart : State where
  repeater := { waiting with world := { waiting.world with files := ⟨none, true, some 6, none, none⟩ } }
  mesh := Package.empty
  prplmesh := Package.empty

def switch (on : Bool) : Event := .mesh homeEnv (.obj [("enabled", .bool on)])

/-- The mesh is on for a while, and the repeater is connected after that. -/
theorem mesh_excludes_repeater_alternating :
    let es := [switch true, .repeater (.daemon down), .repeater (.daemon down),
      .repeater (.daemon down), switch false, .repeater (.call .connect), .repeater .act,
      .repeater .act]
    isEnabled ((machine 6).run apart [switch true]).config = true ∧
      (machine 6).Admits KeepsApart apart es ∧
      StationOn ((machine 6).run apart es).repeater.world.config.wireless "sta0" ∧
      ¬(isEnabled ((machine 6).run apart es).config = true ∧
        ∃ n, StationOn ((machine 6).run apart es).repeater.world.config.wireless n) := by
  have hadmits : (machine 6).Admits KeepsApart apart [switch true, .repeater (.daemon down),
      .repeater (.daemon down), .repeater (.daemon down), switch false, .repeater (.call .connect),
      .repeater .act, .repeater .act] := by
    refine ⟨fun _ => ⟨rfl, rfl, rfl, ?_⟩, trivial, trivial, trivial, ?_, ?_, ?_, ?_, trivial⟩
    · intro n hn
      obtain ⟨e, he⟩ := Package.typeOf_eq_some_iff.1 hn.1
      have hoff : ∀ e ∈ apart.repeater.world.config.wireless.ofType "wifi-iface",
          ¬StationOn apart.repeater.world.config.wireless e.1 := by decide
      exact absurd hn (hoff (n, e) he)
    · exact fun hon => absurd rfl hon
    · exact fun hon => absurd hon (by decide)
    · exact fun _ heq => nomatch heq
    · exact fun _ heq => nomatch heq
  exact ⟨by decide, hadmits, by decide, mesh_excludes_repeater (by decide) hadmits⟩

/-- The repeater is connected while the mesh is on. -/
theorem connected_during_mesh :
    let s := (machine 6).run apart [switch true, .repeater (.call .connect), .repeater .act,
      .repeater .act]
    isEnabled apart.config = false ∧ isEnabled s.config = true ∧
      StationOn s.repeater.world.config.wireless "sta0" := by
  decide

end GlXe3000.Mesh
