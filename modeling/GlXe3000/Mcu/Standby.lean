import GlXe3000.Lib.Lua
import GlXe3000.Lib.Machine

/-! # Standby: `gl-mcu`

The battery controller switches standby on and off. The daemon turns both radios and the modem off in
standby and keeps what they were in its own package, which is committed last. A power cut can come
before any of the three commits. The start of the daemon ends standby. -/

namespace GlXe3000.Mcu
open Text

structure Config where
  wireless : Package
  network : Package
  mcu : Package

/-! ## The three options -/

inductive Target
  | radio0
  | radio1
  | wwan
  deriving DecidableEq

namespace Target

def sec : Target → Text
  | .radio0 => "radio0"
  | .radio1 => "radio1"
  | .wwan => "wwan"

def key : Target → Text
  | .radio0 => "ps_radio0"
  | .radio1 => "ps_radio1"
  | .wwan => "ps_wwan"

end Target

def saved : List Target := [.radio0, .radio1, .wwan]

def disabled : Text := "disabled"

def global : Text := "global"

def powerSaving : Text := "power_saveing"

namespace Config
variable (c : Config)

def package : Target → Package
  | .radio0 | .radio1 => c.wireless
  | .wwan => c.network

def edit (f : Package → Package) : Target → Config
  | .radio0 | .radio1 => { c with wireless := f c.wireless }
  | .wwan => { c with network := f c.network }

def get (t : Target) : Option GlXe3000.Value := (c.package t).get t.sec disabled

/-- The target is switched off: `1`, as the daemon and the web interface write and read it. -/
def isOff (t : Target) : Bool := isOn (c.get t)

def kept (t : Target) : Option GlXe3000.Value := c.mcu.get global t.key

def isActive : Bool := isOn (c.mcu.get global powerSaving)

end Config

/-! ## Switching -/

def save (c : Config) (t : Target) : Config :=
  { c.edit (fun p => p.set t.sec disabled (.text ['1'])) t with
    mcu := c.mcu.set global t.key ((c.get t).getD (.text ['0'])) }

def putBack (off : Bool) (t : Target) (p : Package) : Package :=
  if off then p.set t.sec disabled (.text ['1']) else p.unset t.sec disabled

def restore (c : Config) (t : Target) : Config :=
  { c.edit (putBack (isOn (c.kept t)) t) t with mcu := c.mcu.unset global t.key }

def mark (on : Bool) (c : Config) : Config :=
  { c with mcu := c.mcu.set global powerSaving (flagValue on) }

/-- `power_saving_mode`, as far as the cursor goes. -/
def powerSavingMode (on : Bool) (c : Config) : Config :=
  if on = c.isActive then c
  else mark on (saved.foldl (if on then save else restore) c)

def commit (n : Nat) (old new : Config) : Config where
  wireless := if 1 ≤ n then new.wireless else old.wireless
  network := if 2 ≤ n then new.network else old.network
  mcu := if 3 ≤ n then new.mcu else old.mcu

structure State where
  config : Config
  running : Bool
  before : Target → Bool

inductive Event
  | marker (on : Bool)
  | cut (on : Bool) (commits : Nat)
  | start
  | cutStart (commits : Nat)
  | edit (wireless network : Package)

def State.step (s : State) : Event → State
  | .marker on => if s.running then { s with config := powerSavingMode on s.config } else s
  | .cut on commits =>
    if s.running then
      { s with config := commit commits s.config (powerSavingMode on s.config), running := false }
    else s
  | .start => { s with config := powerSavingMode false s.config, running := true }
  | .cutStart commits =>
    { s with config := commit commits s.config (powerSavingMode false s.config), running := false }
  | .edit wireless network =>
    if s.config.isActive then s
    else
      let config := { s.config with wireless := wireless, network := network }
      { s with config := config, before := config.isOff }

def machine : Machine State Event := ⟨State.step⟩

/-! ## One target -/

theorem isOn_stored (v : GlXe3000.Value) : isOn v.stored = isOn (some v) := by
  cases v with
  | text t =>
    cases t with
    | nil => rfl
    | cons c t => rfl
  | list ts =>
    cases ts with
    | nil => rfl
    | cons t ts => rfl

section
variable {c : Config} {t u : Target} {f : Package → Package}

@[simp] theorem mcu_edit : (c.edit f t).mcu = c.mcu := by cases t <;> rfl

theorem sec_ne (h : t ≠ u) : t.sec ≠ u.sec := by
  revert h
  cases t
  all_goals cases u
  all_goals decide

theorem key_ne (h : t ≠ u) : t.key ≠ u.key := by
  revert h
  cases t
  all_goals cases u
  all_goals decide

theorem key_ne_powerSaving (t : Target) : t.key ≠ powerSaving := by
  cases t
  all_goals decide

theorem package_edit_self : (c.edit f t).package t = f (c.package t) := by
  cases t
  all_goals rfl

theorem get_edit_of_ne (h : t ≠ u)
    (hf : ∀ p n, n ≠ u.sec → (f p).get n disabled = p.get n disabled) :
    (c.edit f u).get t = c.get t := by
  have hsec := sec_ne h
  cases u
  all_goals cases t
  all_goals first | exact hf _ _ hsec | rfl

def IsThere (c : Config) (t : Target) : Prop := ((c.package t).typeOf t.sec).isSome = true

theorem isThere_edit (hf : ∀ p n, (f p).typeOf n = p.typeOf n) :
    IsThere (c.edit f u) t ↔ IsThere c t := by
  unfold IsThere
  cases u
  all_goals cases t
  all_goals first | exact (congrArg (fun o => o.isSome = true) (hf _ _)).to_iff | rfl

theorem isThere_of_isOff (h : c.isOff t = true) : IsThere c t := by
  have hget : c.get t = some (.text ['1']) := of_decide_eq_true h
  unfold IsThere
  rw [Option.isSome_iff_ne_none]
  intro hnone
  have hget' : c.get t = none := Package.get_of_typeOf_eq_none hnone
  rw [hget'] at hget
  cases hget

theorem get_save_of_ne (h : t ≠ u) : (save c u).get t = c.get t :=
  get_edit_of_ne (c := c) h fun _ _ hn => Package.get_set_of_ne (.inl hn)

theorem kept_save_of_ne (h : t ≠ u) : (save c u).kept t = c.kept t :=
  Package.get_set_of_ne (.inr (key_ne h))

theorem isThere_save : IsThere (save c u) t ↔ IsThere c t :=
  isThere_edit (c := c) fun _ _ => Package.typeOf_set

theorem get_restore_of_ne (h : t ≠ u) : (restore c u).get t = c.get t := by
  refine get_edit_of_ne (c := c) h fun p n hn => ?_
  cases isOn (c.kept u) with
  | true => exact Package.get_set_of_ne (.inl hn)
  | false => exact Package.get_unset_of_ne (.inl hn)

theorem kept_restore_of_ne (h : t ≠ u) : (restore c u).kept t = c.kept t :=
  Package.get_unset_of_ne (.inr (key_ne h))

theorem isThere_restore : IsThere (restore c u) t ↔ IsThere c t := by
  refine isThere_edit (c := c) fun p n => ?_
  cases isOn (c.kept u) with
  | true => exact Package.typeOf_set
  | false => exact Package.typeOf_unset

theorem kept_save_self (h : (c.mcu.typeOf global).isSome) :
    isOn ((save c t).kept t) = c.isOff t := by
  have hkept : (save c t).kept t = ((c.get t).getD (.text ['0'])).stored := Package.get_set_self h
  rw [hkept]
  unfold Config.isOff
  cases hget : c.get t with
  | none => rfl
  | some v => exact isOn_stored v

theorem isOff_restore_self (h : isOn (c.kept t) = true → IsThere c t) :
    (restore c t).isOff t = isOn (c.kept t) := by
  have hget : (restore c t).get t = (putBack (isOn (c.kept t)) t (c.package t)).get t.sec disabled :=
    congrArg (fun p : Package => p.get t.sec disabled) (package_edit_self (c := c))
  unfold Config.isOff
  rw [hget]
  cases hkept : isOn (c.kept t) with
  | true => exact congrArg isOn (Package.get_set_self (h hkept))
  | false => exact congrArg isOn Package.get_unset_self

end

/-! ## All targets -/

section
variable {c : Config} {t : Target} {ts : List Target}

theorem foldl_mcu {f : Config → Target → Config}
    (hf : ∀ c u, (f c u).mcu.typeOf n = c.mcu.typeOf n) :
    (ts.foldl f c).mcu.typeOf n = c.mcu.typeOf n := by
  induction ts generalizing c with
  | nil => rfl
  | cons u us ih => exact ih.trans (hf c u)

theorem foldl_isThere {f : Config → Target → Config}
    (hf : ∀ c u, IsThere (f c u) t ↔ IsThere c t) : IsThere (ts.foldl f c) t ↔ IsThere c t := by
  induction ts generalizing c with
  | nil => exact Iff.rfl
  | cons u us ih => exact ih.trans (hf c u)

theorem foldl_of_mem {α : Type} (f : Config → Target → Config) (read out : Config → α)
    (P : Config → Prop) (hP : ∀ c u, P c → P (f c u)) (hread : ∀ c u, t ≠ u → read (f c u) = read c)
    (hout : ∀ c u, t ≠ u → out (f c u) = out c) (hself : ∀ c, P c → out (f c t) = read c)
    (hnodup : ts.Nodup) (hmem : t ∈ ts) (hc : P c) : out (ts.foldl f c) = read c := by
  induction ts generalizing c with
  | nil => cases hmem
  | cons u us ih =>
    obtain ⟨hu, hus⟩ := List.nodup_cons.1 hnodup
    by_cases htu : t = u
    · subst htu
      -- the later turns are other targets'
      have hrest : ∀ (us : List Target) c, t ∉ us → out (us.foldl f c) = out c := by
        intro us
        induction us with
        | nil => exact fun _ _ => rfl
        | cons w ws ihw =>
          intro c hws
          have hw : t ≠ w := fun h => hws (h ▸ List.mem_cons_self)
          exact (ihw (f c w) fun h => hws (List.mem_cons_of_mem w h)).trans (hout c w hw)
      exact (hrest us (f c t) hu).trans (hself c hc)
    · have hus' : t ∈ us := (List.mem_cons.1 hmem).resolve_left htu
      exact (ih hus hus' (hP c u hc)).trans (hread c u htu)

theorem mem_saved (t : Target) : t ∈ saved := by
  cases t
  all_goals decide

theorem saved_nodup : saved.Nodup := by decide

def HasGlobal (c : Config) : Prop := (c.mcu.typeOf global).isSome = true

theorem isOn_kept_foldl_save (hc : HasGlobal c) : isOn ((saved.foldl save c).kept t) = c.isOff t :=
  foldl_of_mem save (fun c => c.isOff t) (fun c => isOn (c.kept t)) HasGlobal
    (fun _ _ h => (congrArg (fun o : Option Text => o.isSome) Package.typeOf_set).trans h)
    (fun _ _ h => congrArg isOn (get_save_of_ne h)) (fun _ _ h => congrArg isOn (kept_save_of_ne h))
    (fun _ h => kept_save_self h) saved_nodup (mem_saved t) hc

theorem isOff_foldl_restore (h : isOn (c.kept t) = true → IsThere c t) :
    (saved.foldl restore c).isOff t = isOn (c.kept t) := by
  by_cases hthere : IsThere c t
  · exact foldl_of_mem restore (fun c => isOn (c.kept t)) (fun c => c.isOff t)
      (fun c => IsThere c t)
      (fun _ _ h => isThere_restore.2 h) (fun _ _ h => congrArg isOn (kept_restore_of_ne h))
      (fun _ _ h => congrArg isOn (get_restore_of_ne h)) (fun _ h => isOff_restore_self fun _ => h)
      saved_nodup (mem_saved t) hthere
  · -- there is no section to write to, and the target was not off
    have hkept : isOn (c.kept t) = false := Bool.eq_false_iff.2 fun hon => hthere (h hon)
    have hthere' : ¬IsThere (saved.foldl restore c) t :=
      fun h => hthere ((foldl_isThere fun _ _ => isThere_restore).1 h)
    rw [hkept]
    exact Bool.eq_false_iff.2 fun hoff => hthere' (isThere_of_isOff hoff)

end

/-! ## One switch -/

section
variable {c : Config} {t : Target} {on : Bool}

theorem powerSavingMode_self : powerSavingMode c.isActive c = c := if_pos rfl

theorem powerSavingMode_of_ne (h : on ≠ c.isActive) :
    powerSavingMode on c = mark on (saved.foldl (if on then save else restore) c) :=
  if_neg h

theorem hasGlobal_mark : HasGlobal (mark on c) ↔ HasGlobal c := by
  unfold HasGlobal mark
  rw [Package.typeOf_set]

theorem isThere_mark : IsThere (mark on c) t ↔ IsThere c t := by
  cases t
  all_goals exact Iff.rfl

theorem isOff_mark : (mark on c).isOff t = c.isOff t := by
  cases t
  all_goals rfl

theorem kept_mark : (mark on c).kept t = c.kept t :=
  Package.get_set_of_ne (.inr (key_ne_powerSaving t))

theorem isActive_mark (hc : HasGlobal c) : (mark on c).isActive = on := by
  unfold Config.isActive mark
  rw [Package.get_set_self hc]
  exact isOn_flagValue on

theorem hasGlobal_foldl_save : HasGlobal (saved.foldl save c) ↔ HasGlobal c := by
  unfold HasGlobal
  rw [foldl_mcu fun _ _ => Package.typeOf_set]

theorem hasGlobal_foldl_restore : HasGlobal (saved.foldl restore c) ↔ HasGlobal c := by
  unfold HasGlobal
  rw [foldl_mcu fun _ _ => Package.typeOf_unset]

theorem hasGlobal_powerSavingMode (on : Bool) (hc : HasGlobal c) :
    HasGlobal (powerSavingMode on c) ∧ (powerSavingMode on c).isActive = on := by
  by_cases hon : on = c.isActive
  · subst hon
    rw [powerSavingMode_self]
    exact ⟨hc, rfl⟩
  · rw [powerSavingMode_of_ne hon, hasGlobal_mark]
    cases on with
    | true =>
      have hfold := hasGlobal_foldl_save.2 hc
      exact ⟨hfold, isActive_mark hfold⟩
    | false =>
      have hfold := hasGlobal_foldl_restore.2 hc
      exact ⟨hfold, isActive_mark hfold⟩

theorem isThere_powerSavingMode : IsThere (powerSavingMode on c) t ↔ IsThere c t := by
  by_cases hon : on = c.isActive
  · subst hon
    rw [powerSavingMode_self]
  · rw [powerSavingMode_of_ne hon, isThere_mark]
    cases on with
    | true => exact foldl_isThere fun _ _ => isThere_save
    | false => exact foldl_isThere fun _ _ => isThere_restore

theorem isOn_kept_powerSavingMode (hc : HasGlobal c) (h : c.isActive = false) :
    isOn ((powerSavingMode true c).kept t) = c.isOff t := by
  rw [powerSavingMode_of_ne (by rw [h]; decide), kept_mark]
  exact isOn_kept_foldl_save hc

theorem isOff_powerSavingMode (h : c.isActive = true) (hkept : isOn (c.kept t) = true → IsThere c t) :
    (powerSavingMode false c).isOff t = isOn (c.kept t) := by
  rw [powerSavingMode_of_ne (by rw [h]; decide), isOff_mark]
  exact isOff_foldl_restore hkept

end

/-! ## A run -/

/-- In standby what is kept is what the user had, and out of it the targets are. -/
structure Inv (c : Config) (before : Target → Bool) : Prop where
  hasGlobal : HasGlobal c
  kept : c.isActive = true → ∀ t, isOn (c.kept t) = before t
  isThere : c.isActive = true → ∀ t, before t = true → IsThere c t
  isOff : c.isActive = false → ∀ t, c.isOff t = before t

def Spares (s : State) : Event → Prop
  | .cut true commits => s.config.isActive = false → commits = 0 ∨ 3 ≤ commits
  | _ => True

section
variable {c : Config} {before : Target → Bool} {on : Bool} {n : Nat}

theorem Inv.powerSavingMode (h : Inv c before) : Inv (powerSavingMode on c) before := by
  obtain ⟨hglobal, hactive⟩ := hasGlobal_powerSavingMode on h.hasGlobal
  by_cases hon : on = c.isActive
  · subst hon
    rw [powerSavingMode_self]
    exact h
  · cases on with
    | true =>
      have hc : c.isActive = false := Bool.eq_false_iff.2 fun hc => hon hc.symm
      refine ⟨hglobal, fun _ t => ?_, fun _ t ht => ?_, fun hoff => ?_⟩
      · exact (isOn_kept_powerSavingMode h.hasGlobal hc).trans (h.isOff hc t)
      · exact isThere_powerSavingMode.2 (isThere_of_isOff ((h.isOff hc t).trans ht))
      · rw [hactive] at hoff
        cases hoff
    | false =>
      have hc : c.isActive = true := by
        cases hc : c.isActive with
        | true => rfl
        | false => exact absurd hc.symm hon
      refine ⟨hglobal, fun hact => ?_, fun hact => ?_, fun _ t => ?_⟩
      · rw [hactive] at hact
        cases hact
      · rw [hactive] at hact
        cases hact
      · have hthere (hkept : isOn (c.kept t) = true) : IsThere c t :=
          h.isThere hc t ((h.kept hc t).symm.trans hkept)
        exact (isOff_powerSavingMode hc hthere).trans (h.kept hc t)

theorem commit_self (c : Config) : commit n c c = c := by
  unfold commit
  rw [ite_self, ite_self, ite_self]

theorem commit_of_three_le (old new : Config) (h : 3 ≤ n) : commit n old new = new := by
  unfold commit
  rw [if_pos (by omega), if_pos (by omega), if_pos h]

theorem isThere_commit (h : IsThere new t ↔ IsThere old t) :
    IsThere (commit n old new) t ↔ IsThere old t := by
  cases t
  all_goals
    unfold IsThere Config.package commit
    dsimp only
    split
    · exact h
    · exact Iff.rfl

theorem Inv.commit_off (h : Inv c before) :
    Inv (commit n c (Mcu.powerSavingMode false c)) before := by
  by_cases hn : 3 ≤ n
  · rw [commit_of_three_le c _ hn]
    exact h.powerSavingMode
  · have hmcu : (commit n c (Mcu.powerSavingMode false c)).mcu = c.mcu := if_neg hn
    have hactive : (commit n c (Mcu.powerSavingMode false c)).isActive = c.isActive := by
      unfold Config.isActive
      rw [hmcu]
    cases hc : c.isActive with
    | true =>
      refine ⟨?_, fun _ t => ?_, fun _ t ht => ?_, fun hoff => ?_⟩
      · unfold HasGlobal
        rw [hmcu]
        exact h.hasGlobal
      · unfold Config.kept
        rw [hmcu]
        exact h.kept hc t
      · exact (isThere_commit isThere_powerSavingMode).2 (h.isThere hc t ht)
      · rw [hactive, hc] at hoff
        cases hoff
    | false =>
      -- there is no standby to end
      have hself : Mcu.powerSavingMode false c = c := hc ▸ powerSavingMode_self
      rw [hself, commit_self]
      exact h

theorem Inv.commit_on (h : Inv c before) (hn : c.isActive = false → n = 0 ∨ 3 ≤ n) :
    Inv (commit n c (Mcu.powerSavingMode true c)) before := by
  cases hc : c.isActive with
  | true =>
    have hself : Mcu.powerSavingMode true c = c := hc ▸ powerSavingMode_self
    rw [hself, commit_self]
    exact h
  | false =>
    obtain hn | hn := hn hc
    · subst hn
      exact h
    · rw [commit_of_three_le c _ hn]
      exact h.powerSavingMode

end

theorem step_inv {s : State} (h : Inv s.config s.before) (he : Spares s e) :
    Inv (s.step e).config (s.step e).before := by
  cases e with
  | marker on =>
    unfold State.step
    dsimp only
    split
    · exact h.powerSavingMode
    · exact h
  | cut on commits =>
    unfold State.step
    dsimp only
    split
    · cases on with
      | true => exact h.commit_on he
      | false => exact h.commit_off
    · exact h
  | start => exact h.powerSavingMode
  | cutStart commits => exact h.commit_off
  | edit wireless network =>
    unfold State.step
    dsimp only
    split
    · exact h
    · rename_i hc
      exact ⟨h.hasGlobal, fun hact => absurd hact hc, fun hact => absurd hact hc, fun _ _ => rfl⟩

/-- In a run in which the power is never cut between the commits that begin standby, each target is
switched off when standby is over if and only if it was when standby began, and a start or an off
marker does end standby. -/
theorem standby_transparent {s : State} {es : List Event} (hs : Inv s.config s.before)
    (hes : machine.Admits Spares s es) :
    ((machine.run s es).config.isActive = false →
      ∀ t, (machine.run s es).config.isOff t = (machine.run s es).before t) ∧
    (powerSavingMode false (machine.run s es).config).isActive = false := by
  have hrun : Inv (machine.run s es).config (machine.run s es).before :=
    Machine.invariant (I := fun s => Inv s.config s.before)
      (fun _ _ hguard h => step_inv h hguard) hes hs
  exact ⟨hrun.isOff, (hasGlobal_powerSavingMode false hrun.hasGlobal).2⟩

def fresh : State where
  config :=
    { wireless := ⟨[("radio0", ⟨"wifi-device", fun _ => none⟩),
        ("radio1", ⟨"wifi-device", fun _ => none⟩)], by decide⟩
      network := Package.set ⟨[("wwan", ⟨"interface", fun _ => none⟩)], by decide⟩
        "wwan" disabled (.text ['1'])
      mcu := ⟨[(global, ⟨global, fun _ => none⟩)], by decide⟩ }
  running := true
  before := fun t => t = .wwan

theorem fresh_inv : Inv fresh.config fresh.before := by
  have hactive : fresh.config.isActive = false := by decide
  refine ⟨by unfold HasGlobal; decide, fun h => ?_, fun h => ?_, fun _ t => ?_⟩
  · exact absurd (hactive.symm.trans h) (by decide)
  · exact absurd (hactive.symm.trans h) (by decide)
  · cases t
    all_goals decide

/-- Standby is switched on twice, the power is cut while it is switched off, and the router starts:
the modem is still off, and the radios are on. -/
theorem standby_transparent_cut :
    let s := machine.run fresh [.marker true, .marker true, .cut false 2, .start]
    s.config.isActive = false ∧ ∀ t, s.config.isOff t = fresh.before t := by
  have hes : machine.Admits Spares fresh [.marker true, .marker true, .cut false 2, .start] :=
    ⟨trivial, trivial, trivial, trivial, trivial⟩
  have hactive :
      (machine.run fresh [.marker true, .marker true, .cut false 2, .start]).config.isActive = false := by
    decide
  exact ⟨hactive, (standby_transparent fresh_inv hes).1 hactive⟩

/-- The power is cut after the first of the commits that begin standby. The start finds no standby to
end, and both radios stay off. -/
theorem radios_stay_off :
    let s := machine.run fresh [.cut true 1, .start]
    s.config.isActive = false ∧ s.config.isOff .radio0 = true ∧ s.config.isOff .radio1 = true ∧
      fresh.before .radio0 = false ∧ fresh.before .radio1 = false := by
  decide

end GlXe3000.Mcu
