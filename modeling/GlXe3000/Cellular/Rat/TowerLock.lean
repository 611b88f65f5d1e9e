import GlXe3000.Cellular.Rat.Rpc

/-! # What a refused tower lock leaves behind

`set_cell_tower` prepares the modem before it asks for the lock, and it does not look at the replies to
that. Where the lock itself is refused, the preparation stays. -/

namespace GlXe3000.Cellular.Rat
open Text

/-- A call among the instants `air`. -/
def World.call {α : Type} (w : World) (air : Nat → Air) (m : Script α) : α × Nat × World :=
  m.exec (fun i => World.answer (air i)) 0 w

/-! ## Commands for different settings -/

def Setting.key : Setting → Fin 4
  | .modePref _ => 0
  | .nr5gDisableMode _ => 1
  | .lock4g _ => 2
  | .lock5g _ => 3

def Modem.offer (m : Modem) (e : Air) (c : Setting) : Modem := if e.done then m.set c else m

def Modem.offered (m : Modem) (air : Nat → Air) (l : List (Nat × Setting)) : Modem :=
  l.foldl (fun m e => m.offer (air e.1) e.2) m

theorem Modem.set_set_self (m : Modem) (c : Setting) : (m.set c).set c = m.set c := by
  cases c <;> rfl

theorem Modem.set_comm (m : Modem) {c d : Setting} (h : c.key ≠ d.key) :
    (m.set c).set d = (m.set d).set c := by
  cases c <;> cases d <;> first | rfl | exact absurd rfl h

section
variable {m : Modem} {air : Nat → Air} {c : Setting}

theorem Modem.offer_keeps {d : Setting} (h : d.key ≠ c.key) (hm : m.set c = m) :
    (m.offer e d).set c = m.offer e d := by
  unfold Modem.offer
  split
  · rw [Modem.set_comm m h, hm]
  · exact hm

theorem Modem.offered_keeps (h : ∀ e ∈ l, e.2.key ≠ c.key)
    (hm : m.set c = m) : (m.offered air l).set c = m.offered air l := by
  induction l generalizing m with
  | nil => exact hm
  | cons e l ih =>
    obtain ⟨he, hl⟩ := List.forall_mem_cons.mp h
    exact ih hl (Modem.offer_keeps he hm)

theorem Modem.offered_set {l : List (Nat × Setting)} (hl : (l.map (·.2.key)).Nodup)
    {e : Nat × Setting} (he : e ∈ l) (hdone : (air e.1).done = true) :
    (m.offered air l).set e.2 = m.offered air l := by
  induction l generalizing m with
  | nil => exact absurd he List.not_mem_nil
  | cons e' l ih =>
    obtain ⟨hnew, hl⟩ := List.nodup_cons.mp hl
    rcases List.mem_cons.mp he with rfl | he
    · have hset : (m.offer (air e.1) e.2).set e.2 = m.offer (air e.1) e.2 := by
        unfold Modem.offer
        rw [if_pos hdone, Modem.set_set_self]
      show ((m.offer (air e.1) e.2).offered air l).set e.2 = (m.offer (air e.1) e.2).offered air l
      exact Modem.offered_keeps (fun d hd hkey => hnew (List.mem_map.mpr ⟨d, hd, hkey⟩)) hset
    · exact ih hl he

theorem Modem.offered_eq_self {l : List (Nat × Setting)} (hl : (l.map (·.2.key)).Nodup) :
    m.offered air l = m ↔ ∀ e ∈ l, (air e.1).done = true → m.set e.2 = m := by
  constructor
  · intro h e he hdone
    have hset := Modem.offered_set (m := m) hl he hdone
    rwa [h] at hset
  · intro h
    induction l with
    | nil => rfl
    | cons e l ih =>
      obtain ⟨he, h⟩ := List.forall_mem_cons.mp h
      have hoffer : m.offer (air e.1) e.2 = m := by
        unfold Modem.offer
        split
        · rename_i hdone
          exact he hdone
        · rfl
      show (m.offer (air e.1) e.2).offered air l = m
      rw [hoffer]
      exact ih (List.nodup_cons.mp hl).2 h

end

/-! ## The calls -/

def World.withModem (w : World) (m : Modem) : World := { w with modem := m }

section
variable {a : Tower} {air : Nat → Air} {w : World} {i pci freq scs band : Nat}

theorem exec_set :
    (set c).exec (fun i => World.answer (air i)) i w =
      ((air i).done && (air i).heard, i + 1, w.withModem (w.modem.offer (air i) c)) := rfl

def Air.ok (e : Air) : Bool := e.done && e.heard

theorem exec_unlockTower_rejected (h : ((air i).ok || (air (i + 1)).ok) = false) :
    unlockTower.exec (fun i => World.answer (air i)) i w =
      (some "modem rejected tower unlock".toList, i + 2, w.withModem
        (w.modem.offered air [(i, .lock4g none), (i + 1, .lock5g none)])) := by
  unfold Air.ok at h
  simp only [unlockTower, Proc.exec_bind, exec_set, h]
  rfl

theorem exec_unlockTower_accepted (h : ((air i).ok || (air (i + 1)).ok) = true) :
    unlockTower.exec (fun i => World.answer (air i)) i w =
      (none, i + 6, { w with
        modem := w.modem.offered air [(i, .lock4g none), (i + 1, .lock5g none),
          (i + 4, .nr5gDisableMode 0), (i + 5, .modePref (unlockPref w.modes))]
        tower := none }) := by
  unfold Air.ok at h
  simp only [unlockTower, Proc.exec_bind, exec_set, h]
  rfl

/-- What an LTE lock says to the modem from the instant `i` on. -/
def lteCommands (i pci freq : Nat) : List (Nat × Setting) :=
  [(i, .modePref "LTE:NR5G"), (i + 1, .nr5gDisableMode 1),
    (i + 2, .lock4g (some (freq, pci)))]

theorem exec_lockLte_rejected (h : (air (i + 2)).ok = false) :
    (lockLte a pci freq).exec (fun i => World.answer (air i)) i w =
      (some "modem rejected tower lock".toList, i + 3,
        w.withModem (w.modem.offered air (lteCommands i pci freq))) := by
  unfold Air.ok at h
  simp only [lockLte, Proc.exec_bind, exec_set, h]
  rfl

theorem exec_lockLte_accepted (h : (air (i + 2)).ok = true) :
    ∃ tower, (lockLte a pci freq).exec (fun i => World.answer (air i)) i w =
      (none, i + 5, { w with
        modem := w.modem.offered air (lteCommands i pci freq)
        tower := some tower }) := by
  unfold Air.ok at h
  simp only [lockLte, Proc.exec_bind, exec_set, h]
  exact ⟨_, rfl⟩

/-- What a 5G lock says to the modem from the instant `i` on. -/
def nr5gCommands (i pci freq scs band : Nat) : List (Nat × Setting) :=
  [(i, .nr5gDisableMode 0), (i + 1, .modePref "NR5G:LTE"),
    (i + 2, .lock5g (some (pci, freq, scs, band)))]

theorem exec_lockNr5g_rejected (h : (air (i + 2)).ok = false) :
    (lockNr5g a pci freq scs band).exec (fun i => World.answer (air i)) i w =
      (some "modem rejected tower lock".toList, i + 3,
        w.withModem (w.modem.offered air (nr5gCommands i pci freq scs band))) := by
  unfold Air.ok at h
  simp only [lockNr5g, Proc.exec_bind, exec_set, h]
  rfl

theorem exec_lockNr5g_accepted (h : (air (i + 2)).ok = true) :
    ∃ tower, (lockNr5g a pci freq scs band).exec (fun i => World.answer (air i)) i w =
      (none, i + 5, { w with
        modem := w.modem.offered air (nr5gCommands i pci freq scs band)
        tower := some tower }) := by
  unfold Air.ok at h
  simp only [lockNr5g, Proc.exec_bind, exec_set, h]
  exact ⟨_, rfl⟩

end

inductive Wish
  | unlock
  | lte (pci freq : Nat)
  | nr5g (pci freq scs band : Nat)
  deriving DecidableEq

def operatorFree (operatorMode : Text) : Bool :=
  isNumber (orDefault operatorMode ['0']) && toNumber (orDefault operatorMode ['0']) = 0

def Tower.lockWish (a : Tower) (operatorMode : Text) : Option Wish :=
  if operatorFree operatorMode then
    match validUint a.pci 1007, validUint a.freq 4000000 with
    | some pci, some freq =>
      if upper a.networkType = "LTE" then some (.lte pci freq)
      else if upper a.networkType = "NR5G" then
        match validUint a.scs 4, validBand a.band with
        | some scs, some band => some (.nr5g pci freq scs band)
        | _, _ => none
      else none
    | _, _ => none
  else none

def Tower.wish (a : Tower) (operatorMode : Text) : Option Wish :=
  if a.slot = .int 2 then none
  else if a.lock then a.lockWish operatorMode else some .unlock

/-- The commands after which a call knows whether it has succeeded, each with its instant. -/
def Wish.commands : Wish → List (Nat × Setting)
  | .unlock => [(0, .lock4g none), (1, .lock5g none)]
  | .lte pci freq => lteCommands 1 pci freq
  | .nr5g pci freq scs band => nr5gCommands 1 pci freq scs band

theorem Wish.commands_nodup (x : Wish) : (x.commands.map (·.2.key)).Nodup := by
  cases x with
  | unlock => decide
  | lte pci freq => exact (by decide : [(0 : Fin 4), 1, 2].Nodup)
  | nr5g pci freq scs band => exact (by decide : [(1 : Fin 4), 0, 3].Nodup)

def Wish.accepted (air : Nat → Air) : Wish → Bool
  | .unlock => (air 0).ok || (air 1).ok
  | .lte .. | .nr5g .. => (air 3).ok

section
variable {a : Tower} {air : Nat → Air} {w : World} {x : Wish}

inductive Served (a : Tower) (air : Nat → Air) (w : World) : Option Wish → Prop
  | refused {message : Text} {n : Nat} (h : w.call air (setCellTower a) = (some message, n, w)) :
    Served a air w none
  | unlock (h : w.call air (setCellTower a) =
      unlockTower.exec (fun i => World.answer (air i)) 0 w) : Served a air w (some .unlock)
  | lte {pci freq : Nat} (h : w.call air (setCellTower a) =
      (lockLte a pci freq).exec (fun i => World.answer (air i)) 1 w) :
    Served a air w (some (.lte pci freq))
  | nr5g {pci freq scs band : Nat} (h : w.call air (setCellTower a) =
      (lockNr5g a pci freq scs band).exec (fun i => World.answer (air i)) 1 w) :
    Served a air w (some (.nr5g pci freq scs band))

theorem lockTower_of_operator (h : operatorFree w.operatorMode = false) :
    (lockTower a).exec (fun i => World.answer (air i)) 0 w =
      (some "unlock the mobile operator before locking a tower".toList, 1, w) := by
  unfold operatorFree at h
  simp only [lockTower, Proc.exec_bind, Proc.exec_perform, World.answer]
  erw [h]
  rfl

theorem served_lock (hcall : w.call air (setCellTower a) =
    (lockTower a).exec (fun i => World.answer (air i)) 0 w) :
    Served a air w (a.lockWish w.operatorMode) := by
  unfold Tower.lockWish
  cases hoperator : operatorFree w.operatorMode with
  | false => exact .refused (hcall.trans (lockTower_of_operator hoperator))
  | true =>
    simp only [lockTower, Proc.exec_bind, Proc.exec_perform, World.answer] at hcall
    unfold operatorFree at hoperator
    erw [hoperator] at hcall
    simp only [↓reduceIte] at hcall ⊢
    cases hp : validUint a.pci 1007 <;> cases hf : validUint a.freq 4000000 <;>
      simp only [hp, hf] at hcall ⊢
    · exact .refused hcall
    · exact .refused hcall
    · exact .refused hcall
    by_cases hlte : upper a.networkType = "LTE"
    · rw [if_pos hlte] at hcall ⊢
      exact .lte hcall
    rw [if_neg hlte] at hcall ⊢
    by_cases hnr : upper a.networkType = "NR5G"
    · rw [if_pos hnr] at hcall ⊢
      cases hs : validUint a.scs 4 <;> cases hb : validBand a.band <;>
        simp only [hs, hb] at hcall ⊢
      · exact .refused hcall
      · exact .refused hcall
      · exact .refused hcall
      exact .nr5g hcall
    rw [if_neg hnr] at hcall ⊢
    exact .refused hcall

theorem served (a : Tower) (air : Nat → Air) (w : World) :
    Served a air w (a.wish w.operatorMode) := by
  unfold Tower.wish
  split_ifs with hslot hlock
  · exact .refused (by simp only [World.call, setCellTower, if_pos hslot]; rfl)
  · exact served_lock (by simp only [World.call, setCellTower, if_neg hslot, if_pos hlock])
  · exact .unlock (by simp only [World.call, setCellTower, if_neg hslot, if_neg hlock])

theorem failed_call (h : (w.call air (setCellTower a)).1.isSome) :
    (w.call air (setCellTower a)).2.2 =
      w.withModem (w.modem.offered air (((a.wish w.operatorMode).map Wish.commands).getD [])) := by
  have hserved := served a air w
  generalize a.wish w.operatorMode = wish at hserved
  cases hserved with
  | refused hcall => rw [hcall]; rfl
  | unlock hcall =>
    rw [hcall] at h ⊢
    cases hok : (air 0).ok || (air 1).ok with
    | false => rw [exec_unlockTower_rejected hok]; rfl
    | true => rw [exec_unlockTower_accepted hok] at h; exact nomatch h
  | @lte pci freq hcall =>
    rw [hcall] at h ⊢
    cases hok : (air 3).ok with
    | false => rw [exec_lockLte_rejected hok]; rfl
    | true =>
      obtain ⟨tower, haccepted⟩ := exec_lockLte_accepted (a := a) (w := w) (i := 1) hok
      rw [haccepted] at h
      exact nomatch h
  | @nr5g pci freq scs band hcall =>
    rw [hcall] at h ⊢
    cases hok : (air 3).ok with
    | false => rw [exec_lockNr5g_rejected hok]; rfl
    | true =>
      obtain ⟨tower, haccepted⟩ := exec_lockNr5g_accepted (a := a) (w := w) (i := 1) hok
      rw [haccepted] at h
      exact nomatch h

end

/-- Whatever the modem executes of a call, up to the reply that decides, asks for what it has
already. -/
def AsksForNothing (a : Tower) (air : Nat → Air) (w : World) : Prop :=
  ∀ e ∈ ((a.wish w.operatorMode).map Wish.commands).getD [],
    (air e.1).done = true → w.modem.set e.2 = w.modem

instance (a : Tower) (air : Nat → Air) (w : World) : Decidable (AsksForNothing a air w) := by
  unfold AsksForNothing; infer_instance

/-- A call that returns an error has changed nothing, on the modem or in the configuration, exactly
if what the modem executed of it was in force already. -/
theorem failed_lock_leaves_all (a : Tower) (air : Nat → Air) (w : World)
    (h : (w.call air (setCellTower a)).1.isSome) :
    (w.call air (setCellTower a)).2.2 = w ↔ AsksForNothing a air w := by
  rw [failed_call h]
  have hnodup :
      ((((a.wish w.operatorMode).map Wish.commands).getD []).map (·.2.key)).Nodup := by
    cases a.wish w.operatorMode with
    | none => exact List.nodup_nil
    | some x => exact x.commands_nodup
  refine Iff.trans ⟨fun hw => ?_, fun hm => ?_⟩ (Modem.offered_eq_self hnodup)
  · exact congrArg World.modem hw
  · rw [hm]; rfl

def refusing (i : Nat) : Air := { done := i != 3 }

def lteTower : Tower :=
  { lock := true, networkType := "LTE", pci := .int 7, freq := .int 1300 }

def prepared : World := { modem := ⟨"LTE:NR5G", 1, none, none⟩ }

theorem failed_lock_leaves_prepared :
    (prepared.call refusing (setCellTower lteTower)).1.isSome ∧
      (prepared.call refusing (setCellTower lteTower)).2.2 = prepared :=
  have h : (prepared.call refusing (setCellTower lteTower)).1.isSome := by decide
  ⟨h, (failed_lock_leaves_all lteTower refusing prepared h).mpr (by decide)⟩

/-- A refused LTE lock leaves a modem that was free to use 5G without it. -/
theorem failed_lock_disables_nr5g :
    ∃ w : World, (w.call refusing (setCellTower lteTower)).1 =
        some "modem rejected tower lock".toList ∧
      w.modem = ⟨"AUTO", 0, none, none⟩ ∧
      (w.call refusing (setCellTower lteTower)).2.2.modem = ⟨"LTE:NR5G", 1, none, none⟩ :=
  ⟨{ modem := ⟨"AUTO", 0, none, none⟩ }, by decide, rfl, by decide⟩

end GlXe3000.Cellular.Rat
