import GlXe3000.Lib.Json
import GlXe3000.Cellular.Csv
import GlXe3000.Cellular.Rat.TowerLock

/-! # `modem.get_cell_tower`

The lock that is reported is the modem's, as `AT+QNWLOCK` tells it, with the stored description of the
tower around it. A query is taken to echo the values of the lock, and zeros where there is none. -/

namespace GlXe3000.Cellular.Rat
open Text

structure Numerals extends Lua where
  tonumber_toDigits : ∀ n : Nat, tonumber (Nat.toDigits 10 n) = some (n : Rat)

/-! ## The modem's side -/

/-- The reply to `AT+QNWLOCK="name"`. -/
def qnwlock (name : Text) (values : List Nat) : Text :=
  "+QNWLOCK: ".toList ++ quote :: name ++ quote :: ',' ::
    [','].intercalate (values.map (Nat.toDigits 10)) ++ "\nOK".toList

def Modem.reply4g (m : Modem) : Text :=
  qnwlock "common/4g" <|
    match m.lock4g with
    | some (freq, pci) => [1, freq, pci]
    | none => [0, 0, 0]

def Modem.reply5g (m : Modem) : Text :=
  qnwlock "common/5g" <|
    match m.lock5g with
    | some (pci, freq, scs, band) => [pci, freq, scs, band]
    | none => [0, 0, 0, 0]

/-! ## The method's side -/

abbrev Table := Text → Option Json

def towerOptions : List Text :=
  ["network_type", "carrier", "country", "mcc", "mnc", "cellid", "band", "bandwidth", "scs", "tac",
    "pci", "rsrp", "rsrq", "srxlev", "squal", "freq", "strength"].map String.toList

def towerNumbers : List Text :=
  ["mcc", "mnc", "band", "scs", "pci", "rsrp", "rsrq", "srxlev", "squal", "freq",
    "strength"].map String.toList

def towerSignals : List Text := ["rsrp", "rsrq", "srxlev", "squal"].map String.toList

section
variable (lua : Lua)

def towerValue (name value : Text) : Option Json :=
  if name ∈ towerNumbers then
    (lua.tonumber value).map fun n =>
      .num (if name ∈ towerSignals ∧ 2147483647 < n then n - 4294967296 else n)
  else some (.str value)

def storedTower (tower : Option (List (Text × Text))) : Table := fun name =>
  if name ∈ towerOptions then
    (tower.getD []).lookup name |>.bind (towerValue lua name)
  else none

/-- `tonumber(fields[i])`. -/
def fieldNumber (fields : List Text) (i : Nat) : Option Rat := fields[i - 1]?.bind lua.tonumber

/-- A lock as `modem_lock_state` returns it. -/
structure LockState where
  networkType : Text
  pci : Option Rat
  freq : Option Rat
  scs : Option Rat := none
  band : Option Rat := none
  deriving DecidableEq

def lockState5g (five : List Text) : Option LockState :=
  (fieldNumber lua five 2).bind fun pci =>
    if pci = 0 then none
    else some
      { networkType := "NR5G"
        pci := some pci
        freq := fieldNumber lua five 3
        scs := fieldNumber lua five 4
        band := (digitRun (five[4]?.getD [])).bind lua.tonumber }

def lockState4g (four : List Text) : Option LockState :=
  if fieldNumber lua four 2 = some 1 then
    some { networkType := "LTE", freq := fieldNumber lua four 3, pci := fieldNumber lua four 4 }
  else none

def modemLockState (four five : Text) : Option LockState :=
  ((csvFields five "+QNWLOCK").bind (lockState5g lua)).or
    ((csvFields four "+QNWLOCK").bind (lockState4g lua))

def LockState.table (l : LockState) : Table := fun name =>
  if name = "network_type" then some (.str l.networkType)
  else if name = "pci" then l.pci.map .num
  else if name = "freq" then l.freq.map .num
  else if name = "scs" then l.scs.map .num
  else if name = "band" then l.band.map .num
  else none

/-- The field `slot` (and `slot1`) of what `get_cell_tower` returns. A stored lock that the modem does
not have is not reported. -/
def getCellTower (w : World) : Table :=
  match modemLockState lua w.modem.reply4g w.modem.reply5g with
  | none => fun _ => none
  | some actual => fun name =>
    let tower := (actual.table name).or (storedTower lua w.tower name)
    if name = "cellid" then
      some (Json.orElse tower (.str ((actual.pci.map lua.showNumber).getD "nil")))
    else tower

end

/-! ## Reading the echo -/

theorem replyLines_ok (h : IsLine line) : replyLines (line ++ "\nOK".toList) = [line, "OK"] := by
  rw [show line ++ "\nOK".toList = line ++ '\n' :: "OK" from rfl,
    replyLines_append (.inr rfl), replyLines_line h, replyLines_line (by decide)]
  rfl

def numerals (values : List Nat) : Text := [','].intercalate (values.map (Nat.toDigits 10))

theorem not_mem_numerals (h : isDigit c = false) (hcomma : c ≠ ',') : c ∉ numerals values := by
  intro hmem
  rcases mem_intercalate hmem with hc | ⟨t, ht, hc⟩
  · exact hcomma (List.mem_singleton.mp hc)
  · obtain ⟨n, -, rfl⟩ := List.mem_map.mp ht
    exact not_mem_toDigits h hc

theorem splitCsv_numerals {values : List Nat} (hne : values ≠ []) :
    splitCsv (numerals values) = values.map (Nat.toDigits 10) := by
  refine splitCsv_intercalate (fun h => hne (List.map_eq_nil_iff.mp h)) fun f hf => ?_
  obtain ⟨n, -, rfl⟩ := List.mem_map.mp hf
  exact ⟨not_mem_toDigits (by decide), not_mem_toDigits (by decide)⟩

def Plain (name : Text) : Prop := ∀ c ∈ ['\n', '\r', quote], c ∉ name

instance (name : Text) : Decidable (Plain name) := List.decidableBAll _ _

theorem csvFields_qnwlock {values : List Nat} (hname : Plain name) (hne : values ≠ []) :
    csvFields (qnwlock name values) "+QNWLOCK" =
      some (name :: values.map (Nat.toDigits 10)) := by
  let line := "+QNWLOCK: ".toList ++ quote :: name ++ quote :: ',' :: numerals values
  have hline : ∀ c, isDigit c = false → c ≠ ',' → c ≠ quote → c ∉ "+QNWLOCK: ".toList →
      c ∉ name → c ∉ line := by
    intro c hdigit hcomma hquote htag hc hmem
    simp only [line, List.mem_append, List.mem_cons] at hmem
    have hnum : c ∉ numerals values := not_mem_numerals hdigit hcomma
    grind
  have hlines : replyLines (qnwlock name values) = [line, "OK"] := by
    refine replyLines_ok ⟨by simp, fun c hc hend => ?_⟩
    rcases hend with rfl | rfl
    · exact hline _ (by decide) (by decide) (by decide) (by decide) (hname _ (by simp)) hc
    · exact hline _ (by decide) (by decide) (by decide) (by decide) (hname _ (by simp)) hc
  have hpayload : payload "+QNWLOCK" line =
      some (quote :: name ++ quote :: ',' :: numerals values) := rfl
  unfold csvFields
  rw [hlines, List.findSome?_cons, hpayload]
  refine congrArg some ((splitCsv_quoted (hname _ (by simp))).trans ?_)
  rw [splitCsv_numerals hne]

section
variable {lua : Numerals} {m : Modem}

theorem digitRun_toDigits (n : Nat) : digitRun (Nat.toDigits 10 n) = some (Nat.toDigits 10 n) := by
  have hall : ∀ c ∈ Nat.toDigits 10 n, isDigit c = true := fun _ => isDigit_of_mem_toDigits
  have hdrop : (Nat.toDigits 10 n).dropWhile (fun c => !isDigit c) = Nat.toDigits 10 n := by
    cases hd : Nat.toDigits 10 n with
    | nil => rfl
    | cons c t =>
      rw [hd] at hall
      rw [List.dropWhile_cons_of_neg (by simp [hall c List.mem_cons_self])]
  unfold digitRun
  rw [hdrop, if_neg (by simp [Nat.toDigits_ne_nil]), List.takeWhile_eq_self_iff.mpr hall]

theorem lockState5g_echo (name : Text) (pci freq scs band : Nat) :
    lockState5g lua.toLua (name :: [pci, freq, scs, band].map (Nat.toDigits 10)) =
      if pci = 0 then none
      else some ⟨"NR5G", some pci, some freq, some scs, some band⟩ := by
  simp only [lockState5g, fieldNumber, List.map_cons, List.map_nil, List.getElem?_cons_succ,
    List.getElem?_cons_zero, Option.bind_some, Option.getD_some, digitRun_toDigits,
    lua.tonumber_toDigits, Nat.cast_eq_zero]

theorem lockState4g_echo (name : Text) (n freq pci : Nat) :
    lockState4g lua.toLua (name :: [n, freq, pci].map (Nat.toDigits 10)) =
      if n = 1 then some ⟨"LTE", some pci, some freq, none, none⟩ else none := by
  simp only [lockState4g, fieldNumber, List.map_cons, List.map_nil, List.getElem?_cons_succ,
    List.getElem?_cons_zero, Option.bind_some, lua.tonumber_toDigits, Option.some.injEq,
    Nat.cast_eq_one]

def Modem.read5g (m : Modem) : Option LockState :=
  m.lock5g.bind fun (pci, freq, scs, band) =>
    if pci = 0 then none
    else some ⟨"NR5G", some pci, some freq, some scs, some band⟩

def Modem.read4g (m : Modem) : Option LockState :=
  m.lock4g.map fun (freq, pci) => ⟨"LTE", some pci, some freq, none, none⟩

def Modem.lockRead (m : Modem) : Option LockState := m.read5g.or m.read4g

theorem Modem.read5g_eq_none : m.read5g = none ↔ ∀ l ∈ m.lock5g, l.1 = 0 := by
  unfold Modem.read5g
  cases m.lock5g with
  | none => simp
  | some l => simp

theorem modemLockState_echo : modemLockState lua.toLua m.reply4g m.reply5g = m.lockRead := by
  unfold modemLockState Modem.reply4g Modem.reply5g Modem.lockRead Modem.read5g Modem.read4g
  rw [csvFields_qnwlock (by decide) (by cases m.lock5g <;> simp),
    csvFields_qnwlock (by decide) (by cases m.lock4g <;> simp)]
  refine congrArg₂ Option.or ?_ ?_
  · cases m.lock5g with
    | none => exact (lockState5g_echo _ 0 0 0 0).trans (if_pos rfl)
    | some l => exact lockState5g_echo _ _ _ _ _
  · cases m.lock4g with
    | none => exact (lockState4g_echo _ 0 0 0).trans (if_neg (by decide))
    | some l => exact (lockState4g_echo _ 1 _ _).trans (if_pos rfl)

end

/-! ## The round trip -/

/-- What `get_cell_tower` should say once a call has gone through. -/
def Wish.Reported (report : Table) : Wish → Prop
  | .unlock => ∀ name, report name = none
  | .lte pci freq =>
    report "network_type" = some (.str "LTE") ∧
      report "pci" = some (.num pci) ∧ report "freq" = some (.num freq)
  | .nr5g pci freq scs band =>
    report "network_type" = some (.str "NR5G") ∧
      report "pci" = some (.num pci) ∧ report "freq" = some (.num freq) ∧
      report "scs" = some (.num scs) ∧ report "band" = some (.num band)

def Wish.read : Wish → Option LockState
  | .unlock => none
  | .lte pci freq => some ⟨"LTE", some pci, some freq, none, none⟩
  | .nr5g pci freq scs band => some ⟨"NR5G", some pci, some freq, some scs, some band⟩

section
variable {lua : Numerals} {a : Tower} {air : Nat → Air} {w : World}

theorem getCellTower_of_read {l : LockState} (h : w.modem.lockRead = some l) {name : Text}
    (hname : name ≠ "cellid") :
    getCellTower lua.toLua w name = (l.table name).or (storedTower lua.toLua w.tower name) := by
  unfold getCellTower
  rw [modemLockState_echo, h]
  exact if_neg hname

theorem getCellTower_of_none (h : w.modem.lockRead = none) (name : Text) :
    getCellTower lua.toLua w name = none := by
  unfold getCellTower
  rw [modemLockState_echo, h]

theorem lockRead_eq_some {m : Modem} (h : m.lockRead = some l) : ∃ x : Wish, x.read = some l := by
  rcases Option.or_eq_some_iff.mp h with h | ⟨-, h⟩
  · obtain ⟨⟨pci, freq, scs, band⟩, -, h⟩ := Option.bind_eq_some_iff.mp h
    dsimp only at h
    split_ifs at h
    exact ⟨.nr5g pci freq scs band, h⟩
  · obtain ⟨⟨freq, pci⟩, -, h⟩ := Option.map_eq_some_iff.mp h
    exact ⟨.lte pci freq, congrArg some h⟩

theorem reported_of_read {x : Wish} (h : w.modem.lockRead = x.read) :
    x.Reported (getCellTower lua.toLua w) := by
  cases x with
  | unlock => exact getCellTower_of_none h
  | lte pci freq =>
    refine ⟨?_, ?_, ?_⟩
    all_goals exact getCellTower_of_read h (by decide)
  | nr5g pci freq scs band =>
    refine ⟨?_, ?_, ?_, ?_, ?_⟩
    all_goals exact getCellTower_of_read h (by decide)

theorem reported_unique {x y : Wish} (hx : x.Reported report) (hy : y.Reported report) : x = y := by
  cases x with
  | unlock =>
    cases y with
    | unlock => rfl
    | _ => exact nomatch (hx _).symm.trans hy.1
  | lte pci freq =>
    cases y with
    | unlock => exact nomatch (hy _).symm.trans hx.1
    | nr5g => exact nomatch hx.1.symm.trans hy.1
    | lte pci' freq' =>
      obtain ⟨-, hpci, hfreq⟩ := hx
      obtain ⟨-, hpci', hfreq'⟩ := hy
      simp_all
  | nr5g pci freq scs band =>
    cases y with
    | unlock => exact nomatch (hy _).symm.trans hx.1
    | lte => exact nomatch hx.1.symm.trans hy.1
    | nr5g pci' freq' scs' band' =>
      obtain ⟨-, hpci, hfreq, hscs, hband⟩ := hx
      obtain ⟨-, hpci', hfreq', hscs', hband'⟩ := hy
      simp_all

theorem reported_iff (x : Wish) :
    x.Reported (getCellTower lua.toLua w) ↔ w.modem.lockRead = x.read := by
  refine ⟨fun h => ?_, reported_of_read⟩
  cases hread : w.modem.lockRead with
  | none =>
    have hunlock : Wish.unlock.Reported (getCellTower lua.toLua w) := getCellTower_of_none hread
    rw [reported_unique h hunlock]
    rfl
  | some l =>
    obtain ⟨y, hy⟩ := lockRead_eq_some hread
    rw [reported_unique h (reported_of_read (hread.trans hy.symm)), hy]

theorem lockRead_lte {m : Modem} (h : m.lock4g = some (freq, pci)) :
    m.lockRead = (Wish.lte pci freq).read ↔ ∀ l ∈ m.lock5g, l.1 = 0 := by
  rw [← Modem.read5g_eq_none]
  have h4 : m.read4g = (Wish.lte pci freq).read := by
    unfold Modem.read4g
    rw [h]
    rfl
  unfold Modem.lockRead
  cases h5 : m.read5g with
  | none => exact ⟨fun _ => rfl, fun _ => h4⟩
  | some l =>
    refine ⟨fun hl => ?_, nofun⟩
    obtain ⟨⟨pci', freq', scs, band⟩, -, h5⟩ := Option.bind_eq_some_iff.mp h5
    dsimp only at h5
    split_ifs at h5
    exact nomatch h5.trans hl

theorem lockRead_nr5g {m : Modem} (h : m.lock5g = some (pci, freq, scs, band)) :
    m.lockRead = (Wish.nr5g pci freq scs band).read ↔ pci ≠ 0 := by
  unfold Modem.lockRead Modem.read5g
  rw [h]
  by_cases hpci : pci = 0
  · refine ⟨fun hread => ?_, fun hne => absurd hpci hne⟩
    simp only [Option.bind_some, if_pos hpci] at hread
    obtain ⟨l, -, hl⟩ := Option.map_eq_some_iff.mp hread
    exact nomatch hl
  · simp only [Option.bind_some, if_neg hpci]
    exact ⟨fun _ => hpci, fun _ => rfl⟩

theorem lockRead_unlock {m : Modem} :
    m.lockRead = Wish.unlock.read ↔ m.lock4g = none ∧ ∀ l ∈ m.lock5g, l.1 = 0 := by
  rw [← Modem.read5g_eq_none]
  unfold Modem.lockRead Modem.read4g Wish.read
  rw [Option.or_eq_none_iff, Option.map_eq_none_iff, and_comm]

/-- The condition for a round trip, before the call: no 5G lock, or one on the PCI 0, when an LTE lock
is asked for; another PCI than 0 for a 5G lock; and for an unlock that each of the two locks that
can be read goes, or is not there. -/
def Wish.Readable (air : Nat → Air) (m : Modem) : Wish → Prop
  | .unlock =>
    ((air 0).done = true ∨ m.lock4g = none) ∧ ((air 1).done = true ∨ ∀ l ∈ m.lock5g, l.1 = 0)
  | .lte .. => ∀ l ∈ m.lock5g, l.1 = 0
  | .nr5g pci .. => pci ≠ 0

instance (air : Nat → Air) (m : Modem) : (x : Wish) → Decidable (x.Readable air m)
  | .unlock => inferInstanceAs (Decidable (_ ∧ _))
  | .lte .. => inferInstanceAs (Decidable (∀ l ∈ m.lock5g, l.1 = 0))
  | .nr5g .. => inferInstanceAs (Decidable (_ ≠ 0))

theorem offered_lock4g {m : Modem} (h : ∀ e ∈ l, e.2.key ≠ 2) :
    (m.offered air l).lock4g = m.lock4g := by
  have hkeep : (m.offered air l).set (.lock4g m.lock4g) = m.offered air l :=
    Modem.offered_keeps h rfl
  exact (congrArg Modem.lock4g hkeep).symm

theorem offered_lock5g {m : Modem} (h : ∀ e ∈ l, e.2.key ≠ 3) :
    (m.offered air l).lock5g = m.lock5g := by
  have hkeep : (m.offered air l).set (.lock5g m.lock5g) = m.offered air l :=
    Modem.offered_keeps h rfl
  exact (congrArg Modem.lock5g hkeep).symm

theorem offer_lock4g {m : Modem} {e : Air} :
    (m.offer e (.lock4g none)).lock4g = if e.done then none else m.lock4g := by
  unfold Modem.offer
  split_ifs <;> rfl

theorem offer_lock5g {m : Modem} {e : Air} :
    (m.offer e (.lock5g none)).lock5g = if e.done then none else m.lock5g := by
  unfold Modem.offer
  split_ifs <;> rfl

theorem lockRead_unlocked {m : Modem} :
    (m.offered air [(0, .lock4g none), (1, .lock5g none), (i, .nr5gDisableMode n),
      (j, .modePref pref)]).lockRead = Wish.unlock.read ↔ Wish.unlock.Readable air m := by
  generalize hafter : m.offered air _ = after
  have h4 : after.lock4g = if (air 0).done then none else m.lock4g := by
    rw [← hafter, ← offer_lock4g]
    exact offered_lock4g (l := [(1, _), (i, _), (j, _)]) (by simp [Setting.key])
  have h5 : after.lock5g = if (air 1).done then none else m.lock5g := by
    have hfirst : (m.offer (air 0) (.lock4g none)).lock5g = m.lock5g :=
      offered_lock5g (l := [(0, _)]) (by simp [Setting.key])
    rw [← hafter, ← hfirst, ← offer_lock5g]
    exact offered_lock5g (l := [(i, _), (j, _)]) (by simp [Setting.key])
  rw [lockRead_unlock, h4, h5]
  unfold Wish.Readable
  cases (air 0).done <;> cases (air 1).done <;> simp

/-- The lock of a call that goes through is read as the one it asked for under that condition only. -/
theorem lockRead_call {x : Wish} (hx : a.wish w.operatorMode = some x)
    (h : (w.call air (setCellTower a)).1 = none) :
    (w.call air (setCellTower a)).2.2.modem.lockRead = x.read ↔ x.Readable air w.modem := by
  have hserved := served a air w
  rw [hx] at hserved
  cases hserved with
  | unlock hcall =>
    rw [hcall] at h ⊢
    cases hok : (air 0).ok || (air 1).ok with
    | false => rw [exec_unlockTower_rejected hok] at h; exact nomatch h
    | true =>
      rw [exec_unlockTower_accepted hok]
      exact lockRead_unlocked
  | @lte pci freq hcall =>
    rw [hcall] at h ⊢
    cases hok : (air 3).ok with
    | false => rw [exec_lockLte_rejected hok] at h; exact nomatch h
    | true =>
      obtain ⟨tower, haccepted⟩ := exec_lockLte_accepted (a := a) (w := w) (i := 1) hok
      have hlock : (w.modem.offered air (lteCommands 1 pci freq)).set (.lock4g (some (freq, pci))) =
          w.modem.offered air (lteCommands 1 pci freq) :=
        Modem.offered_set (Wish.lte pci freq).commands_nodup
          (e := (3, .lock4g (some (freq, pci)))) (by simp [Wish.commands, lteCommands])
          (Bool.and_eq_true_iff.mp hok).1
      rw [haccepted, lockRead_lte (congrArg Modem.lock4g hlock).symm,
        offered_lock5g (by simp [lteCommands, Setting.key])]
      rfl
  | @nr5g pci freq scs band hcall =>
    rw [hcall] at h ⊢
    cases hok : (air 3).ok with
    | false => rw [exec_lockNr5g_rejected hok] at h; exact nomatch h
    | true =>
      obtain ⟨tower, haccepted⟩ := exec_lockNr5g_accepted (a := a) (w := w) (i := 1) hok
      have hlock : (w.modem.offered air (nr5gCommands 1 pci freq scs band)).set
          (.lock5g (some (pci, freq, scs, band))) =
            w.modem.offered air (nr5gCommands 1 pci freq scs band) :=
        Modem.offered_set (Wish.nr5g pci freq scs band).commands_nodup
          (e := (3, .lock5g (some (pci, freq, scs, band))))
          (by simp [Wish.commands, nr5gCommands]) (Bool.and_eq_true_iff.mp hok).1
      rw [haccepted, lockRead_nr5g (congrArg Modem.lock5g hlock).symm]
      rfl

end

/-- After a call that has gone through, `get_cell_tower` reports the lock asked for, and none after an
unlock, exactly if the modem's locks were such that they can be told apart. -/
theorem tower_round_trip (lua : Numerals) (a : Tower) (air : Nat → Air) (w : World) (x : Wish)
    (hx : a.wish w.operatorMode = some x) (h : (w.call air (setCellTower a)).1 = none) :
    x.Reported (getCellTower lua.toLua (w.call air (setCellTower a)).2.2) ↔
      x.Readable air w.modem := by
  rw [reported_iff]
  exact lockRead_call hx h

def decimals : Numerals where
  tonumber t := if isNumber t then some (toNumber t : Rat) else none
  tostring _ := []
  tonumber_toDigits n := by rw [if_pos (isNumber_toDigits n), toNumber_toDigits]

def free : World := { modem := ⟨"AUTO", 0, none, none⟩ }

def nr5gTower (pci : Int) : Tower :=
  { lock := true, networkType := "NR5G", pci := .int pci, freq := .int 638784
    scs := .int 1, band := "78" }

theorem tower_round_trip_nr5g :
    (Wish.nr5g 954 638784 1 78).Reported
      (getCellTower decimals.toLua (free.call (fun _ => {}) (setCellTower (nr5gTower 954))).2.2) :=
  (tower_round_trip decimals (nr5gTower 954) (fun _ => {}) free (.nr5g 954 638784 1 78)
    (by decide) (by decide)).mpr (by decide)

/-- A 5G lock on the PCI 0 goes through, the modem has it, and no lock is reported. -/
theorem tower_pci_zero_unreported :
    (free.call (fun _ => {}) (setCellTower (nr5gTower 0))).1 = none ∧
      (free.call (fun _ => {}) (setCellTower (nr5gTower 0))).2.2.modem.lock5g =
        some (0, 638784, 1, 78) ∧
      ∀ name, getCellTower decimals.toLua
        (free.call (fun _ => {}) (setCellTower (nr5gTower 0))).2.2 name = none :=
  ⟨by decide, by decide, getCellTower_of_none (by decide)⟩

end GlXe3000.Cellular.Rat
