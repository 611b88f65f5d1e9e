import GlXe3000.Cellular.Radio.Serving

/-! # Two readers of one reply

Both take the same fields. They differ in what they make of a number that does not fit into 31 bits:
the daemon takes every reading between 2³¹ and 2³² for a negative one, `modem.lua` only those of the
5G cell, and there also what is beyond 2³². -/

namespace GlXe3000.Cellular.Radio
open Text

/-! ## Fields that both report -/

def Agree {α : Type} (a b : Option α) : Prop := ∀ x ∈ a, ∀ y ∈ b, x = y

section
variable {α : Type} {a b : Option α}

theorem Agree.of_eq (h : a = b) : Agree a b := by
  subst h
  intro x hx y hy
  exact Option.some.inj (hx.symm.trans hy)

theorem agree_map {f g : α → α} : Agree (a.map f) (a.map g) ↔ ∀ x ∈ a, f x = g x := by
  cases a with
  | none => simp [Agree]
  | some x => simp [Agree]

end

structure NrAgree (d : NrCell) (r : Rpc.Nr) : Prop where
  band : Agree d.band r.band
  cellId : Agree d.cellId r.cellId
  bandwidthCode : Agree d.bandwidthCode r.bandwidthCode
  dlBandwidth : Agree d.dlBandwidth r.dlBandwidth
  rsrp : Agree d.rsrp r.rsrp
  sinr : Agree d.sinr r.sinr
  rsrq : Agree d.rsrq r.rsrq

structure CellAgree (d : Cell NrCell) (r : Rpc.ServingCell) : Prop where
  mode : Agree d.mode r.mode
  band : Agree d.band r.band
  tac : Agree d.tac r.tac
  cellId : Agree d.cellId r.cellId
  ulBandwidth : Agree d.ulBandwidth r.ulBandwidth
  dlBandwidth : Agree d.dlBandwidth r.dlBandwidth
  rsrp : Agree d.rsrp r.rsrp
  rsrq : Agree d.rsrq r.rsrq
  rssi : Agree d.rssi r.rssi
  sinr : Agree d.sinr r.sinr
  txPower : Agree d.txPower r.txPower
  srxlev : Agree d.srxlev r.srxlev
  nr : ∀ n ∈ d.nr, ∀ n' ∈ r.nr, NrAgree n n'

/-- One picture: a cell is reported by both or by neither, and the fields that both report are the
same. -/
def SamePicture (d : Option (Cell NrCell)) (r : Option Rpc.ServingCell) : Prop :=
  d.isSome = r.isSome ∧ ∀ c ∈ d, ∀ c' ∈ r, CellAgree c c'

/-! ## The lines that count -/

/-- The mode and the two lines that are in the picture after some lines of a reply. -/
structure Last where
  mode : Option Text := none
  lte : Option (List Text) := none
  nr : Option (List Text) := none

def Last.take (l : Last) (fields : List Text) : Last :=
  if isLte fields then { l with mode := some (anchorMode (field fields 2)), lte := some fields }
  else if isNr fields then
    { l with mode := if isSa fields then some "5G SA" else l.mode, nr := some fields }
  else l

def last (lines : List (List Text)) : Last := lines.foldl Last.take {}

def Cell.finish (c : Cell NrCell) (mode : Option Text) (nr : Option NrCell) : Cell NrCell :=
  { c with mode := mode, nr := nr }

def Rpc.ServingCell.finish (c : Rpc.ServingCell) (mode : Option Text) (nr : Option Rpc.Nr) :
    Rpc.ServingCell :=
  { c with mode := mode, nr := nr }

section
variable (lua : Lua)

def Last.snapshot (l : Last) : Option (Cell NrCell) :=
  if l.lte.isNone ∧ l.nr.isNone then none
  else some (((l.lte.map (Daemon.takeLte lua {})).getD {}).finish l.mode
    (l.nr.map (Daemon.nrCell lua)))

/-- The cell of `modem.lua` from the lines that count. -/
def Last.cell (l : Last) : Option Rpc.ServingCell :=
  if l.lte.isNone ∧ l.nr.isNone then none
  else some (((l.lte.map (Rpc.takeLte lua {})).getD {}).finish l.mode (l.nr.map (Rpc.nrCell lua)))

theorem views_take {l : Last} (hl : l.lte = none → l.nr = none → l.mode = none)
    (fields : List Text) :
    Daemon.take lua (l.snapshot lua) fields = (l.take fields).snapshot lua ∧
      Rpc.take lua (l.cell lua) fields = (l.take fields).cell lua := by
  obtain ⟨mode, lteLine, nrLine⟩ := l
  unfold Daemon.take Rpc.take Last.take
  cases hlte : isLte fields with
  | true => cases lteLine <;> cases nrLine <;> exact ⟨rfl, rfl⟩
  | false =>
    cases hnr : isNr fields with
    | false => exact ⟨rfl, rfl⟩
    | true =>
      cases lteLine with
      | some f => cases nrLine <;> exact ⟨rfl, rfl⟩
      | none =>
        cases nrLine with
        | some f => exact ⟨rfl, rfl⟩
        | none =>
          obtain rfl : mode = none := hl rfl rfl
          exact ⟨rfl, rfl⟩

theorem take_mode {l : Last} (hl : l.lte = none → l.nr = none → l.mode = none)
    (fields : List Text) :
    (l.take fields).lte = none → (l.take fields).nr = none → (l.take fields).mode = none := by
  unfold Last.take
  split_ifs
  · exact nofun
  · exact fun _ => nofun
  · exact fun _ => nofun
  · exact hl

theorem foldl_take {take : α → List Text → α} {read : Last → α}
    (htake : ∀ {l : Last}, (l.lte = none → l.nr = none → l.mode = none) → ∀ fields,
      take (read l) fields = read (l.take fields)) (lines : List (List Text)) :
    lines.foldl take (read {}) = read (last lines) := by
  have hfold : ∀ l : Last, (l.lte = none → l.nr = none → l.mode = none) →
      lines.foldl take (read l) = read (lines.foldl Last.take l) := by
    induction lines with
    | nil => exact fun _ _ => rfl
    | cons fields lines ih =>
      intro l hl
      rw [List.foldl_cons, List.foldl_cons, htake hl]
      exact ih _ (take_mode hl fields)
  exact hfold {} fun _ _ => rfl

theorem snapshotLines_eq (lines : List (List Text)) :
    Daemon.snapshotLines lua lines = (last lines).snapshot lua :=
  foldl_take (fun hl fields => (views_take lua hl fields).1) lines

theorem cellOfLines_eq (lines : List (List Text)) :
    Rpc.cellOfLines lua lines = (last lines).cell lua :=
  foldl_take (fun hl fields => (views_take lua hl fields).2) lines

end

/-! ## Readings -/

def Wrapped (n : Rat) : Prop := 2147483647 < n ∧ n < 4294967296

theorem tofloat_eq_self_iff : Daemon.tofloat n = n ↔ ¬Wrapped n := by
  unfold Daemon.tofloat Wrapped
  split_ifs with h
  · exact ⟨fun heq => by linarith, fun hnot => absurd h hnot⟩
  · exact ⟨fun _ => h, fun _ => rfl⟩

theorem tofloat_eq_unwrap_iff : Daemon.tofloat n = Rpc.unwrap n ↔ n < 4294967296 := by
  unfold Daemon.tofloat Rpc.unwrap
  by_cases hlow : 2147483647 < n
  · by_cases hhigh : n < 4294967296
    · rw [if_pos ⟨hlow, hhigh⟩, if_pos hlow]
      exact ⟨fun _ => hhigh, fun _ => rfl⟩
    · rw [if_neg fun h => hhigh h.2, if_pos hlow]
      exact ⟨fun heq => by linarith, fun h => absurd h hhigh⟩
  · rw [if_neg fun h => hlow h.1, if_neg hlow]
    exact ⟨fun _ => by linarith, fun _ => rfl⟩

section
variable {lua : Lua} {fields : List Text} {i : Nat}

theorem agree_lte : Agree (Daemon.reading lua fields i) (number lua fields i) ↔
    ∀ n ∈ number lua fields i, ¬Wrapped n := by
  have h := agree_map (a := number lua fields i) (f := Daemon.tofloat) (g := id)
  rw [Option.map_id] at h
  exact h.trans (forall₂_congr fun n _ => tofloat_eq_self_iff)

theorem agree_nr : Agree (Daemon.reading lua fields i) (Rpc.reading lua fields i) ↔
    ∀ n ∈ number lua fields i, n < 4294967296 :=
  agree_map.trans (forall₂_congr fun _ _ => tofloat_eq_unwrap_iff)

theorem agree_txPower : Agree (Daemon.qengTxPower lua v) (Rpc.qengPower lua 10 v) := by
  unfold Rpc.qengPower
  split
  · exact fun _ _ _ h => nomatch h
  · exact fun _ _ _ h => nomatch h
  · exact .of_eq rfl

theorem agree_srxlev : Agree (Daemon.qengSrxlev lua v) (Rpc.qengPower lua 1 v) := by
  unfold Rpc.qengPower
  split
  · exact fun _ _ _ h => nomatch h
  · exact fun _ _ _ h => nomatch h
  · rename_i v _
    refine .of_eq ?_
    have hdiv : (fun n : Rat => n / 1) = id := funext div_one
    rw [hdiv, Option.map_id]
    rfl

theorem nrAgree_iff : NrAgree (Daemon.nrCell lua fields) (Rpc.nrCell lua fields) ↔
    ∀ i ∈ [5, 6, 7], ∀ n ∈ number lua fields i, n < 4294967296 := by
  constructor
  · rintro ⟨-, -, -, -, hrsrp, hsinr, hrsrq⟩
    simp only [List.forall_mem_cons, List.not_mem_nil, false_implies, implies_true, and_true]
    exact ⟨agree_nr.mp hrsrp, agree_nr.mp hsinr, agree_nr.mp hrsrq⟩
  · intro h
    exact ⟨.of_eq rfl, .of_eq rfl, .of_eq rfl, .of_eq rfl, agree_nr.mpr (h 5 (by simp)),
      agree_nr.mpr (h 6 (by simp)), agree_nr.mpr (h 7 (by simp))⟩

theorem single_agree : CellAgree (Daemon.single lua fields) (Rpc.single lua fields) ↔
    ∀ i ∈ [14, 15, 16, 17], ∀ n ∈ number lua fields i, ¬Wrapped n := by
  constructor
  · rintro ⟨-, -, -, -, -, -, hrsrp, hrsrq, hrssi, hsinr, -, -, -⟩
    simp only [List.forall_mem_cons, List.not_mem_nil, false_implies, implies_true, and_true]
    exact ⟨agree_lte.mp hrsrp, agree_lte.mp hrsrq, agree_lte.mp hrssi, agree_lte.mp hsinr⟩
  · intro h
    exact ⟨.of_eq rfl, .of_eq rfl, .of_eq rfl, .of_eq rfl, .of_eq rfl, .of_eq rfl,
      agree_lte.mpr (h 14 (by simp)), agree_lte.mpr (h 15 (by simp)), agree_lte.mpr (h 16 (by simp)),
      agree_lte.mpr (h 17 (by simp)), agree_txPower, agree_srxlev,
      fun _ h => absurd h (Option.not_mem_none _)⟩

theorem anchor_agree :
    CellAgree ((Daemon.takeLte lua {} fields).finish mode nr)
        ((Rpc.takeLte lua {} fields).finish mode nr') ↔
      (∀ i ∈ [12, 13, 14, 15], ∀ n ∈ number lua fields i, ¬Wrapped n) ∧
        ∀ n ∈ nr, ∀ n' ∈ nr', NrAgree n n' := by
  constructor
  · rintro ⟨-, -, -, -, -, -, hrsrp, hrsrq, hrssi, hsinr, -, -, hnr⟩
    simp only [List.forall_mem_cons, List.not_mem_nil, false_implies, implies_true, and_true]
    exact ⟨⟨agree_lte.mp hrsrp, agree_lte.mp hrsrq, agree_lte.mp hrssi, agree_lte.mp hsinr⟩, hnr⟩
  · rintro ⟨h, hnr⟩
    exact ⟨.of_eq rfl, .of_eq rfl, .of_eq rfl, .of_eq rfl, .of_eq rfl, .of_eq rfl,
      agree_lte.mpr (h 12 (by simp)), agree_lte.mpr (h 13 (by simp)), agree_lte.mpr (h 14 (by simp)),
      agree_lte.mpr (h 15 (by simp)), agree_txPower, agree_srxlev, hnr⟩

theorem noAnchor_agree :
    CellAgree (Cell.finish {} mode nr) (Rpc.ServingCell.finish {} mode nr') ↔
      ∀ n ∈ nr, ∀ n' ∈ nr', NrAgree n n' :=
  ⟨CellAgree.nr, fun hnr => ⟨.of_eq rfl, .of_eq rfl, .of_eq rfl, .of_eq rfl, .of_eq rfl, .of_eq rfl,
    .of_eq rfl, .of_eq rfl, .of_eq rfl, .of_eq rfl, .of_eq rfl, .of_eq rfl, hnr⟩⟩

theorem nrLine_agree {line : Option (List Text)} :
    (∀ n ∈ line.map (Daemon.nrCell lua), ∀ n' ∈ line.map (Rpc.nrCell lua), NrAgree n n') ↔
      ∀ fields ∈ line, ∀ i ∈ [5, 6, 7], ∀ n ∈ number lua fields i, n < 4294967296 := by
  cases line with
  | none => simp only [Option.map_none, Option.not_mem_none, false_implies, implies_true]
  | some fields =>
    simp only [Option.map_some, Option.mem_some_iff, forall_eq']
    exact nrAgree_iff

theorem samePicture_some : SamePicture (some d) (some r) ↔ CellAgree d r := by
  unfold SamePicture
  simp only [Option.isSome_some, Option.mem_some_iff, forall_eq', true_and]

end

def Last.Plain (lua : Lua) (l : Last) : Prop :=
  (∀ fields ∈ l.lte, ∀ i ∈ [12, 13, 14, 15], ∀ n ∈ number lua fields i, ¬Wrapped n) ∧
    ∀ fields ∈ l.nr, ∀ i ∈ [5, 6, 7], ∀ n ∈ number lua fields i, n < 4294967296

theorem last_agree (lua : Lua) (l : Last) :
    SamePicture (l.snapshot lua) (l.cell lua) ↔ l.Plain lua := by
  obtain ⟨mode, lteLine, nrLine⟩ := l
  unfold Last.Plain
  rw [← nrLine_agree]
  cases lteLine with
  | some fields =>
    refine samePicture_some.trans (anchor_agree.trans ?_)
    simp only [Option.mem_some_iff, forall_eq']
  | none =>
    cases nrLine with
    | none =>
      show SamePicture none none ↔ _
      simp [SamePicture]
    | some fields =>
      refine samePicture_some.trans (noAnchor_agree.trans ?_)
      simp only [Option.not_mem_none, false_implies, implies_true, true_and]

/-! ## The two parsers -/

/-- No reading is one that the two make different numbers of: one of an LTE cell between 2³¹ and 2³², or
one of a 5G cell from 2³² on. -/
def Plain (lua : Lua) (lines : List (List Text)) : Prop :=
  match lines with
  | [fields] =>
    match field fields 3 with
    | some rat =>
      rat = lte → ∀ i ∈ [14, 15, 16, 17], ∀ n ∈ number lua fields i, ¬Wrapped n
    | none => (last [fields]).Plain lua
  | lines => (last lines).Plain lua

/-- The daemon and `modem.lua` see the same picture in a reply exactly if it has no such reading. -/
theorem serving_cell_same (lua : Lua) (resp : Text) :
    SamePicture (Daemon.servingCellSnapshot lua resp) (Rpc.getServingCell lua resp) ↔
      Plain lua (allMatches resp "+QENG") := by
  unfold Daemon.servingCellSnapshot Rpc.getServingCell
  generalize allMatches resp "+QENG" = lines
  have hlines := last_agree lua (last lines)
  rw [← snapshotLines_eq, ← cellOfLines_eq] at hlines
  cases lines with
  | nil => exact hlines
  | cons fields rest =>
    cases rest with
    | cons fields' rest => exact hlines
    | nil =>
      unfold Daemon.snapshot Rpc.cellOf Plain
      dsimp only
      cases field fields 3 with
      | none => exact hlines
      | some rat =>
        dsimp only
        split_ifs with hrat
        · exact samePicture_some.trans (single_agree.trans ⟨fun h _ => h, fun h => h hrat⟩)
        · refine samePicture_some.trans ⟨fun _ h => absurd h hrat, fun _ => ?_⟩
          exact noAnchor_agree.mpr fun _ h => absurd h (Option.not_mem_none _)

def naturals : Lua :=
  ⟨fun t => if isNumber t then some (toNumber t : Rat) else none, fun _ => []⟩

def wrappedSinr : Text :=
  "+QENG: \"servingcell\",\"NOCONN\",\"LTE\",,,,,,,,,,,,,,4294967294\r\nOK"

def wrappedFields : List Text :=
  ["servingcell".toList, "NOCONN".toList, lte] ++ List.replicate 13 [] ++ ["4294967294".toList]

theorem wrappedSinr_fields : allMatches wrappedSinr "+QENG".toList = [wrappedFields] := by decide

theorem number_wrappedSinr : number naturals wrappedFields 17 = some 4294967294 := by
  have hnumber : isNumber "4294967294" = true := by decide
  have hvalue : toNumber "4294967294" = 4294967294 := by decide
  show (if isNumber "4294967294".toList then some ((toNumber "4294967294".toList : Nat) : Rat)
    else none) = _
  rw [if_pos hnumber, hvalue]
  norm_num

theorem serving_cell_differs :
    (Daemon.servingCellSnapshot naturals wrappedSinr).bind (·.sinr) = some (-2) ∧
      (Rpc.getServingCell naturals wrappedSinr).bind (·.sinr) = some 4294967294 := by
  unfold Daemon.servingCellSnapshot Rpc.getServingCell
  rw [wrappedSinr_fields]
  refine ⟨?_, number_wrappedSinr⟩
  show (number naturals wrappedFields 17).map Daemon.tofloat = _
  rw [number_wrappedSinr]
  norm_num [Daemon.tofloat]

end GlXe3000.Cellular.Radio
