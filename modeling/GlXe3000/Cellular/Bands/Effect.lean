import GlXe3000.Cellular.Bands.Methods

/-! # The bands a mask leaves

A list that comes out empty is not told to the modem at all, and what the modem says to the full lists
is not looked at. Without a mask `set_band_config` tells all three technologies the LTE bands. -/

namespace GlXe3000.Cellular.Bands
open Text

/-! ## The modem -/

/-- What becomes of a command: it is executed or not, and its reply comes or not. -/
structure Reply where
  done : Bool := true
  heard : Bool := true
  deriving DecidableEq

/-- A call gives each command at most once, so replies go by what the command is for; `none` stands for
the network mode. -/
abbrev Replies := Option Kind → Reply

structure Modem where
  bands : Kind → List Nat
  told : List (Kind × Text) := []

def Modem.answer (replies : Replies) : Act → Modem → Bool × Modem
  | .band k list, m =>
    ((replies (some k)).done && (replies (some k)).heard,
      { bands := if (replies (some k)).done then Function.update m.bands k (splitBandList list)
          else m.bands
        told := m.told ++ [(k, list)] })
  | .modePref _, m => ((replies none).done && (replies none).heard, m)

def Modem.after (m : Modem) (replies : Replies) {α : Type} (script : Script α) : α × Modem :=
  script.run (Modem.answer replies) m

/-! ## What a request is for -/

def selection (data : Json) (p : Package) (k : Kind) : List Json :=
  ((chosen data p k).map Json.items).getD []

def unblocked (lua : Lua) (s : Supported) (data : Json) (p : Package) (k : Kind) : List Nat :=
  (splitBandList (s.of k)).filter fun b : Nat =>
    (selection data p k).all fun item => lua.number item ≠ some (b : Rat)

def Numbers (lua : Lua) (items : List Json) (ns : List Nat) : Prop :=
  ns.map (fun n : Nat => some (n : Rat)) = items.map lua.number

/-- The bands of a technology are those that the request and the stored state ask for. -/
def Asked (lua : Lua) (s : Supported) (data : Json) (p : Package) (k : Kind) (bands : List Nat) :
    Prop :=
  if maskEnabled data p then
    if blockMode lua data p then bands = unblocked lua s data p k
    else Numbers lua (selection data p k) bands
  else bands = splitBandList (s.of k)

def Empties (lua : Lua) (s : Supported) (data : Json) (p : Package) (k : Kind) : Prop :=
  if blockMode lua data p then unblocked lua s data p k = [] else selection data p k = []

/-! ## Lists as texts -/

theorem map_intercalate {f : Char → Char} (hc : f c = c)
    (h : ∀ p ∈ ps, ∀ d ∈ p, f d = d) : ([c].intercalate ps).map f = [c].intercalate ps := by
  induction ps with
  | nil => rfl
  | cons p ps ih =>
    obtain ⟨hp, hps⟩ := List.forall_mem_cons.mp h
    have hmap : p.map f = p := (List.map_congr_left hp).trans (List.map_id p)
    cases ps with
    | nil => rw [List.intercalate_singleton, hmap]
    | cons q ps =>
      rw [List.intercalate_cons_cons, List.map_append, List.map_append, hmap, ih hps,
        List.map_singleton, hc]

theorem splitBandList_intercalate {ns : List Nat} (hne : ns ≠ []) :
    splitBandList ([':'].intercalate (ns.map (Nat.toDigits 10))) = ns := by
  have hdigits : ∀ t ∈ ns.map (Nat.toDigits 10), ∀ c ∈ t, isDigit c = true := by
    intro t ht c hc
    obtain ⟨n, -, rfl⟩ := List.mem_map.mp ht
    exact isDigit_of_mem_toDigits hc
  unfold splitBandList fields
  rw [map_intercalate (by decide) fun t ht c hc => if_pos (hdigits t ht c hc),
    pieces_intercalate (fun h => hne (List.map_eq_nil_iff.mp h)) fun t ht hc =>
      absurd (hdigits t ht ':' hc) (by decide)]
  rw [List.filter_eq_self.mpr]
  · rw [List.map_map]
    exact (List.map_congr_left fun n _ => toNumber_toDigits n).trans (List.map_id ns)
  · intro t ht
    obtain ⟨n, -, rfl⟩ := List.mem_map.mp ht
    simp [Nat.toDigits_ne_nil]

section
variable {lua : Lua} {items : List Json} {ns : List Nat}

theorem Numbers.eq_nil (h : Numbers lua [] ns) : ns = [] := List.map_eq_nil_iff.mp h

theorem Numbers.unique (h : Numbers lua items ns) (h' : Numbers lua items ns') : ns = ns' := by
  have hinj : Function.Injective fun n : Nat => some (n : Rat) := fun a b hab =>
    Nat.cast_injective (Option.some.inj hab)
  exact List.map_injective_iff.mpr hinj (h.trans h'.symm)

theorem numbers_num (ns : List Nat) : Numbers lua (ns.map fun n : Nat => .num n) ns := by
  unfold Numbers
  rw [List.map_map]
  rfl

theorem number_of_bandNumber (h : bandNumber lua b = some n) : lua.number b = some (n : Rat) := by
  obtain ⟨x, hx, h⟩ := Option.bind_eq_some_iff.mp h
  split_ifs at h with hcond
  obtain ⟨hfloor, hone, -⟩ := hcond
  obtain rfl := Option.some.inj h
  have hpos : 0 ≤ x.floor := by
    have hle : ((1 : Int) : Rat) ≤ x := hone
    exact Int.le_trans (by decide) (Rat.le_floor_iff.mpr hle)
  have hcast : ((x.floor.toNat : Nat) : Rat) = (x.floor : Rat) := by
    exact_mod_cast congrArg (Int.cast : Int → Rat) (Int.toNat_of_nonneg hpos)
  rw [hx, hcast, ← hfloor]

theorem numbers_of_mapM (h : items.mapM (bandNumber lua) = some ns) : Numbers lua items ns := by
  induction items generalizing ns with
  | nil =>
    obtain rfl := Option.some.inj h
    rfl
  | cons b items ih =>
    rw [List.mapM_cons] at h
    obtain ⟨n, hn, h⟩ := Option.bind_eq_some_iff.mp h
    obtain ⟨ns', hns, h⟩ := Option.bind_eq_some_iff.mp h
    obtain rfl := Option.some.inj h
    exact congrArg₂ List.cons (number_of_bandNumber hn).symm (ih hns)

theorem buildBandList_spec {v : Json} (h : buildBandList lua v = .ok (some list)) :
    ∃ ns, Numbers lua v.items ns ∧ splitBandList list = ns := by
  obtain ⟨items, hitems, h⟩ := bind_eq_ok.mp h
  obtain ⟨ns, hns, h⟩ := Option.bind_eq_some_iff.mp (Except.ok.inj h)
  split_ifs at h with hempty
  obtain rfl := Option.some.inj h
  have hitems : v.items = items := by
    cases v with
    | arr l => exact Except.ok.inj hitems
    | obj l => exact Except.ok.inj hitems
    | _ => exact nomatch hitems
  exact ⟨ns, hitems ▸ numbers_of_mapM hns, splitBandList_intercalate (by simpa using hempty)⟩

end

/-! ## Telling the modem -/

def itemsOf (bands : Option Json) : List Json := (bands.map Json.items).getD []

/-- What a list that was accepted, or was not told because it is empty, has done to the modem. -/
structure Took (lua : Lua) (bands : Option Json) (k : Kind) (m m' : Modem) : Prop where
  other : ∀ j, j ≠ k → m'.bands j = m.bands j
  empty : itemsOf bands = [] → m'.bands k = m.bands k
  numbers : itemsOf bands ≠ [] → Numbers lua (itemsOf bands) (m'.bands k)

section
variable {lua : Lua} {replies : Replies} {m : Modem} {k : Kind} {bands : Option Json} {r : Failure}

theorem items_of_lengthOf_zero {v : Json} (h : lengthOf v = .ok 0) : v.items = [] := by
  cases v with
  | arr l => exact List.length_eq_zero_iff.mp (Except.ok.inj h)
  | _ => rfl

theorem items_ne_nil {v : Json} (hlength : lengthOf v = .ok (n + 1))
    (h : buildBandList lua v = .ok o) : v.items ≠ [] := by
  cases v with
  | arr l =>
    intro hnil
    have hzero : l.length = 0 := List.length_eq_zero_iff.mpr hnil
    exact nomatch hzero.symm.trans (Except.ok.inj hlength)
  | str t => exact nomatch h
  | _ => exact nomatch hlength

theorem ok_of_unlessOk (h : unlessOk r ok = none) : ok = true := by
  cases ok with
  | true => rfl
  | false => exact nomatch h

theorem answer_band (h : (Modem.answer replies (.band k list) m).1 = true) :
    (Modem.answer replies (.band k list) m).2.bands =
      Function.update m.bands k (splitBandList list) :=
  if_pos (Bool.and_eq_true_iff.mp h).1

theorem planFor_skip (h : planFor lua bands = .skip) : itemsOf bands = [] := by
  unfold planFor at h
  split at h
  · rfl
  · split at h
    · exact nomatch h
    · rename_i hlength
      exact items_of_lengthOf_zero hlength
    · exact nomatch h
    · exact nomatch h
    · exact nomatch h

theorem planFor_tell (h : planFor lua bands = .tell list) :
    itemsOf bands ≠ [] ∧ Numbers lua (itemsOf bands) (splitBandList list) := by
  unfold planFor at h
  split at h
  · exact nomatch h
  · rename_i v
    split at h
    · exact nomatch h
    · exact nomatch h
    · exact nomatch h
    · exact nomatch h
    · rename_i hlength hlist
      obtain rfl := Plan.tell.inj h
      obtain ⟨ns, hns, hsplit⟩ := buildBandList_spec hlist
      exact ⟨items_ne_nil hlength hlist, hsplit ▸ hns⟩

theorem took_of_accepted (h : (m.after replies (applyMask lua k bands r)).1 = none) :
    Took lua bands k m (m.after replies (applyMask lua k bands r)).2 := by
  unfold Modem.after applyMask at h ⊢
  cases hplan : planFor lua bands with
  | skip =>
    exact ⟨fun _ _ => rfl, fun _ => rfl, fun hne => absurd (planFor_skip hplan) hne⟩
  | fail f =>
    rw [hplan] at h
    exact nomatch h
  | refuse =>
    rw [hplan] at h
    exact nomatch h
  | tell list =>
    rw [hplan] at h
    have hbands := answer_band (ok_of_unlessOk h)
    obtain ⟨hne, hnumbers⟩ := planFor_tell hplan
    refine ⟨fun j hj => ?_, fun hnil => absurd hnil hne, fun _ => ?_⟩
    · exact (congrFun hbands j).trans (Function.update_of_ne hj ..)
    · have hself := (congrFun hbands k).trans (Function.update_self ..)
      exact hself ▸ hnumbers

theorem after_applyAll_cons :
    m.after replies (applyAll lua ((k, bands, r) :: l)) =
      match (m.after replies (applyMask lua k bands r)).1 with
      | some f => (some f, (m.after replies (applyMask lua k bands r)).2)
      | none => (m.after replies (applyMask lua k bands r)).2.after replies (applyAll lua l) := by
  unfold Modem.after
  rw [applyAll, Proc.run_bind]
  cases (Proc.run (Modem.answer replies) (applyMask lua k bands r) m).1 <;> rfl

theorem took_all {l : List (Kind × Option Json × Failure)}
    (h : (m.after replies (applyAll lua l)).1 = none) (hl : (l.map Prod.fst).Nodup) :
    (∀ j, j ∉ l.map Prod.fst → (m.after replies (applyAll lua l)).2.bands j = m.bands j) ∧
      ∀ e ∈ l,
        (itemsOf e.2.1 = [] → (m.after replies (applyAll lua l)).2.bands e.1 = m.bands e.1) ∧
        (itemsOf e.2.1 ≠ [] →
          Numbers lua (itemsOf e.2.1) ((m.after replies (applyAll lua l)).2.bands e.1)) := by
  induction l generalizing m with
  | nil => exact ⟨fun _ _ => rfl, nofun⟩
  | cons e l ih =>
    obtain ⟨k, bands, r⟩ := e
    obtain ⟨hk, hl⟩ := List.nodup_cons.mp hl
    rw [after_applyAll_cons] at h ⊢
    cases hfirst : (m.after replies (applyMask lua k bands r)).1 with
    | some f =>
      rw [hfirst] at h
      exact nomatch h
    | none =>
      rw [hfirst] at h
      have htook := took_of_accepted hfirst
      obtain ⟨hother, hmem⟩ := ih h hl
      refine ⟨fun j hj => ?_, fun e he => ?_⟩
      · obtain ⟨hjk, hj⟩ := not_or.mp fun hor => hj (List.mem_cons.mpr hor)
        exact (hother j hj).trans (htook.other j hjk)
      · rcases List.mem_cons.mp he with rfl | he
        · dsimp only
          rw [hother k hk]
          exact ⟨htook.empty, htook.numbers⟩
        · have hne : e.1 ≠ k := fun heq => hk (heq ▸ List.mem_map.mpr ⟨e, he, rfl⟩)
          obtain ⟨hempty, hnumbers⟩ := hmem e he
          exact ⟨fun hnil => (hempty hnil).trans (htook.other _ hne), hnumbers⟩

end

/-! ## Masks -/

section
variable {lua : Lua} {s : Supported} {data : Json} {p : Package} {k : Kind} {replies : Replies}
  {m : Modem} {refusal : Kind → Failure}

theorem mem_denied (h : denied lua items = .ok deny)
    (x : Rat) : x ∈ deny ↔ ∃ item ∈ items, lua.number item = some x := by
  induction items generalizing deny with
  | nil =>
    obtain rfl := Except.ok.inj h
    simp
  | cons b items ih =>
    unfold denied at h ih
    rw [List.mapM_cons] at h
    obtain ⟨n, hn, h⟩ := bind_eq_ok.mp h
    obtain ⟨rest, hrest, h⟩ := bind_eq_ok.mp h
    obtain rfl := Except.ok.inj h
    rw [List.mem_cons, ih hrest]
    have hn : lua.number b = some n := elim_eq_ok.mp hn
    simp [hn, eq_comm]

theorem ipairs_chosen (h : ipairs ((chosen data p k).getD (.arr [])) = .ok items) :
    items = selection data p k := by
  unfold selection
  cases hc : chosen data p k with
  | none =>
    rw [hc] at h
    exact (Except.ok.inj h).symm
  | some v =>
    rw [hc] at h
    cases v with
    | arr l => exact (Except.ok.inj h).symm
    | obj l => exact (Except.ok.inj h).symm
    | _ => exact nomatch h

theorem itemsOf_toApply (h : toApply lua s data p k = .ok bands) :
    itemsOf bands = if blockMode lua data p then (unblocked lua s data p k).map fun n : Nat => .num n
      else selection data p k := by
  unfold toApply at h
  split_ifs at h ⊢ with hblock
  · cases hallowed : allowedAfterBlocking lua (s.of k) (chosen data p k) with
    | error e =>
      rw [hallowed] at h
      exact nomatch h
    | ok v =>
      rw [hallowed] at h
      rw [← Except.ok.inj h]
      obtain ⟨items, hitems, hallowed⟩ := bind_eq_ok.mp hallowed
      obtain ⟨deny, hdeny, hallowed⟩ := bind_eq_ok.mp hallowed
      obtain rfl := Except.ok.inj hallowed
      obtain rfl := ipairs_chosen hitems
      refine congrArg (List.map _) (List.filter_congr fun b _ => ?_)
      rw [Bool.eq_iff_iff, decide_eq_true_eq, List.all_eq_true, mem_denied hdeny]
      simp
  · rw [← Except.ok.inj h]
    rfl

def perKind {α : Type} (lte nsa sa : α) : Kind → α
  | .lte => lte
  | .nsa => nsa
  | .sa => sa

theorem applyMasks_cases (h : (m.after replies (applyMasks lua s data p refusal)).1 = none) :
    ∃ lists : Kind → Option Json, (∀ k, toApply lua s data p k = .ok (lists k)) ∧
      applyMasks lua s data p refusal = applyAll lua [(.lte, lists .lte, refusal .lte),
        (.nsa, lists .nsa, refusal .nsa), (.sa, lists .sa, refusal .sa)] := by
  unfold applyMasks at h ⊢
  cases hlte : toApply lua s data p .lte with
  | error e => simp only [hlte] at h; cases h
  | ok lte =>
    cases hnsa : toApply lua s data p .nsa with
    | error e => simp only [hlte, hnsa] at h; cases h
    | ok nsa =>
      cases hsa : toApply lua s data p .sa with
      | error e => simp only [hlte, hnsa, hsa] at h; cases h
      | ok sa =>
        refine ⟨perKind lte nsa sa, fun k => ?_, rfl⟩
        cases k with
        | lte => exact hlte
        | nsa => exact hnsa
        | sa => exact hsa

theorem asked_of_masks (henabled : maskEnabled data p = true)
    (h : (m.after replies (applyMasks lua s data p refusal)).1 = none) (k : Kind) :
    Asked lua s data p k ((m.after replies (applyMasks lua s data p refusal)).2.bands k) ↔
      (Empties lua s data p k → m.bands k = []) := by
  obtain ⟨lists, hlists, heq⟩ := applyMasks_cases h
  rw [heq] at h ⊢
  obtain ⟨-, hmem⟩ := took_all h (by decide : [Kind.lte, .nsa, .sa].Nodup)
  obtain ⟨hempty, hnumbers⟩ := hmem (k, lists k, refusal k) (by cases k <;> simp)
  have hitems := itemsOf_toApply (hlists k)
  generalize (m.after replies _).2.bands = after at hempty hnumbers ⊢
  dsimp only at hempty hnumbers
  unfold Asked Empties
  rw [if_pos henabled]
  split_ifs at hitems ⊢ with hblock
  · rw [hitems] at hempty hnumbers
    by_cases hnil : unblocked lua s data p k = []
    · rw [hempty (by rw [hnil]; rfl), hnil]
      exact ⟨fun h _ => h, fun h => h rfl⟩
    · have hafter := (hnumbers (fun h => hnil (List.map_eq_nil_iff.mp h))).unique (numbers_num _)
      exact ⟨fun _ h => absurd h hnil, fun _ => hafter⟩
  · rw [hitems] at hempty hnumbers
    by_cases hnil : selection data p k = []
    · rw [hempty hnil, hnil]
      refine ⟨fun h _ => h.eq_nil, fun h => ?_⟩
      rw [h rfl]
      rfl
    · exact ⟨fun _ h => absurd h hnil, fun _ => hnumbers hnil⟩

/-! ## No mask -/

def tellAll (lists : Kind → Text) : Script (Option Failure) := do
  tell .lte (lists .lte)
  tell .nsa (lists .nsa)
  tell .sa (lists .sa)
  return none

def Modem.hear (m : Modem) (replies : Replies) (k : Kind) (list : Text) : Modem :=
  (Modem.answer replies (.band k list) m).2

theorem bands_hear_self : (m.hear replies k list).bands k =
    if (replies (some k)).done then splitBandList list else m.bands k := by
  simp only [Modem.hear, Modem.answer]
  split_ifs
  · exact Function.update_self ..
  · rfl

theorem bands_hear_of_ne (h : j ≠ k) : (m.hear replies k list).bands j = m.bands j := by
  simp only [Modem.hear, Modem.answer]
  split_ifs
  · exact Function.update_of_ne h ..
  · rfl

theorem after_tellAll (lists : Kind → Text) :
    m.after replies (tellAll lists) = (none, ((m.hear replies .lte (lists .lte)).hear replies .nsa
      (lists .nsa)).hear replies .sa (lists .sa)) := rfl

theorem bands_tellAll (lists : Kind → Text) (k : Kind) :
    (m.after replies (tellAll lists)).2.bands k =
      if (replies (some k)).done then splitBandList (lists k) else m.bands k := by
  rw [after_tellAll]
  cases k with
  | lte =>
    rw [bands_hear_of_ne (by decide), bands_hear_of_ne (by decide), bands_hear_self]
  | nsa => rw [bands_hear_of_ne (by decide), bands_hear_self, bands_hear_of_ne (by decide)]
  | sa => rw [bands_hear_self, bands_hear_of_ne (by decide), bands_hear_of_ne (by decide)]

theorem told_tellAll (lists : Kind → Text) :
    (m.after replies (tellAll lists)).2.told =
      m.told ++ [(.lte, lists .lte), (.nsa, lists .nsa), (.sa, lists .sa)] := by
  rw [after_tellAll]
  show ((m.told ++ [_]) ++ [_]) ++ [_] = _
  simp

/-! ## The two methods -/

theorem tellBandConfig_disabled (h : maskEnabled data p = false) :
    tellBandConfig lua s data p = tellAll fun _ => s.lte := by
  unfold tellBandConfig
  rw [h]
  rfl

theorem tellBandConfig_enabled (h : maskEnabled data p = true) :
    tellBandConfig lua s data p =
      applyMasks lua s data p fun _ => .refused "modem rejected band list" := by
  unfold tellBandConfig
  rw [h]
  rfl

def modeAccepted (replies : Replies) : Option Text → Bool
  | none => true
  | some _ => (replies none).done && (replies none).heard

theorem run_tellMode (pref : Option Text) :
    (tellMode pref).run (Modem.answer replies) m = (modeAccepted replies pref, m) := by
  cases pref <;> rfl

theorem after_tellSimConfig_rejected (h : modeAccepted replies (networkPref lua data) = false) :
    m.after replies (tellSimConfig lua s data p) =
      (some (.refused "modem rejected network mode"), m) := by
  unfold Modem.after tellSimConfig
  rw [Proc.run_bind, run_tellMode, h]
  rfl

theorem after_tellSimConfig_enabled (hmode : modeAccepted replies (networkPref lua data) = true)
    (h : maskEnabled data p = true) :
    m.after replies (tellSimConfig lua s data p) =
      m.after replies (applyMasks lua s data p simRefusal) := by
  unfold Modem.after tellSimConfig
  rw [Proc.run_bind, run_tellMode, hmode, h]
  rfl

theorem after_tellSimConfig_disabled (hmode : modeAccepted replies (networkPref lua data) = true)
    (h : maskEnabled data p = false) :
    m.after replies (tellSimConfig lua s data p) = m.after replies (tellAll s.of) := by
  unfold Modem.after tellSimConfig
  rw [Proc.run_bind, run_tellMode, hmode, h]
  rfl

theorem isSome_unlessOk (r : Failure) (ok : Bool) : (unlessOk r ok).isSome = !ok := by
  cases ok <;> rfl

theorem applyMask_refusal (lua : Lua) (replies : Replies) (m : Modem) (k : Kind)
    (bands : Option Json) (r r' : Failure) :
    (m.after replies (applyMask lua k bands r)).2 = (m.after replies (applyMask lua k bands r')).2 ∧
      (m.after replies (applyMask lua k bands r)).1.isSome =
        (m.after replies (applyMask lua k bands r')).1.isSome := by
  unfold Modem.after applyMask
  cases planFor lua bands with
  | tell list =>
    refine ⟨rfl, ?_⟩
    exact (isSome_unlessOk _ _).trans (isSome_unlessOk _ _).symm
  | _ => exact ⟨rfl, rfl⟩

theorem applyAll_refusal (l : List (Kind × Option Json)) (r r' : Kind → Failure) :
    (m.after replies (applyAll lua (l.map fun e => (e.1, e.2, r e.1)))).2 =
      (m.after replies (applyAll lua (l.map fun e => (e.1, e.2, r' e.1)))).2 := by
  induction l generalizing m with
  | nil => rfl
  | cons e l ih =>
    obtain ⟨k, bands⟩ := e
    obtain ⟨hmodem, hfailed⟩ := applyMask_refusal lua replies m k bands (r k) (r' k)
    rw [List.map_cons, List.map_cons, after_applyAll_cons, after_applyAll_cons]
    cases h : (m.after replies (applyMask lua k bands (r k))).1 with
    | none =>
      rw [h] at hfailed
      rw [Option.isSome_eq_false_iff.mp hfailed.symm |> Option.isNone_iff_eq_none.mp, hmodem]
      exact ih
    | some f =>
      rw [h] at hfailed
      obtain ⟨f', h'⟩ := Option.isSome_iff_exists.mp hfailed.symm
      rw [h']
      exact hmodem

theorem told_refusal (r r' : Kind → Failure) :
    (m.after replies (applyMasks lua s data p r)).2 =
      (m.after replies (applyMasks lua s data p r')).2 := by
  unfold applyMasks
  split
  · exact applyAll_refusal [(.lte, _), (.nsa, _), (.sa, _)] r r'
  all_goals rfl

/-! ## What is stored -/

theorem get_storeBands {q : Package} (h : storeBands lua data p k = .ok q)
    (ho : ((given data k).filter Json.isTable).isSome → o ≠ k.option.toList) :
    q.get state o = p.get state o := by
  unfold storeBands at h
  split at h
  · rename_i b bs hgiven
    rw [hgiven] at ho
    obtain ⟨v, -, h⟩ := bind_eq_ok.mp h
    obtain rfl := Except.ok.inj h
    exact Package.get_set_of_ne (.inr (ho rfl))
  · rename_i hgiven
    rw [hgiven] at ho
    obtain rfl := Except.ok.inj h
    exact Package.get_unset_of_ne (.inr (ho rfl))
  · rename_i hgiven
    rw [hgiven] at ho
    obtain rfl := Except.ok.inj h
    exact Package.get_unset_of_ne (.inr (ho rfl))
  · obtain rfl := Except.ok.inj h
    rfl

theorem get_storeMode {mode : Option Bool} {o : Text} (ho : mode.isSome → o ≠ "band_mask_mode") :
    (storeMode mode p).get state o = p.get state o := by
  cases mode with
  | none => rfl
  | some block => exact Package.get_set_of_ne (.inr (ho rfl))

theorem get_storeEnabled {mask : Option Json} {o : Text}
    (ho : mask.isSome → o ≠ "band_mask_enabled") :
    (storeEnabled mask p).get state o = p.get state o := by
  cases mask with
  | none => rfl
  | some v => exact Package.get_set_of_ne (.inr (ho rfl))

theorem get_storeMask {q : Package} (h : storeMask lua data p = .ok q) {o : Text}
    (henabled : (maskGiven data).isSome → o ≠ "band_mask_enabled")
    (hmode : (modeGiven lua data).isSome → o ≠ "band_mask_mode")
    (hbands : ∀ k, ((given data k).filter Json.isTable).isSome → o ≠ k.option.toList) :
    q.get state o = p.get state o := by
  obtain ⟨p₁, h₁, h⟩ := bind_eq_ok.mp h
  obtain ⟨p₂, h₂, h₃⟩ := bind_eq_ok.mp h
  rw [get_storeBands h₃ (hbands .sa), get_storeBands h₂ (hbands .nsa), get_storeBands h₁ (hbands .lte),
    get_storeMode hmode, get_storeEnabled henabled]

theorem maskEnabled_stored (h : storeMask lua data p = .ok q) :
    maskEnabled data q = maskEnabled data p := by
  unfold maskEnabled
  split
  · rfl
  · rename_i hnone
    rw [get_storeMask h (by rw [hnone]; nofun) (fun _ => by decide) fun k _ => by cases k <;> decide]

theorem blockMode_stored (h : storeMask lua data p = .ok q) :
    blockMode lua data q = blockMode lua data p := by
  unfold blockMode
  split
  · rfl
  · rename_i hnone
    rw [get_storeMask h (fun _ => by decide) (by rw [hnone]; nofun) fun k _ => by cases k <;> decide]

theorem chosen_stored (h : storeMask lua data p = .ok q) (k : Kind) :
    chosen data q k = chosen data p k := by
  unfold chosen
  split
  · rfl
  · rename_i hnone
    rw [get_storeMask h (fun _ => by cases k <;> decide) (fun _ => by cases k <;> decide)]
    intro j hj hjk
    have hjk : j = k := by
      cases j <;> cases k <;> first | rfl | exact absurd hjk (by decide)
    rw [hjk, hnone] at hj
    exact nomatch hj

theorem selection_stored (h : storeMask lua data p = .ok q) (k : Kind) :
    selection data q k = selection data p k := by
  unfold selection
  rw [chosen_stored h]

theorem asked_stored (h : storeMask lua data p = .ok q) :
    Asked lua s data q k bands ↔ Asked lua s data p k bands := by
  unfold Asked unblocked
  rw [maskEnabled_stored h, blockMode_stored h, selection_stored h]

theorem empties_stored (h : storeMask lua data p = .ok q) :
    Empties lua s data q k ↔ Empties lua s data p k := by
  unfold Empties unblocked
  rw [blockMode_stored h, selection_stored h]

end

/-! ## The effect -/

/-- When `set_band_config` leaves a technology with the bands asked for: a mask leaves it some, or it
has none; without a mask its full list is the LTE one, or the command is lost and it has its full
list already. -/
def BandConfigReaches (lua : Lua) (s : Supported) (data : Json) (p : Package) (replies : Replies)
    (m : Modem) (k : Kind) : Prop :=
  if maskEnabled data p then Empties lua s data p k → m.bands k = []
  else if (replies (some k)).done then splitBandList s.lte = splitBandList (s.of k)
  else m.bands k = splitBandList (s.of k)

/-- When `set_sim_config` does. -/
def SimConfigReaches (lua : Lua) (s : Supported) (data : Json) (p : Package) (replies : Replies)
    (m : Modem) (k : Kind) : Prop :=
  if maskEnabled data p then Empties lua s data p k → m.bands k = []
  else (replies (some k)).done = false → m.bands k = splitBandList (s.of k)

section
variable {lua : Lua} {s : Supported} {args : Json} {p q : Package} {replies : Replies} {m : Modem}
  {script : Script (Option Failure)}

theorem method_spec {f : Json → Package → Script (Option Failure)}
    (h : method lua f args p = .ok (q, script)) :
    storeMask lua (dataOf args) p = .ok q ∧ script = f (dataOf args) q := by
  obtain ⟨-, -, h⟩ := bind_eq_ok.mp h
  obtain ⟨q', hstore, h⟩ := bind_eq_ok.mp h
  obtain ⟨rfl, rfl⟩ := Prod.mk.inj (Except.ok.inj h)
  exact ⟨hstore, rfl⟩

theorem setBandConfig_reaches (h : setBandConfig lua s args p = .ok (q, script))
    (hok : (m.after replies script).1 = none) (k : Kind) :
    Asked lua s (dataOf args) p k ((m.after replies script).2.bands k) ↔
      BandConfigReaches lua s (dataOf args) p replies m k := by
  obtain ⟨hstore, rfl⟩ := method_spec h
  unfold BandConfigReaches
  rw [← asked_stored hstore, ← maskEnabled_stored hstore, ← empties_stored hstore]
  cases henabled : maskEnabled (dataOf args) q with
  | true =>
    rw [tellBandConfig_enabled henabled] at hok ⊢
    exact asked_of_masks henabled hok k
  | false =>
    rw [tellBandConfig_disabled henabled, bands_tellAll]
    unfold Asked
    rw [henabled]
    simp only [Bool.false_eq_true, if_false]
    split_ifs
    · exact Iff.rfl
    · exact Iff.rfl

theorem setSimConfig_reaches (h : setSimConfig lua s args p = .ok (q, script))
    (hok : (m.after replies script).1 = none) (k : Kind) :
    Asked lua s (dataOf args) p k ((m.after replies script).2.bands k) ↔
      SimConfigReaches lua s (dataOf args) p replies m k := by
  obtain ⟨hstore, rfl⟩ := method_spec h
  have hmode : modeAccepted replies (networkPref lua (dataOf args)) = true := by
    by_contra hmode
    rw [after_tellSimConfig_rejected (Bool.not_eq_true _ ▸ hmode)] at hok
    exact nomatch hok
  unfold SimConfigReaches
  rw [← asked_stored hstore, ← maskEnabled_stored hstore, ← empties_stored hstore]
  cases henabled : maskEnabled (dataOf args) q with
  | true =>
    rw [after_tellSimConfig_enabled hmode henabled] at hok ⊢
    exact asked_of_masks henabled hok k
  | false =>
    rw [after_tellSimConfig_disabled hmode henabled, bands_tellAll]
    unfold Asked
    rw [henabled]
    simp only [Bool.false_eq_true, if_false]
    cases (replies (some k)).done with
    | true => simp
    | false => simp

theorem told_same (h : setBandConfig lua s args p = .ok (q, script))
    (h' : setSimConfig lua s args p = .ok (q', script'))
    (hmode : modeAccepted replies (networkPref lua (dataOf args)) = true) :
    (m.after replies script).2.told = (m.after replies script').2.told ↔
      maskEnabled (dataOf args) p = true ∨ s.lte = s.nr := by
  obtain ⟨hstore, rfl⟩ := method_spec h
  obtain ⟨hstore', rfl⟩ := method_spec h'
  obtain rfl := Except.ok.inj (hstore.symm.trans hstore')
  rw [← maskEnabled_stored hstore]
  cases henabled : maskEnabled (dataOf args) q with
  | true =>
    rw [tellBandConfig_enabled henabled, after_tellSimConfig_enabled hmode henabled]
    exact ⟨fun _ => .inl rfl, fun _ => congrArg Modem.told (told_refusal _ _)⟩
  | false =>
    rw [tellBandConfig_disabled henabled, after_tellSimConfig_disabled hmode henabled,
      told_tellAll, told_tellAll, List.append_cancel_left_eq]
    simp [Supported.of]

end

/-- The effect of a band mask: for each of the two methods the bands each technology is left with are
those asked for exactly under its condition, and the two tell the modem the same lists exactly if
there is a mask or the full lists do not differ. -/
theorem band_mask_effect (lua : Lua) (s : Supported) (args : Json) (p : Package)
    (replies : Replies) (m : Modem) :
    (∀ q script, setBandConfig lua s args p = .ok (q, script) →
      (m.after replies script).1 = none → ∀ k,
        (Asked lua s (dataOf args) p k ((m.after replies script).2.bands k) ↔
          BandConfigReaches lua s (dataOf args) p replies m k)) ∧
    (∀ q script, setSimConfig lua s args p = .ok (q, script) →
      (m.after replies script).1 = none → ∀ k,
        (Asked lua s (dataOf args) p k ((m.after replies script).2.bands k) ↔
          SimConfigReaches lua s (dataOf args) p replies m k)) ∧
    ∀ q script q' script', setBandConfig lua s args p = .ok (q, script) →
      setSimConfig lua s args p = .ok (q', script') →
      modeAccepted replies (networkPref lua (dataOf args)) = true →
        ((m.after replies script).2.told = (m.after replies script').2.told ↔
          maskEnabled (dataOf args) p = true ∨ s.lte = s.nr) :=
  ⟨fun _ _ h hok k => setBandConfig_reaches h hok k, fun _ _ h hok k => setSimConfig_reaches h hok k,
    fun _ _ _ _ h h' hmode => told_same h h' hmode⟩

def willing : Replies := fun _ => {}

def noBands : Modem := { bands := fun _ => [] }

def onlySome : Json :=
  .obj [("band_enable", .bool true), ("band_mask_mode", .str "only"),
    ("lte_bands", .arr [.num 3, .num 7]), ("nr_bands", .arr [.num 78]),
    ("sa_bands", .arr [.num 78])]

theorem band_mask_effect_only :
    ∃ q script, setBandConfig .decimal supported onlySome Package.empty = .ok (q, script) ∧
      (noBands.after willing script).1 = none ∧
      Asked .decimal supported onlySome Package.empty .lte
        ((noBands.after willing script).2.bands .lte) :=
  ⟨_, _, rfl, by decide, ((band_mask_effect .decimal supported onlySome Package.empty willing
    noBands).1 _ _ rfl (by decide) .lte).mpr fun h => absurd h (List.cons_ne_nil _ _)⟩

def unmasked : Json := .obj [("band_enable", .bool false)]

/-- `set_band_config` without a mask leaves 5G without its band 78, and `set_sim_config` tells another
list. -/
theorem band_mask_lost :
    ∃ q script q' script',
      setBandConfig .decimal supported unmasked Package.empty = .ok (q, script) ∧
      setSimConfig .decimal supported unmasked Package.empty = .ok (q', script') ∧
      (noBands.after willing script).1 = none ∧
      78 ∉ (noBands.after willing script).2.bands .sa ∧
      78 ∈ splitBandList supported.nr ∧
      (noBands.after willing script).2.told ≠ (noBands.after willing script').2.told :=
  ⟨_, _, _, _, rfl, rfl, rfl, by decide, by decide, by decide⟩

end GlXe3000.Cellular.Bands
