import GlXe3000.Lib.Text

/-! # Lists of words in a shell variable

A script collects words with `list="$list $word"`, asks for one with `case " $list " in
*" $word "*)` and goes through them with `for word in $list`. `spaced` is the variable after
collecting the words of a list; what the script then finds and visits are the words of that list. -/

namespace GlXe3000.Text

/-- The blanks of the default `IFS`. -/
def isIfs (c : Char) : Bool := c = ' ' || c = '\t' || c = '\n'

/-- What `$list` without quotes expands to, file name patterns apart. -/
def words (t : Text) : List Text := fields ' ' (t.map fun c => if isIfs c then ' ' else c)

def IsWord (w : Text) : Prop := w ≠ [] ∧ ∀ c ∈ w, isIfs c = false

/-- The variable that `list="$list $word"` builds, starting empty. -/
def spaced (ws : List Text) : Text := ws.flatMap (' ' :: ·)

theorem spaced_snoc (ws : List Text) (w : Text) : spaced (ws ++ [w]) = spaced ws ++ ' ' :: w := by
  simp [spaced]

theorem IsWord.not_mem (h : IsWord w) : ' ' ∉ w :=
  fun hmem => absurd (h.2 _ hmem) (by decide)

theorem pieces_spaced (h : ∀ w ∈ ws, IsWord w) : pieces ' ' (spaced ws) = [] :: ws := by
  induction ws using List.reverseRecOn with
  | nil => rfl
  | append_singleton ws w ih =>
    have hw := (h w (List.mem_append_right _ (List.mem_singleton_self _))).not_mem
    rw [spaced_snoc, pieces_append_cons, pieces_of_not_mem hw,
      ih fun v hv => h v (List.mem_append_left _ hv), List.cons_append]

theorem map_spaced (h : ∀ w ∈ ws, IsWord w) :
    (spaced ws).map (fun c => if isIfs c then ' ' else c) = spaced ws := by
  refine (List.map_congr_left fun c hc => ?_).trans (List.map_id _)
  obtain ⟨w, hw, hc⟩ := List.mem_flatMap.mp hc
  rcases List.mem_cons.mp hc with rfl | hc
  · rfl
  · exact if_neg (Bool.eq_false_iff.mp ((h w hw).2 c hc))

theorem words_spaced (hw : ∀ w ∈ ws, IsWord w) (hv : ∀ v ∈ vs, IsWord v) :
    words (spaced ws ++ ' ' :: spaced vs) = ws ++ vs := by
  have hkeep : ∀ us : List Text, (∀ u ∈ us, IsWord u) →
      us.filter (fun p => !p.isEmpty) = us := fun us hus =>
    List.filter_eq_self.mpr fun u hu => by simp [(hus u hu).1]
  unfold words fields
  rw [List.map_append, List.map_cons, map_spaced hw, map_spaced hv]
  change List.filter _ (pieces ' ' (spaced ws ++ ' ' :: spaced vs)) = _
  rw [pieces_append_cons, pieces_spaced hw, pieces_spaced hv, List.filter_append]
  exact congrArg₂ (· ++ ·) (hkeep ws hw) (hkeep vs hv)

/-- `t:gmatch("%S+")`. -/
def nonSpaces (t : Text) : List Text := fields ' ' (t.map fun c => if isSpace c then ' ' else c)

def NonSpace (w : Text) : Prop := w ≠ [] ∧ ∀ c ∈ w, isSpace c = false

instance : DecidablePred NonSpace := fun w =>
  have : Decidable (∀ c ∈ w, isSpace c = false) := List.decidableBAll _ w
  inferInstanceAs (Decidable (w ≠ [] ∧ ∀ c ∈ w, isSpace c = false))

theorem nonSpaces_append (hc : isSpace c = true) (t u : Text) :
    nonSpaces (t ++ c :: u) = nonSpaces t ++ nonSpaces u := by
  unfold nonSpaces fields
  rw [List.map_append, List.map_cons, if_pos hc, pieces_append_cons, List.filter_append]

theorem nonSpaces_word (h : NonSpace w) : nonSpaces w = [w] := by
  have hmap : w.map (fun c => if isSpace c then ' ' else c) = w := by
    refine (List.map_congr_left fun c hc => ?_).trans (List.map_id w)
    exact if_neg (Bool.eq_false_iff.1 (h.2 c hc))
  have hblank : ' ' ∉ w := fun hmem => absurd (h.2 _ hmem) (by decide)
  rw [nonSpaces, hmap, fields, pieces_of_not_mem hblank]
  simp [h.1]

/-- The words of a line are those it was made of. -/
theorem nonSpaces_intercalate (hc : isSpace c = true)
    (h : ∀ w ∈ ws, NonSpace w) : nonSpaces ([c].intercalate ws) = ws := by
  induction ws with
  | nil => rfl
  | cons w ws ih =>
    obtain ⟨hw, hws⟩ := List.forall_mem_cons.1 h
    cases ws with
    | nil =>
      rw [List.intercalate_singleton]
      exact nonSpaces_word hw
    | cons v ws =>
      rw [List.intercalate_cons_cons, List.append_assoc, List.singleton_append,
        nonSpaces_append hc, nonSpaces_word hw, ih hws, List.singleton_append]

theorem has_iff : has t needle = true ↔ ∃ a b, t = a ++ needle ++ b := by
  have hstart : ∀ t : Text, (strip needle t).isSome = true ↔ ∃ b, t = needle ++ b := fun t => by
    rw [Option.isSome_iff_exists]
    exact exists_congr fun b => strip_eq_some
  induction t with
  | nil =>
    rw [has, hstart]
    constructor
    · rintro ⟨b, hb⟩
      exact ⟨[], b, hb⟩
    · rintro ⟨a, b, h⟩
      refine ⟨[], ?_⟩
      simp_all
  | cons c t ih =>
    rw [has, Bool.or_eq_true, hstart]
    constructor
    · rintro (⟨b, hb⟩ | hlater)
      · exact ⟨[], b, hb⟩
      · obtain ⟨a, b, rfl⟩ := ih.mp hlater
        exact ⟨c :: a, b, rfl⟩
    · rintro ⟨a, b, h⟩
      cases a with
      | nil => exact .inl ⟨b, h⟩
      | cons d a => exact .inr (ih.mpr ⟨a, b, (List.cons.inj h).2⟩)

theorem cons_intercalate (c : Char) {ps : List Text} (h : ps ≠ []) :
    c :: [c].intercalate ps = ps.flatMap (c :: ·) := by
  induction ps with
  | nil => exact absurd rfl h
  | cons p ps ih =>
    cases ps with
    | nil => simp
    | cons q ps =>
      rw [List.intercalate_cons_cons, List.flatMap_cons, ← ih (List.cons_ne_nil _ _)]
      simp

theorem has_delimited (hw : c ∉ w) :
    has (c :: t ++ [c]) (c :: w ++ [c]) = true ↔ w ∈ pieces c t := by
  rw [has_iff]
  constructor
  · rintro ⟨a, b, h⟩
    have hends : pieces c (c :: t ++ [c]) = [] :: (pieces c t ++ [[]]) := by
      have hsplit := pieces_append_cons (c := c) [] (t ++ [c])
      rw [pieces_append_cons (c := c) t []] at hsplit
      exact hsplit
    have hparts : pieces c (a ++ (c :: w ++ [c]) ++ b) = pieces c a ++ w :: pieces c b := by
      rw [show a ++ (c :: w ++ [c]) ++ b = a ++ c :: (w ++ c :: b) by simp, pieces_append_cons,
        pieces_append hw]
    obtain ⟨p, pa, hpa⟩ := List.exists_cons_of_ne_nil (pieces_ne_nil c a)
    obtain ⟨pb, q, hpb⟩ := (List.eq_nil_or_concat (pieces c b)).resolve_left (pieces_ne_nil c b)
    -- The first and the last piece belong to the two delimiters.
    rw [← h, hends, hpa, hpb, List.concat_eq_append, List.cons_append, List.cons.injEq, ← List.cons_append,
      ← List.append_assoc] at hparts
    have hmid := (List.append_inj' hparts.2 rfl).1
    rw [hmid]
    exact List.mem_append_right _ List.mem_cons_self
  · intro hmem
    obtain ⟨ps, qs, hpq⟩ := List.append_of_mem hmem
    have hfront : c :: t = ps.flatMap (c :: ·) ++ (c :: w ++ qs.flatMap (c :: ·)) := by
      rw [← intercalate_pieces c t, cons_intercalate c (pieces_ne_nil c t), hpq,
        List.flatMap_append, List.flatMap_cons]
    have hback : ∃ b, qs.flatMap (c :: ·) ++ [c] = c :: b := by
      cases qs with
      | nil => exact ⟨[], rfl⟩
      | cons q qs => exact ⟨_, rfl⟩
    obtain ⟨b, hb⟩ := hback
    refine ⟨ps.flatMap (c :: ·), b, ?_⟩
    rw [hfront, List.append_assoc, List.append_assoc, hb]
    simp

theorem has_spaced (hws : ∀ w ∈ ws, IsWord w) (hvs : ∀ v ∈ vs, IsWord v) (hw : IsWord w) :
    has (' ' :: (spaced ws ++ ' ' :: spaced vs) ++ [' ']) (' ' :: w ++ [' ']) = true ↔
      w ∈ ws ++ vs := by
  rw [has_delimited hw.not_mem, pieces_append_cons, pieces_spaced hws, pieces_spaced hvs]
  simp [hw.1]

end GlXe3000.Text
