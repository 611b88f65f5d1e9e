import GlXe3000.Lib.Text

/-! # The fields of a reply

`split_csv`, `csv_fields` and `all_matches` of `gloui/at.lua`. `gl-cellular-atd` cannot require that
module and has the same code once more. -/

namespace GlXe3000.Cellular
open Text

def quote : Char := Char.ofNat 34

/-- `split_csv` from a position on. The first argument bounds the number of fields still to come. -/
def splitFrom : Nat → Text → List Text
  | 0, _ => []
  | _ + 1, [] => [[]]
  | n + 1, c :: t =>
    if c = quote then
      match cut quote t with
      -- The closing quote and whatever follows it, which should be a comma.
      | some (field, _ :: rest) => field :: splitFrom n rest
      | some (field, []) => [field]
      -- Without a closing quote the last character is taken for one.
      | none => [t.dropLast]
    else
      match cut ',' (c :: t) with
      | some (field, rest) => field :: splitFrom n rest
      | none => [c :: t]

def splitCsv (s : Text) : List Text := splitFrom (s.length + 1) s

/-- `resp:gmatch("[^\r\n]+")`. -/
def replyLines (resp : Text) : List Text :=
  fields '\n' (resp.map fun c => if c = '\r' then '\n' else c)

/-- `line:match("^tag:%s*(.+)$")`: the payload is never empty, so where only blanks follow it is the
last of them. -/
def payload (tag line : Text) : Option Text :=
  (strip (tag ++ [':']) line).bind fun rest =>
    match rest.dropWhile isSpace with
    | [] => rest.getLast?.map fun c => [c]
    | c :: t => some (c :: t)

def csvFields (resp tag : Text) : Option (List Text) :=
  ((replyLines resp).findSome? (payload tag)).map splitCsv

def allMatches (resp tag : Text) : List (List Text) :=
  ((replyLines resp).filterMap (payload tag)).map splitCsv

/-! ## The lines of a reply -/

def IsEnd (c : Char) : Prop := c = '\r' ∨ c = '\n'

def IsLine (t : Text) : Prop := t ≠ [] ∧ ∀ c ∈ t, ¬IsEnd c

instance : DecidablePred IsEnd := fun c => inferInstanceAs (Decidable (c = '\r' ∨ c = '\n'))

instance : DecidablePred IsLine := fun t =>
  have : Decidable (∀ c ∈ t, ¬IsEnd c) := List.decidableBAll _ t
  inferInstanceAs (Decidable (t ≠ [] ∧ ∀ c ∈ t, ¬IsEnd c))

theorem replyLines_append (hc : IsEnd c) (t u : Text) :
    replyLines (t ++ c :: u) = replyLines t ++ replyLines u := by
  have hend : (if c = '\r' then '\n' else c) = '\n' := by
    rcases hc with rfl | rfl <;> rfl
  unfold replyLines fields
  rw [List.map_append, List.map_cons, hend, pieces_append_cons, List.filter_append]

theorem replyLines_nil : replyLines [] = [] := rfl

theorem replyLines_line (h : IsLine t) : replyLines t = [t] := by
  have hmap : t.map (fun c => if c = '\r' then '\n' else c) = t := by
    refine (List.map_congr_left fun c hc => ?_).trans (List.map_id t)
    exact if_neg fun (heq : c = '\r') => h.2 c hc (.inl heq)
  unfold replyLines fields
  rw [hmap, pieces_of_not_mem fun hmem => h.2 _ hmem (.inr rfl), List.filter_singleton]
  obtain ⟨hne, -⟩ := h
  cases t with
  | nil => exact absurd rfl hne
  | cons c t => rfl

theorem isLine_of_mem (h : line ∈ replyLines t) : IsLine line := by
  obtain ⟨hmem, hne⟩ := List.mem_filter.mp h
  obtain ⟨hn, hchars⟩ := of_mem_pieces hmem
  refine ⟨by simpa using hne, fun c hc hend => ?_⟩
  rcases hend with rfl | rfl
  · obtain ⟨d, -, hd⟩ := List.mem_map.mp (hchars _ hc)
    split_ifs at hd with hdr
    · exact nomatch hd
    · exact hdr hd
  · exact hn hc

/-! ## A line from its fields -/

theorem cut_length {t b : Text} (h : cut c t = some (a, b)) : b.length < t.length := by
  obtain ⟨rfl, -⟩ := cut_eq_some.mp h
  simp only [List.length_append, List.length_cons]
  omega

theorem cut_eq_none (h : c ∉ t) : cut c t = none := by
  rw [Option.eq_none_iff_forall_ne_some]
  rintro ⟨a, b⟩ hcut
  obtain ⟨heq, -⟩ := cut_eq_some.mp hcut
  exact h (heq ▸ by simp)

theorem splitFrom_eq {t : Text} (hn : t.length < n) (hm : t.length < m) :
    splitFrom n t = splitFrom m t := by
  induction n generalizing m t with
  | zero => exact absurd hn (Nat.not_lt_zero _)
  | succ n ih =>
    obtain ⟨m, rfl⟩ : ∃ k, m = k + 1 := ⟨m - 1, by omega⟩
    cases t with
    | nil => rfl
    | cons c t =>
      simp only [List.length_cons] at hn hm
      unfold splitFrom
      split_ifs
      · cases hcut : cut quote t with
        | none => rfl
        | some r =>
          obtain ⟨field, rest⟩ := r
          have hlength := cut_length hcut
          cases rest with
          | nil => rfl
          | cons d rest =>
            simp only [List.length_cons] at hlength
            exact congrArg (field :: ·) (ih (by omega) (by omega))
      · cases hcut : cut ',' (c :: t) with
        | none => rfl
        | some r =>
          have hlength := cut_length hcut
          simp only [List.length_cons] at hlength
          exact congrArg (r.1 :: ·) (ih (by omega) (by omega))

theorem splitCsv_quoted (h : quote ∉ field) :
    splitCsv (quote :: field ++ quote :: c :: rest) = field :: splitCsv rest := by
  have hcut : cut quote (field ++ quote :: c :: rest) = some (field, c :: rest) :=
    cut_eq_some.mpr ⟨rfl, h⟩
  unfold splitCsv
  rw [List.cons_append, List.length_cons, splitFrom, if_pos rfl, hcut]
  refine congrArg (field :: ·) (splitFrom_eq ?_ (Nat.lt_succ_self _))
  simp only [List.length_append, List.length_cons]
  omega

theorem splitCsv_plain {field : Text} (hquote : field.head? ≠ some quote)
    (hcomma : ',' ∉ field) : splitCsv (field ++ ',' :: rest) = field :: splitCsv rest := by
  have hcut : cut ',' (field ++ ',' :: rest) = some (field, rest) := cut_eq_some.mpr ⟨rfl, hcomma⟩
  have hlength : rest.length < (field ++ ',' :: rest).length := cut_length hcut
  have hhead : ∀ c t, field ++ ',' :: rest = c :: t → c ≠ quote := by
    intro c t heq hc
    cases field with
    | nil =>
      rw [List.nil_append, List.cons.injEq] at heq
      exact absurd (heq.1.trans hc) (by decide)
    | cons d field =>
      rw [List.cons_append, List.cons.injEq] at heq
      exact hquote (congrArg some (heq.1.trans hc))
  unfold splitCsv
  cases hline : field ++ ',' :: rest with
  | nil => exact absurd hline (by simp)
  | cons c t =>
    rw [hline] at hcut hlength
    rw [splitFrom, if_neg (hhead c t hline), hcut]
    exact congrArg (field :: ·) (splitFrom_eq hlength (Nat.lt_succ_self _))

theorem splitCsv_last {field : Text} (hquote : field.head? ≠ some quote) (hcomma : ',' ∉ field) :
    splitCsv field = [field] := by
  unfold splitCsv
  cases field with
  | nil => rfl
  | cons c t =>
    have hc : c ≠ quote := fun hc => hquote (congrArg some hc)
    rw [List.length_cons, splitFrom, if_neg hc, cut_eq_none hcomma]

theorem splitCsv_open {t : Text} (h : quote ∉ t) : splitCsv (quote :: t) = [t.dropLast] := by
  rw [splitCsv, List.length_cons, splitFrom, if_pos rfl, cut_eq_none h]

theorem splitCsv_closed (h : quote ∉ field) : splitCsv (quote :: field ++ [quote]) = [field] := by
  rw [splitCsv, List.cons_append, List.length_cons, splitFrom, if_pos rfl,
    show cut quote (field ++ [quote]) = some (field, []) from cut_eq_some.mpr ⟨rfl, h⟩]

inductive Field
  | quoted (value : Text) (h : quote ∉ value)
  | plain (value : Text) (hquote : value.head? ≠ some quote) (hcomma : ',' ∉ value)

namespace Field

def value : Field → Text
  | quoted t _ => t
  | plain t _ _ => t

def render : Field → Text
  | quoted t _ => quote :: t ++ [quote]
  | plain t _ _ => t

end Field

/-- The fields of a line are those it was made of. -/
theorem splitCsv_render {fs : List Field} (hne : fs ≠ []) :
    splitCsv ([','].intercalate (fs.map Field.render)) = fs.map Field.value := by
  induction fs with
  | nil => exact absurd rfl hne
  | cons f fs ih =>
    cases fs with
    | nil =>
      rw [List.map_singleton, List.intercalate_singleton]
      cases f with
      | quoted t h => exact splitCsv_closed h
      | plain t hquote hcomma => exact splitCsv_last hquote hcomma
    | cons g fs =>
      have ih := congrArg (f.value :: ·) (ih (List.cons_ne_nil _ _))
      rw [List.map_cons, List.map_cons, List.intercalate_cons_cons, List.append_assoc,
        List.singleton_append]
      refine Eq.trans ?_ ih
      cases f with
      | quoted t h =>
        rw [Field.render, List.append_assoc]
        exact splitCsv_quoted h
      | plain t hquote hcomma => exact splitCsv_plain hquote hcomma

/-- Fields without quotes and commas are the fields of their line. -/
theorem splitCsv_intercalate (hne : fs ≠ [])
    (h : ∀ f ∈ fs, quote ∉ f ∧ ',' ∉ f) : splitCsv ([','].intercalate fs) = fs := by
  have hplain : ∀ f ∈ fs, f.head? ≠ some quote ∧ ',' ∉ f :=
    fun f hf => ⟨fun hhead => (h f hf).1 (List.mem_of_mem_head? hhead), (h f hf).2⟩
  have hsplit := @splitCsv_render (fs.attach.map fun f =>
    .plain f.1 (hplain f.1 f.2).1 (hplain f.1 f.2).2) (by simpa using hne)
  simpa [List.map_map, Function.comp_def, Field.render, Field.value] using hsplit

/-! ## What is lost of other lines -/

/-- A text is read field by field, whatever it is. -/
theorem csv_induction {P : Text → Prop}
    (last : ∀ field, field.head? ≠ some quote → ',' ∉ field → P field)
    (plain : ∀ field rest, field.head? ≠ some quote → ',' ∉ field → P rest →
      P (field ++ ',' :: rest))
    (unclosed : ∀ t, quote ∉ t → P (quote :: t))
    (closed : ∀ field, quote ∉ field → P (quote :: field ++ [quote]))
    (quoted : ∀ field c rest, quote ∉ field → P rest → P (quote :: field ++ quote :: c :: rest))
    (s : Text) : P s := by
  induction h : s.length using Nat.strong_induction_on generalizing s with
  | _ n ih =>
    subst h
    by_cases hhead : s.head? = some quote
    · obtain ⟨t, rfl⟩ : ∃ t, s = quote :: t := ⟨s.tail, List.eq_cons_of_mem_head? hhead⟩
      by_cases ht : quote ∈ t
      · obtain ⟨field, rest, rfl, hfield⟩ := List.eq_append_cons_of_mem ht
        cases rest with
        | nil => exact closed field hfield
        | cons c rest => exact quoted field c rest hfield (ih _ (by simp; omega) rest rfl)
      · exact unclosed t ht
    · by_cases hcomma : ',' ∈ s
      · obtain ⟨field, rest, rfl, hfield⟩ := List.eq_append_cons_of_mem hcomma
        refine plain field rest (fun h => hhead ?_) hfield (ih _ (by simp; omega) rest rfl)
        rw [List.head?_append, h, Option.some_or]
      · exact last s hhead hcomma

def content (t : Text) : Text := t.filter fun c => !(c == ',' || c == quote)

@[simp] theorem content_nil : content [] = [] := rfl
@[simp] theorem content_append (t u : Text) : content (t ++ u) = content t ++ content u :=
  List.filter_append ..
@[simp] theorem content_comma (t : Text) : content (',' :: t) = content t := rfl
@[simp] theorem content_quote (t : Text) : content (quote :: t) = content t := rfl

theorem content_cons (c : Char) (t : Text) : content (c :: t) = content [c] ++ content t :=
  content_append [c] t

theorem content_singleton : content [c] = [] ↔ c = ',' ∨ c = quote := by
  by_cases hc : c = ',' <;> simp [content, List.filter_cons, hc]

/-- A character is lost only as the last one of a text with an open quote, or after a quote. -/
inductive Closed : Text → Prop
  | last {field : Text} : field.head? ≠ some quote → ',' ∉ field → Closed field
  | plain {field rest : Text} : field.head? ≠ some quote → ',' ∉ field → Closed rest →
    Closed (field ++ ',' :: rest)
  | unclosed {t : Text} : quote ∉ t → (∀ c, t.getLast? = some c → c = ',') → Closed (quote :: t)
  | closed {field : Text} : quote ∉ field → Closed (quote :: field ++ [quote])
  | quoted {field rest : Text} {c : Char} : quote ∉ field → c = ',' ∨ c = quote → Closed rest →
    Closed (quote :: field ++ quote :: c :: rest)

theorem content_sublist (s : Text) : (content (splitCsv s).flatten).Sublist (content s) := by
  induction s using csv_induction with
  | last field hhead hcomma => simp [splitCsv_last hhead hcomma]
  | plain field rest hhead hcomma ih =>
    simpa [splitCsv_plain hhead hcomma] using ih
  | unclosed t ht =>
    rw [splitCsv_open ht, List.flatten_singleton, content_quote]
    exact (List.dropLast_sublist t).filter _
  | closed field h =>
    rw [splitCsv_closed h]
    simp
  | quoted field c rest h ih =>
    rw [splitCsv_quoted h, List.flatten_cons, content_append, content_append, content_quote,
      content_quote, content_cons c rest]
    exact (List.Sublist.refl _).append (ih.trans (List.sublist_append_right _ _))

/-- A line of fields is read back as they are, and of any other text exactly those lose nothing but
separators and quotes whose quotes are closed and followed by a comma. -/
theorem split_csv_iff (fs : List Field) (s : Text) :
    (fs ≠ [] → splitCsv ([','].intercalate (fs.map Field.render)) = fs.map Field.value) ∧
      (content (splitCsv s).flatten = content s ↔ Closed s) := by
  refine ⟨splitCsv_render, fun h => ?_, fun h => ?_⟩
  · induction s using csv_induction with
    | last field hhead hcomma => exact .last hhead hcomma
    | plain field rest hhead hcomma ih =>
      refine .plain hhead hcomma (ih ?_)
      simpa [splitCsv_plain hhead hcomma] using h
    | unclosed t ht =>
      refine .unclosed ht fun c hc => ?_
      obtain ⟨t, rfl⟩ := List.getLast?_eq_some_iff.mp hc
      have hlost : content [c] = [] := by simpa [splitCsv_open ht] using h
      exact (content_singleton.mp hlost).resolve_right fun hq => ht (by simp [hq])
    | closed field hfield => exact .closed hfield
    | quoted field c rest hfield ih =>
      have hrest : content (splitCsv rest).flatten = content [c] ++ content rest := by
        rw [splitCsv_quoted hfield, List.flatten_cons, content_append, content_append,
          content_quote, content_quote, content_cons c rest] at h
        exact List.append_cancel_left h
      have hlength := (content_sublist rest).length_le
      rw [hrest, List.length_append] at hlength
      have hlost : content [c] = [] := List.eq_nil_of_length_eq_zero (by omega)
      rw [hlost] at hrest
      exact .quoted hfield (content_singleton.mp hlost) (ih hrest)
  · induction h with
    | last hhead hcomma => simp [splitCsv_last hhead hcomma]
    | plain hhead hcomma _ ih => simp [splitCsv_plain hhead hcomma, ih]
    | @unclosed t ht hlast =>
      rw [splitCsv_open ht, List.flatten_singleton, content_quote]
      obtain rfl | ⟨t, c, rfl⟩ := List.eq_nil_or_concat t
      · rfl
      · rw [hlast c (by simp)]
        simp
    | closed hfield =>
      rw [splitCsv_closed hfield]
      simp
    | quoted hfield hc _ ih =>
      rw [splitCsv_quoted hfield, List.flatten_cons, content_append, ih, content_append,
        content_quote, content_quote, content_cons, content_singleton.mpr hc, List.nil_append]

/-- The last character after an open quote is lost, and so is one that follows a closed one. -/
theorem characters_lost :
    content (splitCsv ",\"ab".toList).flatten ≠ content ",\"ab".toList ∧
      content (splitCsv "\"a\"b,c".toList).flatten ≠ content "\"a\"b,c".toList := by
  decide

end GlXe3000.Cellular
