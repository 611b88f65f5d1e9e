import GlXe3000.Lib.Replace

/-! # Messages to the battery controller: `format_message` of `gl-mcu`

A table goes out as JSON in which quotes, colons, backslashes and slashes of the values take a
detour over the control bytes 4 to 1, so that the rewriting of the encoded text finds only the
structural ones. The last step undoes the four escapes one after the other. Undoing that of the
backslash can complete an escape of the slash that the encoder never wrote: a value comes out with
every `\u0001` of its own read as `/` (`unescaped_value`), and that is all that is lost
(`sentMembers_eq_iff`). -/

namespace GlXe3000.Mcu
open Text

def quote : Char := Char.ofNat 34

def control (n : Nat) : Char := Char.ofNat n

/-! ## The message -/

def substituted (v : Text) : Text :=
  gsub ['/'] [control 1] 0
    (gsub ['\\'] [control 2] 0 (gsub [':'] [control 3] 0 (gsub [quote] [control 4] 0 v)))

/-- A value of the table. `other` is the encoder's text for a number or a boolean. -/
inductive Value
  | text (t : Text)
  | other (t : Text)
  deriving DecidableEq

def Value.substituted : Value → Value
  | .text t => .text (Mcu.substituted t)
  | .other t => .other t

def hexDigit (n : Nat) : Char := if n < 10 then Char.ofNat (48 + n) else Char.ofNat (87 + n)

/-- The escape sequences of `cjson.encode`. -/
def escaped (c : Char) : Text :=
  if c = quote then ['\\', quote]
  else if c = '\\' then ['\\', '\\']
  else if c = '/' then ['\\', '/']
  else if c = control 8 then ['\\', 'b']
  else if c = control 9 then ['\\', 't']
  else if c = control 10 then ['\\', 'n']
  else if c = control 12 then ['\\', 'f']
  else if c = control 13 then ['\\', 'r']
  else if c.toNat < 32 ∨ c.toNat = 127 then
    ['\\', 'u', '0', '0', hexDigit (c.toNat / 16), hexDigit (c.toNat % 16)]
  else [c]

def encodeText (t : Text) : Text := quote :: (t.flatMap escaped ++ [quote])

def encodeValue : Value → Text
  | .text t => encodeText t
  | .other t => t

def encodeMembers : List (Text × Value) → Text
  | [] => []
  | [(k, v)] => encodeText k ++ ':' :: encodeValue v
  | (k, v) :: m :: ms => encodeText k ++ ':' :: (encodeValue v ++ ',' :: encodeMembers (m :: ms))

/-- `cjson.encode`, with the members in the order of the list. -/
def encode (ms : List (Text × Value)) : Text := '{' :: (encodeMembers ms ++ ['}'])

def rewritten (prev c next : Char) : Text :=
  if c = '{' ∨ c = '}' then [Char.ofNat (c.toNat - 100)]
  else if c = quote ∧ prev = '\\' ∧ next ≠ ' ' then [Char.ofNat (c.toNat - 30)]
  else if c = ':' then [':', ' ']
  else [c]

/-- The loop over the encoded text behind `prev`. Its last character becomes `}`. -/
def rewriteFrom : Char → Text → Text
  | _, [] => ['}']
  | _, [_] => ['}']
  | prev, c :: next :: t => rewritten prev c next ++ rewriteFrom c (next :: t)

def rewrite : Text → Text
  | [] => ['}']
  | c :: t => c :: rewriteFrom c t

/-- The escape sequence of the control byte with the digit `d`. -/
def escape (d : Char) : Text := ['\\', 'u', '0', '0', '0', d]

def unescaped (msg : Text) : Text :=
  gsub (escape '1') ['/'] 0
    (gsub (escape '2') ['\\'] 0 (gsub (escape '3') [':'] 0 (gsub (escape '4') [control 4] 0 msg)))

def formatMessage (t : List (Text × Value)) : Text :=
  unescaped (rewrite (encode (t.map fun m => (m.1, m.2.substituted))))

/-! ## The value of a member -/

def IsPrintable (c : Char) : Prop := 32 ≤ c.toNat ∧ c.toNat ≠ 127

instance (c : Char) : Decidable (IsPrintable c) := inferInstanceAs (Decidable (_ ∧ _))

def Printable (t : Text) : Prop := ∀ c ∈ t, IsPrintable c

instance (t : Text) : Decidable (Printable t) := List.decidableBAll _ t

/-- `{` and `}` leave as control bytes. -/
def brace (c : Char) : Char := if c = '{' ∨ c = '}' then Char.ofNat (c.toNat - 100) else c

/-- The code of a character of a value, with what stands for a quote, a colon and a backslash at a
given stage. -/
def code (four three two : Text) (c : Char) : Text :=
  if c = quote then four
  else if c = ':' then three
  else if c = '\\' then two
  else if c = '/' then escape '1'
  else [brace c]

def sent (c : Char) : Char := if c = quote then control 4 else brace c

def slashed (v : Text) : Text := gsub (escape '1') ['/'] 0 v

theorem control_not_printable : ∀ n < 32, ¬IsPrintable (control n) := by decide

theorem IsPrintable.ne_control (hc : IsPrintable c) (hn : n < 32) : c ≠ control n :=
  fun h => control_not_printable n hn (h ▸ hc)

theorem escape_ne_nil (d : Char) : escape d ≠ [] := List.cons_ne_nil _ _

theorem escaped_of_plain (hc : IsPrintable c) (hq : c ≠ quote) (hb : c ≠ '\\')
    (hs : c ≠ '/') : escaped c = [c] := by
  have hlow : ¬(c.toNat < 32 ∨ c.toNat = 127) := by
    rintro (h | h)
    · exact absurd hc.1 (Nat.not_le.mpr h)
    · exact hc.2 h
  rw [escaped, if_neg hq, if_neg hb, if_neg hs, if_neg (hc.ne_control (by decide)),
    if_neg (hc.ne_control (by decide)), if_neg (hc.ne_control (by decide)),
    if_neg (hc.ne_control (by decide)), if_neg (hc.ne_control (by decide)), if_neg hlow]

def substitute (c : Char) : Char :=
  if c = quote then control 4
  else if c = ':' then control 3
  else if c = '\\' then control 2
  else if c = '/' then control 1
  else c

theorem substituted_eq_map (v : Text) : substituted v = v.map substitute := by
  simp only [substituted, gsub_singleton, List.map_map]
  refine List.map_congr_left fun c _ => ?_
  simp only [Function.comp, substitute]
  by_cases hq : c = quote
  · subst hq; decide
  by_cases hc : c = ':'
  · subst hc; decide
  by_cases hb : c = '\\'
  · subst hb; decide
  by_cases hs : c = '/'
  · subst hs; decide
  simp only [hq, hc, hb, hs, if_false]

theorem encoded_value {v : Text} (hv : Printable v) :
    ((substituted v).flatMap escaped).map brace =
      v.flatMap (code (escape '4') (escape '3') (escape '2')) := by
  rw [substituted_eq_map, List.flatMap_map, List.map_flatMap]
  refine List.flatMap_congr fun c hc => ?_
  have hp := hv c hc
  by_cases hq : c = quote
  · subst hq; decide
  by_cases hc : c = ':'
  · subst hc; decide
  by_cases hb : c = '\\'
  · subst hb; decide
  by_cases hs : c = '/'
  · subst hs; decide
  simp only [code, substitute, hq, hc, hb, hs, if_false, escaped_of_plain hp hq hb hs,
    List.map_cons, List.map_nil]

theorem passes_escape (hde : d ≠ e) (he : e ≠ '\\') : Passes (escape d) (escape e) := by
  intro new t
  have hstrip : strip (escape d) (escape e ++ t) = none := by
    simp [escape, strip, hde]
  have htail : Passes (escape d) ['u', '0', '0', '0', e] :=
    .cons (by decide) (.cons (by decide) (.cons (by decide) (.cons (by decide) (.singleton _ he))))
  exact (gsub_cons hstrip).trans (congrArg ('\\' :: ·) (htail new t))

theorem brace_ne_backslash (hb : c ≠ '\\') : brace c ≠ '\\' := by
  unfold brace
  split_ifs with h
  · rcases h with rfl | rfl <;> decide
  · exact hb

theorem passes_brace (d : Char) (hb : c ≠ '\\') : Passes (escape d) [brace c] :=
  .singleton _ (brace_ne_backslash hb)

theorem unescaped_code (v : Text) :
    unescaped (v.flatMap (code (escape '4') (escape '3') (escape '2'))) =
      gsub (escape '1') ['/'] 0 (v.flatMap (code [control 4] [':'] ['\\'])) := by
  have hfour : gsub (escape '4') [control 4] 0
      (v.flatMap (code (escape '4') (escape '3') (escape '2'))) =
        v.flatMap (code [control 4] (escape '3') (escape '2')) := by
    refine gsub_flatMap (escape_ne_nil _) fun c _ => ?_
    unfold code
    split_ifs with hq hc hb hs
    · exact .inl ⟨rfl, rfl⟩
    · exact .inr ⟨rfl, passes_escape (by decide) (by decide)⟩
    · exact .inr ⟨rfl, passes_escape (by decide) (by decide)⟩
    · exact .inr ⟨rfl, passes_escape (by decide) (by decide)⟩
    · exact .inr ⟨rfl, passes_brace _ hb⟩
  have hthree : gsub (escape '3') [':'] 0
      (v.flatMap (code [control 4] (escape '3') (escape '2'))) =
        v.flatMap (code [control 4] [':'] (escape '2')) := by
    refine gsub_flatMap (escape_ne_nil _) fun c _ => ?_
    unfold code
    split_ifs with hq hc hb hs
    · exact .inr ⟨rfl, .singleton _ (by decide)⟩
    · exact .inl ⟨rfl, rfl⟩
    · exact .inr ⟨rfl, passes_escape (by decide) (by decide)⟩
    · exact .inr ⟨rfl, passes_escape (by decide) (by decide)⟩
    · exact .inr ⟨rfl, passes_brace _ hb⟩
  have htwo : gsub (escape '2') ['\\'] 0
      (v.flatMap (code [control 4] [':'] (escape '2'))) =
        v.flatMap (code [control 4] [':'] ['\\']) := by
    refine gsub_flatMap (escape_ne_nil _) fun c _ => ?_
    unfold code
    split_ifs with hq hc hb hs
    · exact .inr ⟨rfl, .singleton _ (by decide)⟩
    · exact .inr ⟨rfl, .singleton _ (by decide)⟩
    · exact .inl ⟨rfl, rfl⟩
    · exact .inr ⟨rfl, passes_escape (by decide) (by decide)⟩
    · exact .inr ⟨rfl, passes_brace _ hb⟩
  rw [unescaped, hfour, hthree, htwo]

theorem code_of_ne_slash (hs : c ≠ '/') : code [control 4] [':'] ['\\'] c = [sent c] := by
  by_cases hq : c = quote
  · subst hq; decide
  by_cases hc : c = ':'
  · subst hc; decide
  by_cases hb : c = '\\'
  · subst hb; decide
  rw [code, if_neg hq, if_neg hc, if_neg hb, if_neg hs, sent, if_neg hq]

theorem eq_of_sent_eq (ha : IsPrintable a) (h : sent c = a) : c = a := by
  unfold sent brace at h
  split_ifs at h with hq hbrace
  · exact absurd (h ▸ ha) (by decide)
  · rcases hbrace with rfl | rfl <;> exact absurd (h ▸ ha) (by decide)
  · exact h

theorem sent_inj (hc : IsPrintable c) (hd : IsPrintable d) (h : sent c = sent d) : c = d := by
  unfold sent brace at h
  split_ifs at h with hq hq' hb' hb hq' hb' hq' hb'
  · rw [hq, hq']
  · rcases hb' with rfl | rfl <;> exact absurd h (by decide)
  · exact absurd h.symm (hd.ne_control (by decide))
  · rcases hb with rfl | rfl <;> exact absurd h (by decide)
  · rcases hb with rfl | rfl <;> rcases hb' with rfl | rfl <;> revert h <;> decide
  · rcases hb with rfl | rfl
    · exact absurd h.symm (hd.ne_control (n := 23) (by decide))
    · exact absurd h.symm (hd.ne_control (n := 25) (by decide))
  · exact absurd h (hc.ne_control (by decide))
  · rcases hb' with rfl | rfl
    · exact absurd h (hc.ne_control (n := 23) (by decide))
    · exact absurd h (hc.ne_control (n := 25) (by decide))
  · exact h

theorem map_sent_inj {v w : Text} (hv : Printable v) (hw : Printable w) :
    v.map sent = w.map sent ↔ v = w := by
  refine ⟨fun h => ?_, fun h => h ▸ rfl⟩
  induction v generalizing w with
  | nil => exact (List.map_eq_nil_iff.mp h.symm).symm
  | cons c v ih =>
    cases w with
    | nil => exact absurd h (List.cons_ne_nil _ _)
    | cons d w =>
      obtain ⟨hcd, hrest⟩ := List.cons.inj h
      rw [sent_inj (hv c List.mem_cons_self) (hw d List.mem_cons_self) hcd,
        ih (fun e he => hv e (List.mem_cons_of_mem _ he))
          (fun e he => hw e (List.mem_cons_of_mem _ he)) hrest]

/-- The letters behind the backslash of an escape stand in the codes only where they stand in the
value. -/
theorem strip_code_eq_none {v : Text} (htag : Printable tag) (hb : '\\' ∉ tag)
    (h : strip tag v = none) : strip tag (v.flatMap (code [control 4] [':'] ['\\'])) = none := by
  induction tag generalizing v with
  | nil => cases h
  | cons a tag ih =>
    have ha := htag a List.mem_cons_self
    cases v with
    | nil => rfl
    | cons c v =>
      rw [List.flatMap_cons]
      by_cases hs : c = '/'
      · subst hs
        exact strip_cons_of_ne tag _ fun h => hb (h ▸ List.mem_cons_self)
      · rw [code_of_ne_slash hs, List.singleton_append, strip]
        rw [strip] at h
        split_ifs with hsent
        · have hac : a = c := (eq_of_sent_eq ha hsent.symm).symm
          rw [if_pos hac] at h
          exact ih (fun b hb => htag b (List.mem_cons_of_mem _ hb))
            (fun h => hb (List.mem_cons_of_mem _ h)) h
        · rfl

theorem gsub_code (v : Text) :
    gsub (escape '1') ['/'] 0 (v.flatMap (code [control 4] [':'] ['\\'])) =
      (slashed v).map sent := by
  -- by length, as an escape spelled out in the value is replaced at once
  induction hn : v.length using Nat.strongRecOn generalizing v with
  | ind n ih =>
    subst hn
    cases v with
    | nil => rfl
    | cons c v =>
      cases hstrip : strip (escape '1') (c :: v) with
      | some r =>
        have heq := strip_eq_some.mp hstrip
        have hshort : r.length < (c :: v).length := by
          rw [heq, List.length_append]
          exact Nat.lt_add_of_pos_left (by decide)
        have hcode : (escape '1').flatMap (code [control 4] [':'] ['\\']) = escape '1' := by
          decide
        have hslashed : slashed (escape '1' ++ r) = ['/'] ++ slashed r :=
          gsub_occurrence (escape_ne_nil _) r
        rw [heq, List.flatMap_append, hcode, gsub_occurrence (escape_ne_nil _),
          ih r.length hshort r rfl, hslashed]
        rfl
      | none =>
        have hrest := ih v.length (Nat.lt_succ_self _) v rfl
        have hslashed : slashed (c :: v) = c :: slashed v := gsub_cons hstrip
        rw [hslashed, List.map_cons, List.flatMap_cons]
        by_cases hs : c = '/'
        · subst hs
          have hcode : code [control 4] [':'] ['\\'] '/' = escape '1' := by decide
          rw [hcode, gsub_occurrence (escape_ne_nil _), hrest]
          rfl
        · have hnone : strip (escape '1')
              (sent c :: v.flatMap (code [control 4] [':'] ['\\'])) = none := by
            rw [escape, strip] at hstrip ⊢
            split_ifs with hsent
            · have hc : '\\' = c := (eq_of_sent_eq (by decide) hsent.symm).symm
              rw [if_pos hc] at hstrip
              exact strip_code_eq_none (by decide) (by decide) hstrip
            · rfl
          rw [code_of_ne_slash hs, List.singleton_append, gsub_cons hnone, hrest]

theorem unescaped_value (hv : Printable v) :
    unescaped (((substituted v).flatMap escaped).map brace) = (slashed v).map sent := by
  rw [encoded_value hv, unescaped_code, gsub_code]

theorem slashed_printable (hv : Printable v) : Printable (slashed v) := by
  intro c hc
  rcases mem_gsub hc with h | h
  · rw [List.mem_singleton.mp h]
    decide
  · exact hv c h

theorem quote_not_mem_sent (v : Text) : quote ∉ v.map sent := by
  intro h
  obtain ⟨c, -, hc⟩ := List.mem_map.mp h
  have hq : c = quote := eq_of_sent_eq (by decide) hc
  subst hq
  exact absurd hc (by decide)

/-! ## The rewritten text -/

/-- The rewriting of `x` between `prev` and `next`. -/
def rewriteRun (prev : Char) : Text → (next : Char) → Text
  | [], _ => []
  | c :: t, next => rewritten prev c (t.headD next) ++ rewriteRun c t next

theorem rewriteFrom_append (prev next : Char) (x y : Text) :
    rewriteFrom prev (x ++ next :: y) =
      rewriteRun prev x next ++ rewriteFrom (x.getLastD prev) (next :: y) := by
  induction x generalizing prev with
  | nil => rfl
  | cons c x ih =>
    have hlast : (c :: x).getLastD prev = x.getLastD c := by cases x <;> rfl
    rw [hlast, rewriteRun, List.append_assoc, ← ih c]
    cases x <;> rfl

theorem rewriteFrom_cons {y : Text} (hy : y ≠ []) :
    rewriteFrom prev (c :: y) = rewritten prev c (y.headD c) ++ rewriteFrom c y := by
  cases y with
  | nil => exact absurd rfl hy
  | cons d y => rfl

theorem rewriteRun_plain {x : Text} (h : ∀ c ∈ x, c ≠ quote ∧ c ≠ ':') (prev next : Char) :
    rewriteRun prev x next = x.map brace := by
  induction x generalizing prev with
  | nil => rfl
  | cons c x ih =>
    obtain ⟨hq, hc⟩ := h c List.mem_cons_self
    have hhere : rewritten prev c (x.headD next) = [brace c] := by
      unfold rewritten brace
      split_ifs with hb hq'
      · rfl
      · exact absurd hq'.1 hq
      · rfl
    rw [rewriteRun, hhere, ih (fun d hd => h d (List.mem_cons_of_mem _ hd))]
    rfl

theorem rewritten_quote (h : prev ≠ '\\') : rewritten prev quote next = [quote] := by
  rw [rewritten, if_neg (by decide), if_neg (fun hq => h hq.2.1), if_neg (by decide)]

theorem escaped_substitute (hp : IsPrintable c) :
    (∃ d, escaped (substitute c) = escape d ∧ d ≠ quote ∧ d ≠ ':' ∧ d ≠ '\\') ∨
      (escaped (substitute c) = [c] ∧ c ≠ quote ∧ c ≠ ':' ∧ c ≠ '\\') := by
  by_cases hq : c = quote
  · subst hq; exact .inl ⟨'4', by decide⟩
  by_cases hc : c = ':'
  · subst hc; exact .inl ⟨'3', by decide⟩
  by_cases hb : c = '\\'
  · subst hb; exact .inl ⟨'2', by decide⟩
  by_cases hs : c = '/'
  · subst hs; exact .inl ⟨'1', by decide⟩
  refine .inr ⟨?_, hq, hc, hb⟩
  rw [substitute, if_neg hq, if_neg hc, if_neg hb, if_neg hs, escaped_of_plain hp hq hb hs]

theorem escaped_substitute_free (hp : IsPrintable c) :
    (∀ d ∈ escaped (substitute c), d ≠ quote ∧ d ≠ ':') ∧
      ∀ prev, (escaped (substitute c)).getLastD prev ≠ '\\' := by
  rcases escaped_substitute hp with ⟨d, heq, hq, hc, hb⟩ | ⟨heq, hq, hc, hb⟩
  · rw [heq]
    refine ⟨fun e he => ?_, fun _ => hb⟩
    rcases List.mem_append.mp (show e ∈ ['\\', 'u', '0', '0', '0'] ++ [d] from he) with he | he
    · exact ⟨fun h => absurd (h ▸ he) (by decide), fun h => absurd (h ▸ he) (by decide)⟩
    · rw [List.mem_singleton.mp he]
      exact ⟨hq, hc⟩
  · rw [heq]
    refine ⟨fun d hd => ?_, fun _ => hb⟩
    rw [List.mem_singleton.mp hd]
    exact ⟨hq, hc⟩

theorem getLastD_append (a b : Text) (prev : Char) :
    (a ++ b).getLastD prev = b.getLastD (a.getLastD prev) := by
  cases b with
  | nil => rw [List.append_nil]; rfl
  | cons c b => simp [List.getLastD_eq_getLast?, List.getLast?_append]

theorem escaped_substituted (hv : Printable v) :
    (∀ c ∈ (substituted v).flatMap escaped, c ≠ quote ∧ c ≠ ':') ∧
      ∀ prev ≠ '\\', ((substituted v).flatMap escaped).getLastD prev ≠ '\\' := by
  rw [substituted_eq_map, List.flatMap_map]
  induction v with
  | nil => exact ⟨nofun, fun _ h => h⟩
  | cons c v ih =>
    obtain ⟨hfree, hlast⟩ := ih fun d hd => hv d (List.mem_cons_of_mem _ hd)
    obtain ⟨hfree', hlast'⟩ := escaped_substitute_free (hv c List.mem_cons_self)
    rw [List.flatMap_cons]
    constructor
    · intro d hd
      rcases List.mem_append.mp hd with hd | hd
      · exact hfree' d hd
      · exact hfree d hd
    · intro prev _
      rw [getLastD_append]
      exact hlast _ (hlast' prev)

/-! ## Whole messages -/

/-- A member with a string in front of `r`: the key's part depends on the key alone, the value's
part stands between two quotes that stay. -/
theorem rewriteFrom_member (hv : Printable v) (prev : Char) (k : Text) (hr : r ≠ []) :
    rewriteFrom prev (encodeText k ++ ':' :: (encodeText (substituted v) ++ r)) =
      rewriteRun prev (encodeText k ++ [':']) quote ++
        quote :: (((substituted v).flatMap escaped).map brace ++ quote :: rewriteFrom quote r) := by
  obtain ⟨hfree, hlast⟩ := escaped_substituted hv
  have hkey : (encodeText k ++ [':']).getLastD prev = ':' := by rw [getLastD_append]; rfl
  have hopen : ∀ y, y ≠ [] → rewriteFrom ':' (quote :: y) = quote :: rewriteFrom quote y :=
    fun y hy => by rw [rewriteFrom_cons hy, rewritten_quote (by decide)]; rfl
  have hclose : rewriteFrom (((substituted v).flatMap escaped).getLastD quote) (quote :: r) = _ :=
    rewriteFrom_cons hr
  rw [rewritten_quote (hlast quote (by decide))] at hclose
  calc rewriteFrom prev (encodeText k ++ ':' :: (encodeText (substituted v) ++ r))
    _ = rewriteFrom prev ((encodeText k ++ [':']) ++
          quote :: ((substituted v).flatMap escaped ++ quote :: r)) := by
        simp [encodeText]
    _ = rewriteRun prev (encodeText k ++ [':']) quote ++
          quote :: rewriteFrom quote ((substituted v).flatMap escaped ++ quote :: r) := by
        rw [rewriteFrom_append, hkey, hopen _ (by simp)]
    _ = _ := by
        rw [rewriteFrom_append, rewriteRun_plain hfree, hclose]
        rfl

def escapes : Text := ['\\', 'u', '0', '1', '2', '3', '4']

theorem unescaped_separated (hq : q ∉ escapes) (x y : Text) :
    unescaped (x ++ q :: y) = unescaped x ++ q :: unescaped y := by
  have hfree : ∀ {d : Char}, escape d ⊆ escapes → q ∉ escape d := fun hd h => hq (hd h)
  simp only [unescaped]
  rw [gsub_separated (escape_ne_nil _) (hfree (by decide)),
    gsub_separated (escape_ne_nil _) (hfree (by decide)),
    gsub_separated (escape_ne_nil _) (hfree (by decide)),
    gsub_separated (escape_ne_nil _) (hfree (by decide))]

def assigned (keys : List Text) (a : Text → Text) : List (Text × Value) :=
  keys.map fun k => (k, .text (a k))

/-- The members behind `prev`, as they leave. -/
def sentMembers (a : Text → Text) : Char → List Text → Text
  | _, [] => ['}']
  | prev, [k] =>
    unescaped (rewriteRun prev (encodeText k ++ [':']) quote) ++
      quote :: ((slashed (a k)).map sent ++ quote :: ['}'])
  | prev, k :: l :: ks =>
    unescaped (rewriteRun prev (encodeText k ++ [':']) quote) ++
      quote :: ((slashed (a k)).map sent ++ quote :: ',' :: sentMembers a ',' (l :: ks))

theorem unescaped_brace : unescaped ['}'] = ['}'] := by decide

section
variable {keys : List Text} {a b : Text → Text}

theorem unescaped_members (ha : ∀ k ∈ keys, Printable (a k)) (prev : Char) :
    unescaped (rewriteFrom prev (encodeMembers
      ((assigned keys a).map fun m => (m.1, m.2.substituted)) ++ ['}'])) =
        sentMembers a prev keys := by
  induction keys generalizing prev with
  | nil => exact unescaped_brace
  | cons k ks ih =>
    have hk := ha k List.mem_cons_self
    have hquote := unescaped_separated (q := quote) (by decide)
    cases ks with
    | nil =>
      have hmember := rewriteFrom_member hk prev k (r := ['}']) (by decide)
      have htext : encodeMembers ((assigned [k] a).map fun m => (m.1, m.2.substituted)) ++ ['}'] =
          encodeText k ++ ':' :: (encodeText (substituted (a k)) ++ ['}']) := by
        simp [assigned, encodeMembers, Value.substituted, encodeValue]
      rw [htext, hmember, hquote, hquote, unescaped_value hk]
      exact congrArg (fun t => _ ++ quote :: (_ ++ quote :: t)) unescaped_brace
    | cons l ks =>
      have ih := ih (fun m hm => ha m (List.mem_cons_of_mem _ hm)) ','
      have hcomma := unescaped_separated (q := ',') (by decide) []
      generalize hrest : encodeMembers
        ((assigned (l :: ks) a).map fun m => (m.1, m.2.substituted)) ++ ['}'] = rest at ih
      have hmember := rewriteFrom_member hk prev k (r := ',' :: rest) (by simp)
      have htext : encodeMembers
          ((assigned (k :: l :: ks) a).map fun m => (m.1, m.2.substituted)) ++ ['}'] =
            encodeText k ++ ':' :: (encodeText (substituted (a k)) ++ ',' :: rest) := by
        rw [← hrest]
        simp [assigned, encodeMembers, Value.substituted, encodeValue]
      have hsep : rewriteFrom quote (',' :: rest) = [] ++ ',' :: rewriteFrom ',' rest := by
        have hne : rest ≠ [] := by rw [← hrest]; simp
        exact rewriteFrom_cons hne
      rw [htext, hmember, hquote, hquote, unescaped_value hk, hsep, hcomma, ih]
      rfl

theorem formatMessage_assigned (ha : ∀ k ∈ keys, Printable (a k)) :
    formatMessage (assigned keys a) = '{' :: sentMembers a '{' keys := by
  have hbrace := unescaped_separated (q := '{') (by decide) []
  rw [← unescaped_members ha '{']
  exact hbrace _

theorem sentMembers_eq_iff (ha : ∀ k ∈ keys, Printable (a k))
    (hb : ∀ k ∈ keys, Printable (b k)) (prev : Char) :
    sentMembers a prev keys = sentMembers b prev keys ↔
      ∀ k ∈ keys, slashed (a k) = slashed (b k) := by
  -- the key's part is the same on both sides, the value ends at the next quote
  have hvalue : ∀ k ∈ keys, ∀ r s : Text,
      (slashed (a k)).map sent ++ quote :: r = (slashed (b k)).map sent ++ quote :: s ↔
        slashed (a k) = slashed (b k) ∧ r = s := fun k hk r s => by
    rw [append_cons_inj (quote_not_mem_sent _) (quote_not_mem_sent _),
      map_sent_inj (slashed_printable (ha k hk)) (slashed_printable (hb k hk))]
  induction keys generalizing prev with
  | nil => exact iff_of_true rfl nofun
  | cons k ks ih =>
    have hk := hvalue k List.mem_cons_self
    cases ks with
    | nil =>
      simp only [sentMembers, List.append_cancel_left_eq, List.cons.injEq, true_and,
        List.forall_mem_singleton]
      rw [hk, and_iff_left rfl]
    | cons l ks =>
      have hrest : sentMembers a ',' (l :: ks) = sentMembers b ',' (l :: ks) ↔
          ∀ m ∈ l :: ks, slashed (a m) = slashed (b m) :=
        ih (fun m hm => ha m (List.mem_cons_of_mem _ hm))
          (fun m hm => hb m (List.mem_cons_of_mem _ hm)) ','
          (fun m hm => hvalue m (List.mem_cons_of_mem _ hm))
      rw [List.forall_mem_cons, ← hrest]
      simp only [sentMembers, List.append_cancel_left_eq, List.cons.injEq, true_and]
      rw [hk, List.cons.injEq, eq_self_iff_true, true_and]

/-- Two assignments of printable strings leave as the same message if and only if they differ at
most in `\u0001` standing for `/`. Without that text in a value different assignments never do. -/
theorem formatMessage_unambiguous (keys : List Text) (a b : Text → Text)
    (ha : ∀ k ∈ keys, Printable (a k)) (hb : ∀ k ∈ keys, Printable (b k)) :
    (formatMessage (assigned keys a) = formatMessage (assigned keys b) ↔
      ∀ k ∈ keys, slashed (a k) = slashed (b k)) ∧
    ((∀ k ∈ keys, has (a k) (escape '1') = false ∧ has (b k) (escape '1') = false) →
      formatMessage (assigned keys a) = formatMessage (assigned keys b) →
        ∀ k ∈ keys, a k = b k) := by
  have hiff : formatMessage (assigned keys a) = formatMessage (assigned keys b) ↔
      ∀ k ∈ keys, slashed (a k) = slashed (b k) := by
    rw [formatMessage_assigned ha, formatMessage_assigned hb, List.cons.injEq, eq_self_iff_true,
      true_and, sentMembers_eq_iff ha hb]
  refine ⟨hiff, fun hfree h k hk => ?_⟩
  have heq := hiff.mp h k hk
  rwa [slashed, slashed, gsub_of_not_has (hfree k hk).1, gsub_of_not_has (hfree k hk).2] at heq

end

theorem formatMessage_unambiguous_paths :
    formatMessage (assigned ["url"] fun _ => "a:/\\") ≠
      formatMessage (assigned ["url"] fun _ => "a:\\/") := by
  intro h
  have := (formatMessage_unambiguous ["url"] (fun _ => "a:/\\")
    (fun _ => "a:\\/") (by decide) (by decide)).2 (by decide) h
  exact absurd (this _ List.mem_cons_self) (by decide)

/-- An escape of the slash spelled out in a value, and the slash. -/
theorem spelled_slash_collides :
    formatMessage (assigned ["url"] fun _ => "\\u0001") =
        formatMessage (assigned ["url"] fun _ => "/") ∧
      Printable "\\u0001" ∧ Printable "/" ∧
      "\\u0001" ≠ "/" := by
  decide

end GlXe3000.Mcu
