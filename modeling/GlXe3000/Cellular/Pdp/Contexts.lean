import GlXe3000.Lib.Ranking
import GlXe3000.Lib.Words
import GlXe3000.Cellular.Csv

/-! # The contexts of an APN

The watchdog (`pdp_cids_for_apn` of `gl-cellular-boot-redial`) and the dialer
(`_qcm_pdp_cids_for_apn` of `qcm.sh`) each have a copy of the code that finds the contexts of an APN
in the reply to `AT+CGDCONT?`. Both cut a line at its commas with parameter expansions and collect
the ids in two shell variables; the copies differ in what they do with an id they have already seen
and with an unset PDP type. -/

namespace GlXe3000.Cellular.Pdp
open Text Ranking

/-! ## The two copies -/

/-- `${t%%c*}`. -/
def before (c : Char) (t : Text) : Text := ((cut c t).map Prod.fst).getD t

/-- `${t#*c}`. -/
def after (c : Char) (t : Text) : Text := ((cut c t).map Prod.snd).getD t

/-- `${t#\"}` and then `${t%\"}`. -/
def unquote (t : Text) : Text :=
  let t := (strip [quote] t).getD t
  if t.getLast? = some quote then t.dropLast else t

def tag : Text := "+CGDCONT:"

structure Parsed where
  cid : Text
  ptype : Text
  apn : Text
  deriving DecidableEq

/-- The body of `case "$line" in '+CGDCONT:'*)` up to the comparison. -/
def parse (line : Text) : Option Parsed :=
  (strip tag line).map fun _ =>
    let rest := after ':' line
    let rest := (strip [' '] rest).getD rest
    { cid := before ',' rest
      ptype := unquote (before ',' (after ',' rest))
      apn := unquote (before ',' (after ',' (after ',' rest))) }

/-- The variables `exact` and `other`. -/
structure Found where
  exact : Text
  other : Text
  deriving DecidableEq

namespace Found

def addExact (f : Found) (cid : Text) : Found := { f with exact := f.exact ++ ' ' :: cid }

def addOther (f : Found) (cid : Text) : Found := { f with other := f.other ++ ' ' :: cid }

/-- `for cid in $exact $other; do echo "$cid"; done`. -/
def cids (f : Found) : List Text := words (f.exact ++ ' ' :: f.other)

/-- `case " $exact $other " in *" $cid "*)`. -/
def lists (f : Found) (cid : Text) : Bool :=
  has (' ' :: (f.exact ++ ' ' :: f.other) ++ [' ']) (' ' :: cid ++ [' '])

end Found

/-- The loop body of `pdp_cids_for_apn`. -/
def watchdogLine (configuredApn wantType : Text) (f : Found) (line : Text) : Found :=
  match parse line with
  | none => f
  | some c =>
    if c.apn = configuredApn then
      if wantType ≠ [] ∧ c.ptype = wantType then f.addExact c.cid else f.addOther c.cid
    else f

/-- `pdp_cids_for_apn`: `wantType` is what `configured_pdp_type` says. -/
def pdpCidsForApn (configuredApn wantType resp : Text) : List Text :=
  if configuredApn ≠ [] ∧ resp ≠ [] then
    ((pieces '\n' resp).foldl (watchdogLine configuredApn wantType) ⟨[], []⟩).cids
  else []

/-- The loop body of `_qcm_pdp_cids_for_apn`. -/
def dialerLine (wantApn wantType : Text) (f : Found) (line : Text) : Found :=
  match parse line with
  | none => f
  | some c =>
    if c.apn = wantApn then
      if f.lists c.cid then f
      else if wantType = [] ∨ c.ptype = wantType then f.addExact c.cid
      else f.addOther c.cid
    else f

def qcmPdpCidsForApn (wantApn wantType resp : Text) : List Text :=
  if wantApn = [] then []
  else if resp = [] then []
  else ((pieces '\n' resp).foldl (dialerLine wantApn wantType) ⟨[], []⟩).cids

/-! ## What the modem says -/

structure Context where
  cid : Nat
  type : Text
  apn : Text
  more : Option Text
  type_line : '\n' ∉ type
  apn_line : '\n' ∉ apn
  more_line : ∀ t ∈ more, '\n' ∉ t

namespace Context

def id (c : Context) : Text := Nat.toDigits 10 c.cid

def tail (c : Context) : Text := (c.more.map (',' :: ·)).getD []

/-- `+CGDCONT: <cid>,"<PDP_type>","<APN>"[,...]`. -/
def line (c : Context) : Text :=
  tag ++ ' ' :: (c.id ++ ',' :: (quote :: c.type ++ [quote] ++ ',' ::
    (quote :: c.apn ++ [quote] ++ c.tail)))

def NoComma (c : Context) : Prop := ',' ∉ c.type ∧ ',' ∉ c.apn

instance : DecidablePred NoComma := fun c => inferInstanceAs (Decidable (',' ∉ c.type ∧ ',' ∉ c.apn))

end Context

inductive Line
  | context (c : Context)
  /-- The echo, `OK`, an unsolicited code. -/
  | other (t : Text) (noTag : strip tag t = none) (noEnd : '\n' ∉ t)

namespace Line

def text : Line → Text
  | context c => c.line
  | other t _ _ => t

def context? : Line → Option Context
  | context c => some c
  | other _ _ _ => none

end Line

def reply (ls : List Line) : Text := ['\n'].intercalate (ls.map Line.text)

def matching (apn : Text) (ls : List Line) : List Context :=
  (ls.filterMap Line.context?).filter fun c => c.apn = apn

/-! ## Reading a line back -/

theorem before_append (h : c ∉ t) : before c (t ++ c :: u) = t := by
  rw [before, cut_append h]
  rfl

theorem after_append (h : c ∉ t) : after c (t ++ c :: u) = u := by
  rw [after, cut_append h]
  rfl

theorem unquote_quoted (t : Text) : unquote (quote :: t ++ [quote]) = t := by
  simp [unquote, strip]

theorem isWord_id (c : Context) : IsWord c.id := by
  refine ⟨Nat.toDigits_ne_nil, fun d hd => ?_⟩
  have hdigit := isDigit_of_mem_toDigits hd
  by_contra hblank
  simp only [isIfs, Bool.not_eq_false, Bool.or_eq_true, decide_eq_true_eq] at hblank
  rcases hblank with (rfl | rfl) | rfl
  all_goals exact absurd hdigit (by decide)

theorem comma_not_mem_quoted (h : ',' ∉ t) : ',' ∉ quote :: t ++ [quote] := by
  have hquote : ',' ≠ quote := by decide
  simp [hquote, h]

theorem before_tail {c : Context} (h : c.NoComma) :
    before ',' (quote :: c.apn ++ [quote] ++ c.tail) = quote :: c.apn ++ [quote] := by
  have hcomma := comma_not_mem_quoted h.2
  unfold Context.tail
  cases c.more with
  | none =>
    have hcut : cut ',' (quote :: c.apn ++ [quote]) = none := by
      cases hc : cut ',' (quote :: c.apn ++ [quote]) with
      | none => rfl
      | some r =>
        rw [(cut_eq_some (a := r.1) (b := r.2).mp hc).1] at hcomma
        simp at hcomma
    rw [Option.map_none, Option.getD_none, List.append_nil, before, hcut]
    rfl
  | some t => exact before_append hcomma

theorem parse_line {c : Context} (h : c.NoComma) : parse c.line = some ⟨c.id, c.type, c.apn⟩ := by
  have hid : ',' ∉ c.id := not_mem_toDigits (by decide)
  have hrest : after ':' c.line = ' ' :: (c.id ++ ',' :: (quote :: c.type ++ [quote] ++ ',' ::
      (quote :: c.apn ++ [quote] ++ c.tail))) :=
    after_append (t := "+CGDCONT") (by decide)
  unfold parse
  rw [Context.line, strip_append, ← Context.line, Option.map_some, hrest]
  simp only [strip, if_true, Option.getD_some, before_append hid, after_append hid,
    before_append (comma_not_mem_quoted h.1),
    after_append (comma_not_mem_quoted h.1), before_tail h, unquote_quoted]

theorem parse_other (h : strip tag t = none) : parse t = none := by
  rw [parse, h]
  rfl

theorem newline_not_mem (l : Line) : '\n' ∉ l.text := by
  cases l with
  | other t noTag noEnd => exact noEnd
  | context c =>
    have hid : '\n' ∉ c.id := not_mem_toDigits (by decide)
    have htail : '\n' ∉ c.tail := by
      unfold Context.tail
      cases hm : c.more with
      | none => exact List.not_mem_nil
      | some t => simpa using c.more_line t hm
    have htag : '\n' ∉ tag := by decide
    have hquote : '\n' ≠ quote := by decide
    simp [Line.text, Context.line, hid, htail, htag, hquote, c.type_line, c.apn_line]

theorem pieces_reply {ls : List Line} (h : ls ≠ []) :
    pieces '\n' (reply ls) = ls.map Line.text := by
  refine pieces_intercalate (fun hnil => h (List.map_eq_nil_iff.mp hnil)) fun t ht => ?_
  obtain ⟨l, -, rfl⟩ := List.mem_map.mp ht
  exact newline_not_mem l

/-! ## Two groups of ids -/

section
variable {apn type : Text} {ls : List Line}

def watchdogPrefers (type : Text) (c : Context) : Bool := type ≠ [] ∧ c.type = type

def dialerPrefers (type : Text) (c : Context) : Bool := type = [] ∨ c.type = type

def found (ids : List Text × List Text) : Found := ⟨spaced ids.1, spaced ids.2⟩

theorem matching_context (c : Context) (ls : List Line) :
    matching apn (.context c :: ls) =
      if c.apn = apn then c :: matching apn ls else matching apn ls := by
  by_cases h : c.apn = apn <;> simp [matching, Line.context?, h]

theorem matching_other (t : Text) (noTag : strip tag t = none) (noEnd : '\n' ∉ t)
    (ls : List Line) : matching apn (.other t noTag noEnd :: ls) = matching apn ls := rfl

theorem watchdog_fold (apn type : Text) {ls : List Line}
    (hls : ∀ c, Line.context c ∈ ls → c.NoComma) (exact other : List Text) :
    (ls.map Line.text).foldl (watchdogLine apn type) (found (exact, other)) =
      found (exact ++ preferred (watchdogPrefers type) Context.id (matching apn ls),
        other ++ others (watchdogPrefers type) Context.id (matching apn ls)) := by
  induction ls generalizing exact other with
  | nil => simp [matching, preferred, others]
  | cons l ls ih =>
    have ih := ih fun c hc => hls c (List.mem_cons_of_mem _ hc)
    rw [List.map_cons, List.foldl_cons]
    cases l with
    | other t noTag noEnd =>
      rw [matching_other, Line.text, watchdogLine, parse_other noTag]
      exact ih exact other
    | context c =>
      rw [matching_context, Line.text, watchdogLine, parse_line (hls c List.mem_cons_self)]
      dsimp only
      by_cases happn : c.apn = apn
      · rw [if_pos happn, if_pos happn]
        by_cases htype : type ≠ [] ∧ c.type = type
        · have hadd : (found (exact, other)).addExact c.id = found (exact ++ [c.id], other) := by
            simp only [found, Found.addExact, spaced_snoc]
          have hfirst : watchdogPrefers type c = true := decide_eq_true htype
          simp only [if_pos htype, hadd, ih, preferred_cons, others_cons, hfirst, if_true,
            List.append_assoc, List.nil_append]
        · have hadd : (found (exact, other)).addOther c.id = found (exact, other ++ [c.id]) := by
            simp only [found, Found.addOther, spaced_snoc]
          have hlater : watchdogPrefers type c = false := decide_eq_false htype
          simp only [if_neg htype, hadd, ih, preferred_cons, others_cons, hlater,
            Bool.false_eq_true, if_false, List.append_assoc, List.nil_append]
      · rw [if_neg happn, if_neg happn]
        exact ih exact other

theorem lists_found {ids : List Text × List Text}
    (h : ∀ v ∈ ids.1 ++ ids.2, IsWord v) (hw : IsWord w) :
    (found ids).lists w = true ↔ w ∈ ids.1 ++ ids.2 := by
  rw [List.forall_mem_append] at h
  exact has_spaced h.1 h.2 hw

theorem dialer_fold (apn type : Text) {ls : List Line}
    (hls : ∀ c, Line.context c ∈ ls → c.NoComma) (ids : List Text × List Text)
    (h : ∀ w ∈ ids.1 ++ ids.2, IsWord w) :
    (ls.map Line.text).foldl (dialerLine apn type) (found ids) =
      found ((matching apn ls).foldl (enter (dialerPrefers type) Context.id) ids) ∧
    ∀ w ∈ ((matching apn ls).foldl (enter (dialerPrefers type) Context.id) ids).1 ++
      ((matching apn ls).foldl (enter (dialerPrefers type) Context.id) ids).2, IsWord w := by
  induction ls generalizing ids with
  | nil => exact ⟨rfl, h⟩
  | cons l ls ih =>
    have ih := ih fun c hc => hls c (List.mem_cons_of_mem _ hc)
    rw [List.map_cons, List.foldl_cons]
    cases l with
    | other t noTag noEnd =>
      rw [matching_other, Line.text, dialerLine, parse_other noTag]
      exact ih ids h
    | context c =>
      rw [matching_context, Line.text, dialerLine, parse_line (hls c List.mem_cons_self)]
      dsimp only
      by_cases happn : c.apn = apn
      · have hstep : (if (found ids).lists c.id = true then found ids
            else if type = [] ∨ c.type = type then (found ids).addExact c.id
            else (found ids).addOther c.id) =
              found (enter (dialerPrefers type) Context.id ids c) := by
          simp only [lists_found h (isWord_id c), enter, dialerPrefers, decide_eq_true_eq]
          split_ifs
          · rfl
          · simp only [found, Found.addExact, spaced_snoc]
          · simp only [found, Found.addOther, spaced_snoc]
        rw [if_pos happn, if_pos happn, List.foldl_cons, hstep]
        exact ih _ (forall_enter _ _ h (isWord_id c))
      · rw [if_neg happn, if_neg happn]
        exact ih ids h

theorem matching_of_reply_eq_nil (h : reply ls = []) : matching apn ls = [] := by
  cases ls with
  | nil => rfl
  | cons l ls =>
    have hpieces := pieces_reply (List.cons_ne_nil l ls)
    rw [h, List.map_cons] at hpieces
    obtain ⟨hl, hls⟩ := List.cons.inj hpieces
    obtain rfl := List.map_eq_nil_iff.mp hls.symm
    cases l with
    | other t noTag noEnd => rfl
    | context c => exact absurd hl.symm (List.cons_ne_nil _ _)

theorem pdpCidsForApn_reply (happn : apn ≠ []) (hls : ∀ c, Line.context c ∈ ls → c.NoComma) :
    pdpCidsForApn apn type (reply ls) =
      ranked (watchdogPrefers type) Context.id (matching apn ls) := by
  by_cases hreply : reply ls = []
  · rw [pdpCidsForApn, if_neg fun h => h.2 hreply, matching_of_reply_eq_nil hreply]
    rfl
  · have hne : ls ≠ [] := fun h => hreply (h ▸ rfl)
    have hword : ∀ p : Context → Bool, ∀ w ∈ ((matching apn ls).filter p).map Context.id,
        IsWord w := by
      intro p w hw
      obtain ⟨c, -, rfl⟩ := List.mem_map.mp hw
      exact isWord_id c
    have hfold := watchdog_fold apn type hls [] []
    rw [pdpCidsForApn, if_pos ⟨happn, hreply⟩, pieces_reply hne]
    exact (congrArg Found.cids hfold).trans (words_spaced (hword _) (hword _))

theorem qcmPdpCidsForApn_reply (happn : apn ≠ []) (hls : ∀ c, Line.context c ∈ ls → c.NoComma) :
    qcmPdpCidsForApn apn type (reply ls) =
      (collectOnce (dialerPrefers type) Context.id (matching apn ls)).1 ++
        (collectOnce (dialerPrefers type) Context.id (matching apn ls)).2 := by
  rw [qcmPdpCidsForApn, if_neg happn]
  by_cases hreply : reply ls = []
  · rw [if_pos hreply, matching_of_reply_eq_nil hreply]
    rfl
  · have hne : ls ≠ [] := fun h => hreply (h ▸ rfl)
    obtain ⟨hfold, hword⟩ := dialer_fold apn type hls ([], []) nofun
    rw [List.forall_mem_append] at hword
    rw [if_neg hreply, pieces_reply hne]
    exact (congrArg Found.cids hfold).trans (words_spaced hword.1 hword.2)

/-! ## Agreement -/

/-- No id of the APN stands with another PDP type before it stands with the wanted one. A modem
lists each id once. -/
def NoLateType (apn type : Text) (ls : List Line) : Prop :=
  type ≠ [] → (matching apn ls).Pairwise fun c d => c.cid = d.cid → d.type = type → c.type = type

def Lists (apn : Text) (ls : List Line) (ids : List Text) : Prop :=
  ∀ id, id ∈ ids ↔ ∃ c, Line.context c ∈ ls ∧ c.apn = apn ∧ c.id = id

def ExactFirst (apn type : Text) (ls : List Line) (ids : List Text) : Prop :=
  ∃ exact other, ids = exact ++ other ∧
    ∀ id, id ∈ exact ↔ ∃ c, Line.context c ∈ ls ∧ c.apn = apn ∧ c.type = type ∧ c.id = id

theorem mem_matching {c : Context} : c ∈ matching apn ls ↔ Line.context c ∈ ls ∧ c.apn = apn := by
  have hline : ∀ l : Line, l.context? = some c ↔ l = .context c := by
    intro l
    cases l <;> simp [Line.context?]
  simp only [matching, List.mem_filter, List.mem_filterMap, decide_eq_true_eq, hline,
    exists_eq_right]

theorem id_inj {c d : Context} (h : c.id = d.id) : c.cid = d.cid := by
  rw [← toNumber_toDigits c.cid, ← toNumber_toDigits d.cid]
  exact congrArg toNumber h

theorem noLate_dialer (h : NoLateType apn type ls) :
    NoLate (dialerPrefers type) Context.id (matching apn ls) := by
  by_cases htype : type = []
  · refine List.pairwise_of_forall fun c d _ _ => ?_
    exact decide_eq_true (.inl htype)
  · refine (h htype).imp fun {c d} hcd hid hd => ?_
    have hd := (of_decide_eq_true hd).resolve_left htype
    exact decide_eq_true (.inr (hcd (id_inj hid) hd))

theorem ranked_dialer (cs : List Context) :
    ranked (dialerPrefers type) Context.id cs = ranked (watchdogPrefers type) Context.id cs := by
  by_cases htype : type = []
  · have hall : dialerPrefers type = fun _ => true := by
      funext c
      exact decide_eq_true (.inl htype)
    have hnone : watchdogPrefers type = fun _ => false := by
      funext c
      exact decide_eq_false fun h => h.1 htype
    simp [ranked, preferred, others, hall, hnone]
  · have heq : dialerPrefers type = watchdogPrefers type := by
      funext c
      simp [dialerPrefers, watchdogPrefers, htype]
    rw [heq]

theorem mem_preferred {id : Text} (htype : type ≠ []) :
    id ∈ preferred (watchdogPrefers type) Context.id (matching apn ls) ↔
      ∃ c, Line.context c ∈ ls ∧ c.apn = apn ∧ c.type = type ∧ c.id = id := by
  simp only [preferred, List.mem_map, List.mem_filter, mem_matching, watchdogPrefers,
    decide_eq_true_eq, htype, ne_eq, not_false_eq_true, true_and, and_assoc]

theorem lists_pdpCidsForApn (happn : apn ≠ []) (hls : ∀ c, Line.context c ∈ ls → c.NoComma) :
    Lists apn ls (pdpCidsForApn apn type (reply ls)) := by
  intro id
  rw [pdpCidsForApn_reply happn hls, mem_ranked]
  simp only [mem_matching, and_assoc]

theorem exactFirst_pdpCidsForApn (happn : apn ≠ []) (htype : type ≠ [])
    (hls : ∀ c, Line.context c ∈ ls → c.NoComma) :
    ExactFirst apn type ls (pdpCidsForApn apn type (reply ls)) :=
  ⟨_, _, pdpCidsForApn_reply happn hls, fun _ => mem_preferred htype⟩

theorem cids_of_nil (happn : apn = []) :
    pdpCidsForApn apn type resp = [] ∧ qcmPdpCidsForApn apn type resp = [] :=
  ⟨if_neg fun hand => hand.1 happn, if_pos happn⟩

theorem qcmPdpCidsForApn_eq (hls : ∀ c, Line.context c ∈ ls → c.NoComma)
    (h : NoLateType apn type ls) :
    qcmPdpCidsForApn apn type (reply ls) = (pdpCidsForApn apn type (reply ls)).eraseDups := by
  by_cases happn : apn = []
  · rw [(cids_of_nil happn).1, (cids_of_nil happn).2]
    rfl
  · rw [qcmPdpCidsForApn_reply happn hls, collectOnce_append _ _ (noLate_dialer h), ranked_dialer,
      pdpCidsForApn_reply happn hls]

theorem ExactFirst.eraseDups {ids : List Text} (h : ExactFirst apn type ls ids) :
    ExactFirst apn type ls ids.eraseDups := by
  obtain ⟨exact, other, rfl, hexact⟩ := h
  refine ⟨exact.eraseDups, _, List.eraseDups_append, fun id => ?_⟩
  rw [List.mem_eraseDups, hexact]

end

/-- Both copies list the ids of the contexts with the APN, those with the exact type first; the
dialer's list is the watchdog's without its repeats. -/
theorem pdp_contexts_same (ls : List Line) (apn type : Text)
    (hls : ∀ c, Line.context c ∈ ls → c.NoComma) (h : NoLateType apn type ls) :
    qcmPdpCidsForApn apn type (reply ls) = (pdpCidsForApn apn type (reply ls)).eraseDups ∧
    (apn = [] → pdpCidsForApn apn type (reply ls) = [] ∧ qcmPdpCidsForApn apn type (reply ls) = []) ∧
    (apn ≠ [] →
      (Lists apn ls (pdpCidsForApn apn type (reply ls)) ∧
        Lists apn ls (qcmPdpCidsForApn apn type (reply ls))) ∧
      (type ≠ [] → ExactFirst apn type ls (pdpCidsForApn apn type (reply ls)) ∧
        ExactFirst apn type ls (qcmPdpCidsForApn apn type (reply ls)))) := by
  have heq := qcmPdpCidsForApn_eq hls h
  refine ⟨heq, cids_of_nil, fun happn => ⟨⟨lists_pdpCidsForApn happn hls, fun id => ?_⟩, fun htype => ?_⟩⟩
  · rw [heq, List.mem_eraseDups]
    exact lists_pdpCidsForApn happn hls id
  · have hfirst := exactFirst_pdpCidsForApn happn htype hls
    exact ⟨hfirst, heq ▸ hfirst.eraseDups⟩

/-- `+CGDCONT: <cid>,"<type>","internet","0.0.0.0",0`. -/
def internet (cid : Nat) (type : Text) (h : '\n' ∉ type) : Context :=
  ⟨cid, type, "internet", some (quote :: "0.0.0.0".toList ++ quote :: ",0"), h,
    by decide, by decide⟩

def ok : Line := .other "OK" (by decide) (by decide)

def stale : List Line :=
  [.context (internet 1 "IP" (by decide)), .context (internet 2 "IPV4V6" (by decide)),
    ok]

theorem pdp_contexts_same_stale : (∀ c, Line.context c ∈ stale → c.NoComma) ∧
    NoLateType "internet" "IPV4V6" stale ∧
    pdpCidsForApn "internet" "IPV4V6" (reply stale) = ["2", "1"] ∧
    qcmPdpCidsForApn "internet" "IPV4V6" (reply stale) =
      (pdpCidsForApn "internet" "IPV4V6" (reply stale)).eraseDups := by
  have hcomma : ∀ c, Line.context c ∈ stale → c.NoComma := by
    intro c hc
    simp only [stale, ok, List.mem_cons, Line.context.injEq, List.not_mem_nil, or_false,
      reduceCtorEq] at hc
    rcases hc with rfl | rfl <;> decide
  have hlate : NoLateType "internet" "IPV4V6" stale := by
    intro _
    decide
  exact ⟨hcomma, hlate, by decide, (pdp_contexts_same _ _ _ hcomma hlate).1⟩

def twice : List Line :=
  [.context (internet 5 "IP" (by decide)), .context (internet 5 "IPV4V6" (by decide)),
    .context (internet 6 "IPV4V6" (by decide)), ok]

/-- The watchdog has the id in front, the dialer leaves it behind the other one. An APN with a comma is
taken for what stands before the comma, and a context without an APN is not listed for the empty
one. -/
theorem late_type_reordered :
    (pdpCidsForApn "internet" "IPV4V6" (reply twice) =
      ["5", "6", "5"] ∧
    qcmPdpCidsForApn "internet" "IPV4V6" (reply twice) =
      ["6", "5"]) ∧
    (let resp := "+CGDCONT: 1,".toList ++ quote :: "IP".toList ++ quote :: ',' ::
      quote :: "net,work".toList ++ [quote]
    pdpCidsForApn "net" "IP" resp = ["1"] ∧
    pdpCidsForApn "net,work" "IP" resp = []) ∧
    (let noApn := reply [.context ⟨1, "IP", [], none, by decide, by decide, by decide⟩]
    pdpCidsForApn [] "IP" noApn = [] ∧ qcmPdpCidsForApn [] "IP" noApn = []) := by
  decide

end GlXe3000.Cellular.Pdp
