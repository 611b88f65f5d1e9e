import GlXe3000.Lib.JsonString
import GlXe3000.Cellular.Pdp.Contexts

/-! # The profile of the initial attach

`_qcm_sync_attach_profile` of `qcm.sh` writes context 1 before a dial if it is not what the settings
want. The commands go to the modem through `_qcm_at`, which puts them between quotes in a JSON
message and escapes the quotes in them, but no backslash. -/

namespace GlXe3000.Cellular.Pdp
open Text

def qcmAtIpType (pdptype : Text) : Text :=
  let t := lower pdptype
  if t = "ipv6" then "IPV6"
  else if t = "ipv4" ∨ t = "ip" then "IP"
  else if t = [] then []
  else "IPV4V6"

def cgdcontQuery : Text := "AT+CGDCONT?"

def writeFirst : Text := "AT+CGDCONT=1,"

/-- `AT+CGDCONT=1,\"$want_type\",\"$want_apn\"`. -/
def cgdcontWrite (type apn : Text) : Text :=
  writeFirst ++ (quote :: type ++ quote :: ',' :: quote :: (apn ++ [quote]))

/-- What follows the command in the message: `,"timeout":6` and the closing brace. -/
def messageEnd : Text := ',' :: quote :: "timeout".toList ++ quote :: ":6\x7d"

/-- The command that the daemon reads from the message of `_qcm_at` and sends to the modem. If the
text of the command does not end where it should, what follows is not JSON and nothing is sent. -/
def qcmAt (cmd : Text) : Option Text :=
  (JsonString.decode quote (JsonString.escape quote cmd ++ quote :: messageEnd)).bind fun r =>
    if r.2 = messageEnd then some r.1 else none

inductive Answer
  /-- The contexts, and `OK`. -/
  | listing
  | failure (t : Text) (h : t = [] ∨ has t "ERROR" = true)

/-- A modem: the lines with which it lists its contexts, how it ends a line and what it answers. -/
structure Modem where
  lines : List Line
  returns : Bool
  answer : Answer
  written : Text → Text
  noReturn : ∀ l ∈ lines, '\r' ∉ l.text
  noQuote : ∀ c, Line.context c ∈ lines → quote ∉ c.type ∧ quote ∉ c.apn

namespace Modem

def listing (m : Modem) : Text :=
  ['\n'].intercalate ((m.lines ++ [ok]).map fun l => if m.returns then l.text ++ ['\r'] else l.text)

/-- The reply to `AT+CGDCONT?`. -/
def query (m : Modem) : Text :=
  match m.answer with
  | .listing => m.listing
  | .failure t _ => t

def profile (m : Modem) : Option (Text × Text) :=
  ((m.lines.filterMap Line.context?).find? (·.cid = 1)).map fun c => (c.type, c.apn)

end Modem

/-! ## The sync -/

/-- `*'"'*|*,*|*' '*`. -/
def refuses (apn : Text) : Prop := quote ∈ apn ∨ ',' ∈ apn ∨ ' ' ∈ apn

instance : DecidablePred refuses := fun apn =>
  inferInstanceAs (Decidable (quote ∈ apn ∨ ',' ∈ apn ∨ ' ' ∈ apn))

/-- `[ -n "$want_type" ] || want_type="IPV4V6"`. -/
def attachType (pdptype : Text) : Text := orDefault (qcmAtIpType pdptype) "IPV4V6"

/-- `grep '^+CGDCONT: *1,'`. -/
def isFirst (line : Text) : Bool :=
  ((strip tag line).bind fun rest => strip "1," (rest.dropWhile (· = ' '))).isSome

/-- `printf '%s\n' "$resp" | tr -d '\r' | grep '^+CGDCONT: *1,' | head -n1`. -/
def curLine (resp : Text) : Text :=
  ((pieces '\n' (dropReturns resp)).find? isFirst).getD []

/-- `cut -d'"' -f`: a line without a quote is passed on as it is. -/
def cutQuoted (n : Nat) (line : Text) : Text :=
  if quote ∈ line then (pieces quote line).getD (n - 1) [] else line

structure Outcome where
  commands : List Text
  status : Nat
  deriving DecidableEq

/-- `_qcm_sync_attach_profile`. -/
def syncAttachProfile (wantApn pdptype : Text) (m : Modem) : Outcome :=
  if wantApn = [] then ⟨[], 0⟩
  else if refuses wantApn then ⟨[], 1⟩
  else
    let wantType := attachType pdptype
    let resp := m.query
    let asked := (qcmAt cgdcontQuery).toList
    if resp = [] ∨ has resp "ERROR" then ⟨asked, 0⟩
    else
      let line := curLine resp
      if cutQuoted 4 line = wantApn ∧ cutQuoted 2 line = wantType then ⟨asked, 0⟩
      else
        match qcmAt (cgdcontWrite wantType wantApn) with
        | none => ⟨asked, 1⟩
        | some cmd => ⟨asked ++ [cmd], if has (m.written cmd) "OK" then 0 else 1⟩

/-! ## Through the message -/

theorem qcmAt_eq_self : qcmAt cmd = some cmd ↔ '\\' ∉ cmd := by
  have hescape : JsonString.decode quote (JsonString.escape quote cmd ++ quote :: messageEnd) =
      some (cmd, messageEnd) ↔ '\\' ∉ cmd := JsonString.decode_escape (by decide)
  rw [← hescape, qcmAt, Option.bind_eq_some_iff]
  constructor
  · rintro ⟨⟨t, rest⟩, hdecode, h⟩
    obtain ⟨hrest, hcmd⟩ := Option.ite_none_right_eq_some.mp h
    obtain rfl := Option.some.inj hcmd
    rw [hdecode, ← hrest]
  · intro h
    exact ⟨_, h, if_pos rfl⟩

theorem qcmAt_query : qcmAt cgdcontQuery = some cgdcontQuery := qcmAt_eq_self.mpr (by decide)

/-! ## Reading the stored profile back -/

theorem filter_intercalate (p : Char → Bool) (s : Text) (ps : List Text) :
    (s.intercalate ps).filter p = (s.filter p).intercalate (ps.map (List.filter p)) := by
  induction ps with
  | nil => rfl
  | cons t ps ih =>
    cases ps with
    | nil => simp
    | cons u ps =>
      rw [List.intercalate_cons_cons, List.filter_append, List.filter_append, ih, List.map_cons,
        List.map_cons, List.map_cons, List.intercalate_cons_cons]

theorem dropReturns_of_not_mem (h : '\r' ∉ t) : dropReturns t = t :=
  List.filter_eq_self.mpr fun _ hc => decide_eq_true fun heq => h (heq ▸ hc)

theorem dropReturns_listing (m : Modem) : dropReturns m.listing = reply (m.lines ++ [ok]) := by
  have hline : ∀ l ∈ m.lines ++ [ok], '\r' ∉ l.text := by
    rw [List.forall_mem_append, List.forall_mem_singleton]
    exact ⟨m.noReturn, by decide⟩
  unfold dropReturns Modem.listing reply
  rw [filter_intercalate, List.map_map]
  refine congrArg _ (List.map_congr_left fun l hl => ?_)
  have hdrop := dropReturns_of_not_mem (hline l hl)
  unfold dropReturns at hdrop
  cases m.returns
  · exact hdrop
  · simp only [Function.comp_apply, if_true, List.filter_append, hdrop]
    exact List.append_nil _

theorem isFirst_line (c : Context) : isFirst c.line = decide (c.cid = 1) := by
  have hcomma : ',' ∉ c.id := not_mem_toDigits (by decide)
  have hblank : ∀ t : Text, (' ' :: (c.id ++ t)).dropWhile (· = ' ') = c.id ++ t := by
    intro t
    rw [List.dropWhile_cons_of_pos (by decide)]
    cases hid : c.id with
    | nil => exact absurd hid Nat.toDigits_ne_nil
    | cons d ds =>
      have hd : d ≠ ' ' := by
        rintro rfl
        exact absurd (hid ▸ List.mem_cons_self) (isWord_id c).not_mem
      rw [List.cons_append, List.dropWhile_cons_of_neg (by simpa using hd)]
  unfold isFirst
  rw [Context.line, strip_append, Option.bind_some, hblank]
  by_cases hc : c.cid = 1
  · have hid : c.id = ['1'] := by rw [Context.id, hc]; rfl
    rw [hid, decide_eq_true hc]
    rfl
  · rw [decide_eq_false hc, Option.isSome_eq_false_iff, Option.isNone_iff_eq_none]
    cases hstrip : strip "1," (c.id ++ ',' :: (quote :: c.type ++ [quote] ++ ',' ::
        (quote :: c.apn ++ [quote] ++ c.tail))) with
    | none => rfl
    | some r =>
      -- Both sides have their first comma behind the id.
      have hfirst := before_append (u := r) (by decide : ',' ∉ ['1'])
      rw [show ['1'] ++ ',' :: r = "1,".toList ++ r from rfl, ← strip_eq_some.mp hstrip,
        before_append hcomma] at hfirst
      refine absurd ?_ hc
      rw [← toNumber_toDigits c.cid]
      exact congrArg toNumber hfirst

theorem find_isFirst (ls : List Line) :
    (ls.map Line.text).find? isFirst =
      ((ls.filterMap Line.context?).find? (·.cid = 1)).map Context.line := by
  induction ls with
  | nil => rfl
  | cons l ls ih =>
    cases l with
    | other t noTag noEnd =>
      have hnot : isFirst t = false := by rw [isFirst, noTag]; rfl
      simp [Line.text, Line.context?, hnot, ih]
    | context c =>
      by_cases hc : c.cid = 1 <;> simp [Line.text, Line.context?, isFirst_line, hc, ih]

theorem cutQuoted_line {c : Context} (h : quote ∉ c.type ∧ quote ∉ c.apn) :
    cutQuoted 2 c.line = c.type ∧ cutQuoted 4 c.line = c.apn := by
  have hfront : quote ∉ tag ++ ' ' :: (c.id ++ [',']) := by
    have hid : quote ∉ c.id := not_mem_toDigits (by decide)
    have htag : quote ∉ tag := by decide
    have hblank : quote ≠ ' ' := by decide
    have hcomma : quote ≠ ',' := by decide
    simp [hid, htag, hblank, hcomma]
  have hline : c.line = (tag ++ ' ' :: (c.id ++ [','])) ++ quote :: (c.type ++ quote ::
      ([','] ++ quote :: (c.apn ++ quote :: c.tail))) := by
    simp [Context.line]
  have hpieces : pieces quote c.line =
      (tag ++ ' ' :: (c.id ++ [','])) :: c.type :: [','] :: c.apn :: pieces quote c.tail := by
    rw [hline, pieces_append hfront, pieces_append h.1, pieces_append (by decide),
      pieces_append h.2]
  have hmem : quote ∈ c.line := by
    rw [hline]
    exact List.mem_append_right _ List.mem_cons_self
  rw [cutQuoted, cutQuoted, if_pos hmem, if_pos hmem, hpieces]
  exact ⟨rfl, rfl⟩

theorem curLine_listing (m : Modem) :
    curLine m.listing =
      (((m.lines.filterMap Line.context?).find? (·.cid = 1)).map Context.line).getD [] := by
  have hok : (m.lines ++ [ok]).filterMap Line.context? = m.lines.filterMap Line.context? := by
    rw [List.filterMap_append]
    exact List.append_nil _
  rw [curLine, dropReturns_listing, pieces_reply (by simp), find_isFirst, hok]

theorem stored_iff (m : Modem) (happn : apn ≠ []) :
    cutQuoted 4 (curLine m.listing) = apn ∧ cutQuoted 2 (curLine m.listing) = type ↔
      m.profile = some (type, apn) := by
  rw [curLine_listing, Modem.profile]
  cases hfind : (m.lines.filterMap Line.context?).find? (·.cid = 1) with
  | none =>
    refine iff_of_false (fun h => happn ?_) nofun
    exact h.1.symm.trans rfl
  | some c =>
    have hmem : Line.context c ∈ m.lines := by
      obtain ⟨l, hl, hlc⟩ := List.mem_filterMap.mp (List.mem_of_find?_eq_some hfind)
      cases l with
      | other t noTag noEnd => cases hlc
      | context d => exact Option.some.inj hlc ▸ hl
    obtain ⟨htype, hapn⟩ := cutQuoted_line (m.noQuote c hmem)
    rw [Option.map_some, Option.getD_some, htype, hapn, Option.map_some, Option.some.injEq,
      Prod.mk.injEq, and_comm]

/-! ## What is sent -/

def InField (t : Text) : Prop := quote ∉ t ∧ '\r' ∉ t ∧ '\n' ∉ t

def IsWrite (cmd : Text) : Prop := (strip "AT+CGDCONT=" cmd).isSome = true

def Modem.Lists (m : Modem) : Prop := m.answer = .listing ∧ has m.listing "ERROR" = false

structure Writable (apn : Text) : Prop where
  ne_nil : apn ≠ []
  accepted : ¬refuses apn
  noBackslash : '\\' ∉ apn
  oneLine : '\r' ∉ apn ∧ '\n' ∉ apn

/-- The writes are the one of the wanted profile, if it is not the stored one; the next sync after a
modem took it writes nothing; and the values of a write keep to their fields. -/
structure Synced (apn pdptype : Text) (m : Modem) : Prop where
  writes : ∀ cmd, cmd ∈ (syncAttachProfile apn pdptype m).commands ∧ IsWrite cmd ↔
    cmd = cgdcontWrite (attachType pdptype) apn ∧ m.profile ≠ some (attachType pdptype, apn)
  settles : ∀ type' apn', cgdcontWrite type' apn' ∈ (syncAttachProfile apn pdptype m).commands →
    InField type' → InField apn' → ∀ m' : Modem, m'.profile = some (type', apn') →
      ∀ cmd ∈ (syncAttachProfile apn pdptype m').commands, ¬IsWrite cmd
  unbroken : ∀ cmd ∈ (syncAttachProfile apn pdptype m).commands, IsWrite cmd →
    ∃ type' apn', cmd = cgdcontWrite type' apn' ∧ InField type' ∧ InField apn'

section
variable {apn pdptype : Text} {m : Modem}

theorem isWrite_cgdcontWrite (type apn : Text) : IsWrite (cgdcontWrite type apn) := rfl

theorem not_isWrite_query : ¬IsWrite cgdcontQuery := by
  unfold IsWrite
  decide

theorem inField_attachType (pdptype : Text) : InField (attachType pdptype) := by
  unfold attachType qcmAtIpType orDefault InField
  dsimp only
  split_ifs <;> decide

theorem backslash_not_mem_attachType (pdptype : Text) : '\\' ∉ attachType pdptype := by
  unfold attachType qcmAtIpType orDefault
  dsimp only
  split_ifs <;> decide

theorem backslash_mem_cgdcontWrite (h : '\\' ∉ type) :
    '\\' ∈ cgdcontWrite type apn ↔ '\\' ∈ apn := by
  have hquote : '\\' ≠ quote := by decide
  have hfront : '\\' ∉ writeFirst := by decide
  unfold cgdcontWrite
  simp only [List.mem_append, List.mem_cons, List.not_mem_nil, hfront, hquote, h, or_false,
    false_or]
  refine or_iff_right (by decide)

theorem cgdcontWrite_inj (ht : quote ∉ t) (ha : quote ∉ a) (ht' : quote ∉ t')
    (ha' : quote ∉ a') (h : cgdcontWrite t a = cgdcontWrite t' a') : t = t' ∧ a = a' := by
  have hpieces : ∀ t a : Text, quote ∉ t → quote ∉ a → pieces quote (cgdcontWrite t a) =
      writeFirst :: t :: [','] :: a :: [[]] := by
    intro t a ht ha
    have hwrite : cgdcontWrite t a = writeFirst ++ quote :: (t ++ quote :: ([','] ++ quote ::
        (a ++ quote :: []))) := by
      simp [cgdcontWrite]
    rw [hwrite, pieces_append (by decide), pieces_append ht, pieces_append (by decide),
      pieces_append ha]
    rfl
  have heq := congrArg (pieces quote) h
  rw [hpieces t a ht ha, hpieces t' a' ht' ha'] at heq
  simp only [List.cons.injEq, true_and, and_true] at heq
  exact heq

theorem listing_ne_nil (m : Modem) : m.listing ≠ [] := by
  intro h
  have hreply := dropReturns_listing m
  rw [h] at hreply
  have hpieces : pieces '\n' (reply (m.lines ++ [ok])) = (m.lines ++ [ok]).map Line.text :=
    pieces_reply (by simp)
  rw [← hreply, List.map_append] at hpieces
  have hmem : ok.text ∈ [([] : Text)] := by
    rw [show [([] : Text)] = pieces '\n' (dropReturns []) from rfl, hpieces]
    exact List.mem_append_right _ (List.mem_singleton_self _)
  exact absurd (List.mem_singleton.mp hmem) (by decide)

theorem query_fails_iff (m : Modem) : m.query = [] ∨ has m.query "ERROR" = true ↔ ¬m.Lists := by
  unfold Modem.query Modem.Lists
  cases hanswer : m.answer with
  | listing => simp [listing_ne_nil]
  | failure t h => simpa using h

theorem mem_commands :
    cmd ∈ (syncAttachProfile apn pdptype m).commands ↔ apn ≠ [] ∧ ¬refuses apn ∧
      (cmd = cgdcontQuery ∨ m.Lists ∧ m.profile ≠ some (attachType pdptype, apn) ∧
        qcmAt (cgdcontWrite (attachType pdptype) apn) = some cmd) := by
  unfold syncAttachProfile
  by_cases happn : apn = []
  · simp [happn]
  by_cases hok : refuses apn
  · simp [happn, hok]
  rw [if_neg happn, if_neg hok, and_iff_right happn, and_iff_right hok]
  simp only [qcmAt_query, Option.toList_some]
  by_cases hlists : m.Lists
  · have hquery : m.query = m.listing := by rw [Modem.query, hlists.1]
    rw [if_neg fun h => (query_fails_iff m).mp h hlists, hquery]
    by_cases hsame : m.profile = some (attachType pdptype, apn)
    · rw [if_pos ((stored_iff m happn).mpr hsame)]
      simp [hsame]
    · rw [if_neg fun h => hsame ((stored_iff m happn).mp h)]
      cases hsent : qcmAt (cgdcontWrite (attachType pdptype) apn) with
      | none => simp
      | some c => simp [hlists, hsame, eq_comm]
  · rw [if_pos ((query_fails_iff m).mpr hlists)]
    simp [hlists]

theorem mem_commands_writable (h : Writable apn) :
    cmd ∈ (syncAttachProfile apn pdptype m).commands ∧ IsWrite cmd ↔
      cmd = cgdcontWrite (attachType pdptype) apn ∧ m.Lists ∧
        m.profile ≠ some (attachType pdptype, apn) := by
  have hsent : qcmAt (cgdcontWrite (attachType pdptype) apn) =
      some (cgdcontWrite (attachType pdptype) apn) := by
    rw [qcmAt_eq_self, backslash_mem_cgdcontWrite (backslash_not_mem_attachType _)]
    exact h.noBackslash
  rw [mem_commands, hsent]
  constructor
  · rintro ⟨⟨-, -, rfl | ⟨hlists, hdiffer, hcmd⟩⟩, hwrite⟩
    · exact absurd hwrite not_isWrite_query
    · exact ⟨(Option.some.inj hcmd).symm, hlists, hdiffer⟩
  · rintro ⟨rfl, hlists, hdiffer⟩
    exact ⟨⟨h.ne_nil, h.accepted, .inr ⟨hlists, hdiffer, rfl⟩⟩, isWrite_cgdcontWrite _ _⟩

theorem not_isWrite_of_stored (h : m.profile = some (attachType pdptype, apn)) :
    ∀ cmd ∈ (syncAttachProfile apn pdptype m).commands, ¬IsWrite cmd := by
  intro cmd hcmd
  obtain ⟨-, -, rfl | ⟨-, hdiffer, -⟩⟩ := mem_commands.mp hcmd
  · exact not_isWrite_query
  · exact absurd h hdiffer

theorem synced_of_stored (h : m.profile = some (attachType pdptype, apn)) :
    Synced apn pdptype m where
  writes cmd := iff_of_false (fun hcmd => not_isWrite_of_stored h cmd hcmd.1 hcmd.2)
    fun hcmd => hcmd.2 h
  settles type' apn' hmem _ _ _ _ :=
    absurd (isWrite_cgdcontWrite type' apn') (not_isWrite_of_stored h _ hmem)
  unbroken cmd hcmd hwrite := absurd hwrite (not_isWrite_of_stored h cmd hcmd)

theorem synced_of_writable (hlists : m.Lists) (h : Writable apn) : Synced apn pdptype m := by
  have hfield : InField apn := ⟨fun hmem => h.accepted (.inl hmem), h.oneLine⟩
  have htype := inField_attachType pdptype
  refine ⟨fun cmd => ?_, fun type' apn' hmem ht ha m' hstored => ?_, fun cmd hcmd hwrite => ?_⟩
  · rw [mem_commands_writable h, and_iff_right hlists]
  · have hcmd := (mem_commands_writable h).mp ⟨hmem, isWrite_cgdcontWrite type' apn'⟩
    obtain ⟨rfl, rfl⟩ := cgdcontWrite_inj ht.1 ha.1 htype.1 hfield.1 hcmd.1
    exact not_isWrite_of_stored hstored
  · exact ⟨_, _, ((mem_commands_writable h).mp ⟨hcmd, hwrite⟩).1, htype, hfield⟩

theorem of_synced (h : Synced apn pdptype m)
    (hdiffer : m.profile ≠ some (attachType pdptype, apn)) : m.Lists ∧ Writable apn := by
  obtain ⟨hmem, hwrite⟩ := (h.writes _).mpr ⟨rfl, hdiffer⟩
  obtain ⟨happn, hok, hquery | ⟨hlists, -, hsent⟩⟩ := mem_commands.mp hmem
  · exact absurd (hquery ▸ hwrite) not_isWrite_query
  have hbackslash : '\\' ∉ apn := by
    rw [← backslash_mem_cgdcontWrite (backslash_not_mem_attachType pdptype)]
    exact qcmAt_eq_self.mp hsent
  obtain ⟨type', apn', heq, htype, hapn⟩ := h.unbroken _ hmem hwrite
  obtain ⟨-, rfl⟩ := cgdcontWrite_inj (inField_attachType pdptype).1 (fun hq => hok (.inl hq))
    htype.1 hapn.1 heq
  exact ⟨hlists, happn, hok, hbackslash, hapn.2⟩

end

theorem attach_profile_synced (apn pdptype : Text) (m : Modem) :
    Synced apn pdptype m ↔
      m.profile = some (attachType pdptype, apn) ∨ m.Lists ∧ Writable apn := by
  constructor
  · intro h
    by_cases hstored : m.profile = some (attachType pdptype, apn)
    · exact .inl hstored
    · exact .inr (of_synced h hstored)
  · rintro (hstored | ⟨hlists, hapn⟩)
    · exact synced_of_stored hstored
    · exact synced_of_writable hlists hapn

def blank : Modem := ⟨[], true, .listing, fun _ => "OK", nofun, nofun⟩

/-- The escape of a quote in an APN ends the field, an APN that ends in a backslash never gets to
the modem. -/
theorem apn_backslash_breaks_command :
    (syncAttachProfile "net\\u0022x" "ip" blank).commands =
      [cgdcontQuery, writeFirst ++ (quote :: "IP".toList ++ quote :: ',' :: quote ::
        ("net".toList ++ quote :: "x".toList ++ [quote]))] ∧
    ¬Synced "net\\u0022x" "ip" blank ∧
    syncAttachProfile "net\\" "ip" blank = ⟨[cgdcontQuery], 1⟩ ∧
    ¬Synced "net\\" "ip" blank := by
  have hbackslash : ∀ apn : Text, '\\' ∈ apn → ¬Synced apn "ip" blank := fun apn hmem h =>
    (of_synced h nofun).2.noBackslash hmem
  exact ⟨by decide, hbackslash _ (by decide), by decide, hbackslash _ (by decide)⟩

end GlXe3000.Cellular.Pdp
