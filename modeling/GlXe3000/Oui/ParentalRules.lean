import GlXe3000.Oui.Parental

/-! # Downtime is enforced

The rules of the groups are made from the stored groups whenever one changes, so they reject at the
times of the schedules and at no others. Whether the first match is one of them depends on what was
appended before: a device that is on the allow list in white mode has its rule in front of those that
are made afterwards. -/

namespace GlXe3000.Oui.Parental
open Text

def Entry.covers (clock : Clock) (g : Group) (e : Entry) (p : Packet) : Prop :=
  e.enabled = true ∧ (g.everyday = true ∨ e.week = p.day.number) ∧
    clock (e.start.1 ++ ":00".toList) (e.stop.1 ++ ":00".toList) p.time = true

instance (clock : Clock) (g : Group) (e : Entry) (p : Packet) : Decidable (e.covers clock g p) :=
  inferInstanceAs (Decidable (_ ∧ _ ∧ _))

/-- Parental control is enabled, and a group of the device is in its downtime. -/
def Scheduled (clock : Clock) (r : Router) (p : Packet) : Prop :=
  r.enable = true ∧ ∃ g ∈ r.groups, p.mac ∈ g.macs ∧ ∃ e ∈ g.schedules, e.covers clock g p

instance (clock : Clock) (r : Router) (p : Packet) : Decidable (Scheduled clock r p) :=
  inferInstanceAs (Decidable (_ ∧ _))

/-- The device is rejected at the times of its schedules, and the parental rules reject nothing
else. -/
structure Enforced (clock : Clock) (r : Router) (mac : Text) : Prop where
  rejected : ∀ p, p.mac = mac → Scheduled clock r p → verdict clock r.rules p = some .reject
  nothingElse : ∀ p, ∀ rule ∈ r.rules, rule.isParental = true → rule.applies clock p = true →
    Scheduled clock r p

def Simple (everyday : Bool) (schedules : List Entry) : Prop :=
  everyday = true → (schedules.filter Entry.enabled).length ≤ 1

def Allowed (r : Router) (mac : Text) : Prop := r.mode = .white ∧ mac ∈ listOf r .white

def SimpleRequest (env : Env) (args : Json) : Prop :=
  ∀ schedules, normalizeSchedules env (Json.orElse (arg args "schedules") (.obj [])) = .ok schedules →
    Simple (!isCustomize args) schedules

/-- The rules of the groups are made while the device is not on the allow list, and an everyday group
gets one entry. -/
def Sound (mac : Text) (r : Router) (e : Event) : Prop :=
  match e.call with
  | .setConfig _ | .removeGroup _ => ¬Allowed r mac
  | .addGroup args | .setGroup args => ¬Allowed r mac ∧ SimpleRequest e.env args
  | .setList _ | .setSingleMac _ => True

/-! ## First match -/

theorem find?_of_pairwise {α : Type} {R : α → α → Prop} {q : α → Bool} {l : List α} {b : α}
    (hl : l.Pairwise R) (hb : b ∈ l) (hq : q b = true) :
    ∃ a ∈ l, l.find? q = some a ∧ (a = b ∨ R a b) := by
  induction l with
  | nil => cases hb
  | cons c l ih =>
    obtain ⟨hhead, htail⟩ := List.pairwise_cons.1 hl
    by_cases hc : q c = true
    · refine ⟨c, List.mem_cons_self, List.find?_cons_of_pos hc, ?_⟩
      obtain rfl | hb := List.mem_cons.1 hb
      · exact .inl rfl
      · exact .inr (hhead b hb)
    · obtain rfl | hb := List.mem_cons.1 hb
      · exact absurd hq hc
      · obtain ⟨a, ha, hfind, hrel⟩ := ih htail hb
        exact ⟨a, List.mem_cons_of_mem _ ha, (List.find?_cons_of_neg hc).trans hfind, hrel⟩

/-! ## Ranges -/

def Listed (ranges : List Range) (start stop : Time) (week : Rat) : Prop :=
  ∃ range ∈ ranges, range.start = start ∧ range.stop = stop ∧ week ∈ range.weeks

theorem isTime_length {t : Text} (h : isTime t = true) : t.length = 5 := by
  unfold isTime at h
  split at h
  · rfl
  · cases h

theorem key_eq_iff {range : Range} {e : Entry} :
    range.key = e.key ↔ range.start = e.start ∧ range.stop = e.stop := by
  constructor
  · intro h
    have hlength : range.start.1.length = e.start.1.length :=
      (isTime_length range.start.2).trans (isTime_length e.start.2).symm
    obtain ⟨hstart, hstop⟩ := List.append_inj h hlength
    exact ⟨Subtype.ext hstart, Subtype.ext (List.cons.inj hstop).2⟩
  · rintro ⟨hstart, hstop⟩
    rw [Range.key, Entry.key, hstart, hstop]

theorem listed_addRange {e : Entry} :
    Listed (addRange ranges e weeks) start stop week ↔
      Listed ranges start stop week ∨ e.start = start ∧ e.stop = stop ∧ week ∈ weeks := by
  unfold addRange
  split
  · next hany =>
    obtain ⟨own, hown, hkey⟩ := List.any_eq_true.1 hany
    have hown' := key_eq_iff.1 (of_decide_eq_true hkey)
    constructor
    · rintro ⟨range, hrange, hstart, hstop, hweek⟩
      obtain ⟨old, hold, rfl⟩ := List.mem_map.1 hrange
      split at hstart
      · next hk =>
        rw [if_pos hk] at hstop hweek
        obtain hweek | hweek := List.mem_append.1 hweek
        · exact .inl ⟨old, hold, hstart, hstop, hweek⟩
        · obtain ⟨hs, ht⟩ := key_eq_iff.1 hk
          exact .inr ⟨hs.symm.trans hstart, ht.symm.trans hstop, hweek⟩
      · next hk =>
        rw [if_neg hk] at hstop hweek
        exact .inl ⟨old, hold, hstart, hstop, hweek⟩
    · rintro (⟨old, hold, hstart, hstop, hweek⟩ | ⟨rfl, rfl, hweek⟩)
      · refine ⟨_, List.mem_map_of_mem hold, ?_⟩
        split
        · exact ⟨hstart, hstop, List.mem_append_left _ hweek⟩
        · exact ⟨hstart, hstop, hweek⟩
      · refine ⟨_, List.mem_map_of_mem hown, ?_⟩
        rw [if_pos (of_decide_eq_true hkey)]
        exact ⟨hown'.1, hown'.2, List.mem_append_right _ hweek⟩
  · constructor
    · rintro ⟨range, hrange, hstart, hstop, hweek⟩
      obtain hrange | hrange := List.mem_append.1 hrange
      · exact .inl ⟨range, hrange, hstart, hstop, hweek⟩
      · obtain rfl := List.mem_singleton.1 hrange
        exact .inr ⟨hstart, hstop, hweek⟩
    · rintro (⟨range, hrange, hlisted⟩ | ⟨hstart, hstop, hweek⟩)
      · exact ⟨range, List.mem_append_left _ hrange, hlisted⟩
      · exact ⟨_, List.mem_append_right _ (List.mem_singleton.2 rfl), hstart, hstop, hweek⟩

theorem listed_foldl {weeks : Entry → List Rat} {es : List Entry} :
    Listed (es.foldl (fun ranges e => addRange ranges e (weeks e)) ranges) start stop week ↔
      Listed ranges start stop week ∨
        ∃ e ∈ es, e.start = start ∧ e.stop = stop ∧ week ∈ weeks e := by
  induction es generalizing ranges with
  | nil => simp
  | cons e es ih => simp [ih, listed_addRange, or_assoc]

theorem not_listed_nil : ¬Listed [] start stop week := by
  rintro ⟨_, h, _⟩
  cases h

theorem mem_everyWeek (d : Day) : (d.number : Rat) ∈ everyWeek := by
  refine List.mem_map_of_mem ?_
  cases d <;> decide

theorem exists_entry_of_listed {g : Group} {d : Day} (h : Listed (rangesOf g) start stop d.number) :
    ∃ e ∈ g.schedules, e.enabled = true ∧ e.start = start ∧ e.stop = stop ∧
      (g.everyday = true ∨ e.week = d.number) := by
  unfold rangesOf at h
  dsimp only at h
  split at h
  · next heveryday =>
    obtain h | ⟨e, he, hstart, hstop, -⟩ := listed_foldl.1 h
    · exact absurd h not_listed_nil
    · obtain ⟨hmem, henabled⟩ := List.mem_filter.1 (List.mem_of_mem_take he)
      exact ⟨e, hmem, henabled, hstart, hstop, .inl heveryday⟩
  · obtain h | ⟨e, he, hstart, hstop, hweek⟩ := listed_foldl.1 h
    · exact absurd h not_listed_nil
    · obtain ⟨hmem, henabled⟩ := List.mem_filter.1 he
      exact ⟨e, hmem, henabled, hstart, hstop, .inr (List.mem_singleton.1 hweek).symm⟩

theorem listed_of_entry {g : Group} {e : Entry} {d : Day} (hsimple : Simple g.everyday g.schedules)
    (he : e ∈ g.schedules) (henabled : e.enabled = true)
    (hday : g.everyday = true ∨ e.week = d.number) :
    Listed (rangesOf g) e.start e.stop d.number := by
  have hmem : e ∈ g.schedules.filter Entry.enabled := List.mem_filter.2 ⟨he, henabled⟩
  unfold rangesOf
  dsimp only
  split
  · next heveryday =>
    rw [List.take_of_length_le (hsimple heveryday)]
    exact listed_foldl.2 (.inr ⟨e, hmem, rfl, rfl, mem_everyWeek d⟩)
  · next hcustom =>
    have hweek : e.week = d.number := hday.resolve_left hcustom
    exact listed_foldl.2 (.inr ⟨e, hmem, rfl, rfl, List.mem_singleton.2 hweek.symm⟩)

theorem mem_weekdaysOf {range : Range} {d : Day} :
    d ∈ weekdaysOf range ↔ (d.number : Rat) ∈ range.weeks := by
  have hall : d ∈ Day.all := by cases d <;> decide
  simp [weekdaysOf, hall]

/-! ## The rules that are made -/

structure MadeFor (rule : Rule) (mac : Text) (range : Range) : Prop where
  parental : rule.isParental = true
  forwards : rule.forwards = true
  mac : rule.mac = some mac
  weekdays : rule.weekdays = some (weekdaysOf range)
  times : rule.times = some (range.start.1 ++ ":00".toList, range.stop.1 ++ ":00".toList)
  target : rule.target = .reject

theorem MadeFor.applies_iff {clock : Clock} {rule : Rule} {mac : Text} {range : Range} {p : Packet}
    (h : MadeFor rule mac range) : rule.applies clock p = true ↔
      mac = p.mac ∧ (p.day.number : Rat) ∈ range.weeks ∧
        clock (range.start.1 ++ ":00".toList) (range.stop.1 ++ ":00".toList) p.time = true := by
  rw [Rule.applies, h.forwards, h.mac, h.weekdays, h.times]
  simp only [Bool.true_and, Option.all_some, Bool.and_eq_true, decide_eq_true_eq, and_assoc,
    mem_weekdaysOf]

def Made (r : Router) (rule : Rule) : Prop :=
  r.enable = true ∧ ∃ g ∈ r.groups, ∃ mac ∈ g.macs, ∃ range ∈ rangesOf g, MadeFor rule mac range

section
variable {env : Env} {r : Router} {mac : Text}

theorem rule_madeFor {range : Range} (i : Nat) :
    MadeFor (Downtime.rule ⟨mac, weekdaysOf range, range.start, range.stop⟩ i) mac range where
  parental := by
    unfold Rule.isParental Downtime.rule
    rw [strip_append]
    rfl
  forwards := rfl
  mac := rfl
  weekdays := rfl
  times := rfl
  target := rfl

theorem mem_downtimes {g : Group} : d ∈ downtimes env g ↔
    ∃ range ∈ rangesOf g, weekdaysOf range ≠ [] ∧
      ∃ mac ∈ g.macs, d = ⟨mac, weekdaysOf range, range.start, range.stop⟩ := by
  unfold downtimes
  rw [List.mem_flatMap]
  constructor
  · rintro ⟨range, hrange, hd⟩
    split at hd
    · cases hd
    · next hdays =>
      obtain ⟨mac, hmac, rfl⟩ := List.mem_map.1 hd
      refine ⟨range, (env.pairs_perm _).mem_iff.1 hrange, ?_, mac, hmac, rfl⟩
      simpa using hdays
  · rintro ⟨range, hrange, hdays, mac, hmac, rfl⟩
    refine ⟨range, (env.pairs_perm _).mem_iff.2 hrange, ?_⟩
    rw [if_neg (by simpa using hdays)]
    exact List.mem_map_of_mem hmac

theorem made_of_mem (h : rule ∈ parentalRules env r) : Made r rule := by
  unfold parentalRules at h
  split at h
  · next henable =>
    obtain ⟨i, hi, rfl⟩ := List.mem_mapIdx.1 h
    obtain ⟨g, hg, hd⟩ := List.mem_flatMap.1 (List.getElem_mem hi)
    obtain ⟨range, hrange, -, mac, hmac, heq⟩ := mem_downtimes.1 hd
    rw [heq]
    exact ⟨henable, g, hg, mac, hmac, range, hrange, rule_madeFor i⟩
  · cases h

theorem exists_rule {g : Group} {range : Range} {d : Day} (henable : r.enable = true)
    (hg : g ∈ r.groups) (hmac : mac ∈ g.macs) (hrange : range ∈ rangesOf g)
    (hday : (d.number : Rat) ∈ range.weeks) :
    ∃ rule ∈ parentalRules env r, MadeFor rule mac range := by
  have hdays : weekdaysOf range ≠ [] := List.ne_nil_of_mem (mem_weekdaysOf.2 hday)
  have hmem : (⟨mac, weekdaysOf range, range.start, range.stop⟩ : Downtime) ∈
      r.groups.flatMap (downtimes env) :=
    List.mem_flatMap.2 ⟨g, hg, mem_downtimes.2 ⟨range, hrange, hdays, mac, hmac, rfl⟩⟩
  obtain ⟨i, hi, heq⟩ := List.getElem_of_mem hmem
  unfold parentalRules
  rw [if_pos henable]
  refine ⟨_, List.mem_mapIdx.2 ⟨i, hi, rfl⟩, ?_⟩
  rw [heq]
  exact rule_madeFor i

theorem not_isAccess {rule : Rule} (h : rule.isParental = true) : rule.isAccess = false := by
  obtain ⟨rest, hrest⟩ := Option.isSome_iff_exists.1 h
  refine Bool.eq_false_iff.2 fun haccess => ?_
  obtain ⟨rest', hrest'⟩ := Option.isSome_iff_exists.1 haccess
  have heq : parentalName ++ rest = accessName ++ rest' :=
    (strip_eq_some.1 hrest).symm.trans (strip_eq_some.1 hrest')
  have hfourth := congrArg (fun t : Text => t[3]?) heq
  rw [List.getElem?_append_left (by decide), List.getElem?_append_left (by decide)] at hfourth
  exact absurd hfourth (by decide)

/-! ## The rules of the list -/

/-- What a rule of the list does: it rejects, or it lets a device through that is on the allow list. -/
def Listing (r : Router) (rule : Rule) : Prop :=
  rule.target = .reject ∨ ∃ mac, rule.mac = some mac ∧ Allowed r mac

theorem accessRule_isAccess {suffix : Text} {mac dest : Option Text} {target : Target} :
    (accessRule suffix mac dest target).isAccess = true := by
  unfold Rule.isAccess accessRule
  rw [strip_append]
  rfl

theorem mem_addressRules {what : String} {target : Target} {i : Nat} {rule : Rule}
    (h : rule ∈ addressRules what target i mac) :
    rule.isAccess = true ∧ rule.mac = some mac ∧ rule.target = target := by
  unfold addressRules at h
  obtain rfl | h := List.mem_cons.1 h
  · exact ⟨accessRule_isAccess, rfl, rfl⟩
  · obtain rfl := List.mem_singleton.1 h
    exact ⟨accessRule_isAccess, rfl, rfl⟩

theorem mem_listRules {what : String} {target : Target} {macs : List Text} {rule : Rule}
    (h : rule ∈ (macs.mapIdx (addressRules what target)).flatten) :
    rule.isAccess = true ∧ rule.target = target ∧ ∃ mac ∈ macs, rule.mac = some mac := by
  obtain ⟨rules, hrules, hrule⟩ := List.mem_flatten.1 h
  obtain ⟨i, hi, rfl⟩ := List.mem_mapIdx.1 hrules
  obtain ⟨haccess, hmac, htarget⟩ := mem_addressRules hrule
  exact ⟨haccess, htarget, _, List.getElem_mem hi, hmac⟩

theorem mem_accessRules {rule : Rule} (h : rule ∈ accessRules r) :
    rule.isAccess = true ∧ Listing r rule := by
  unfold accessRules at h
  split at h
  · next hmode =>
    obtain h | h := List.mem_append.1 h
    · obtain ⟨haccess, -, mac, hmem, hmac⟩ := mem_listRules h
      exact ⟨haccess, .inr ⟨mac, hmac, hmode, hmem⟩⟩
    · obtain rfl | h := List.mem_cons.1 h
      · exact ⟨accessRule_isAccess, .inl rfl⟩
      · obtain rfl := List.mem_singleton.1 h
        exact ⟨accessRule_isAccess, .inl rfl⟩
  · obtain ⟨haccess, htarget, -⟩ := mem_listRules h
    exact ⟨haccess, .inl htarget⟩

/-! ## Invariant -/

/-- What holds of the rules that are not made by `parental-control`, and of the groups. -/
structure Base (r : Router) : Prop where
  others : ∀ rule ∈ r.rules, rule.isParental = false → rule.isAccess = false → rule.forwards = false
  listing : ∀ rule ∈ r.rules, rule.isAccess = true → Listing r rule
  simple : ∀ g ∈ r.groups, Simple g.everyday g.schedules

/-- A rule that lets the device through stands before one that was made for a group. -/
def Overrides (mac : Text) (a b : Rule) : Prop :=
  a.isAccess = true ∧ a.target ≠ .reject ∧ a.mac = some mac ∧ b.isParental = true

structure Inv (mac : Text) (r : Router) : Prop extends Base r where
  made : ∀ rule ∈ r.rules, rule.isParental = true → Made r rule
  all : r.enable = true → ∀ g ∈ r.groups, mac ∈ g.macs → ∀ range ∈ rangesOf g, ∀ d : Day,
    (d.number : Rat) ∈ range.weeks → ∃ rule ∈ r.rules, MadeFor rule mac range
  order : r.rules.Pairwise fun a b => ¬Overrides mac a b

theorem Base.applyParental (h : Base r) : Base (applyParental env r) where
  others := by
    intro rule hrule hparental haccess
    obtain hrule | hrule := List.mem_append.1 hrule
    · exact h.others rule (List.mem_filter.1 hrule).1 hparental haccess
    · obtain ⟨-, _, _, _, _, _, _, hmade⟩ := made_of_mem hrule
      rw [hmade.parental] at hparental
      cases hparental
  listing := by
    intro rule hrule haccess
    obtain hrule | hrule := List.mem_append.1 hrule
    · exact h.listing rule (List.mem_filter.1 hrule).1 haccess
    · obtain ⟨-, _, _, _, _, _, _, hmade⟩ := made_of_mem hrule
      rw [not_isAccess hmade.parental] at haccess
      cases haccess
  simple := h.simple

theorem applyParental_inv (h : Base r) (hallowed : ¬Allowed r mac) :
    Inv mac (applyParental env r) where
  toBase := h.applyParental
  made := by
    intro rule hrule hparental
    obtain hrule | hrule := List.mem_append.1 hrule
    · have hnot := (List.mem_filter.1 hrule).2
      rw [hparental] at hnot
      cases hnot
    · exact made_of_mem hrule
  all := by
    intro henable g hg hmac range hrange d hday
    have hrule : ∃ rule ∈ parentalRules env r, MadeFor rule mac range :=
      exists_rule henable hg hmac hrange hday
    obtain ⟨rule, hrule, hmade⟩ := hrule
    exact ⟨rule, List.mem_append_right _ hrule, hmade⟩
  order := by
    -- nothing that lets the device through is there at all
    have hbase : Base (applyParental env r) := h.applyParental
    refine List.pairwise_of_forall_mem_list ?_
    rintro a ha b - ⟨haccess, htarget, hmac, -⟩
    obtain ha' | ⟨mac', hmac', hallowed'⟩ := hbase.listing a ha haccess
    · exact htarget ha'
    · obtain rfl := Option.some.inj (hmac.symm.trans hmac')
      exact hallowed hallowed'

theorem applyAccess_inv {r' : Router} (h : Inv mac r) (hrules : r'.rules = r.rules)
    (henable : r'.enable = r.enable) (hgroups : r'.groups = r.groups) : Inv mac (applyAccess r') where
  others := by
    intro rule hrule hparental haccess
    obtain hrule | hrule := List.mem_append.1 hrule
    · exact h.others rule (hrules ▸ (List.mem_filter.1 hrule).1) hparental haccess
    · rw [(mem_accessRules hrule).1] at haccess
      cases haccess
  listing := by
    intro rule hrule haccess
    obtain hrule | hrule := List.mem_append.1 hrule
    · have hnot := (List.mem_filter.1 hrule).2
      rw [haccess] at hnot
      cases hnot
    · exact (mem_accessRules hrule).2
  simple := hgroups.symm ▸ h.simple
  made := by
    intro rule hrule hparental
    obtain hrule | hrule := List.mem_append.1 hrule
    · obtain ⟨hon, g, hg, hmade⟩ := h.made rule (hrules ▸ (List.mem_filter.1 hrule).1) hparental
      exact ⟨henable.trans hon, g, hgroups.symm ▸ hg, hmade⟩
    · have haccess := (mem_accessRules hrule).1
      rw [not_isAccess hparental] at haccess
      cases haccess
  all := by
    intro hon g hg hmac range hrange d hday
    obtain ⟨rule, hrule, hmade⟩ :=
      h.all (henable.symm.trans hon) g (hgroups ▸ hg) hmac range hrange d hday
    refine ⟨rule, List.mem_append_left _ (List.mem_filter.2 ⟨hrules.symm ▸ hrule, ?_⟩), hmade⟩
    rw [not_isAccess hmade.parental]
    rfl
  order := by
    refine List.pairwise_append.2 ⟨(hrules.symm ▸ h.order).filter _, ?_, ?_⟩
    · refine List.pairwise_of_forall_mem_list ?_
      rintro a - b hb ⟨-, -, -, hparental⟩
      have haccess := (mem_accessRules hb).1
      rw [not_isAccess hparental] at haccess
      cases haccess
    · rintro a - b hb ⟨-, -, -, hparental⟩
      have haccess := (mem_accessRules hb).1
      rw [not_isAccess hparental] at haccess
      cases haccess

theorem save_inv (h : Inv mac r) : Inv mac (save r mode macs) := by
  cases mode with
  | black => exact applyAccess_inv h rfl rfl rfl
  | white => exact applyAccess_inv h rfl rfl rfl

/-! ## Steps -/

theorem Base.withEnable (h : Base r) : Base { r with enable := enable } :=
  ⟨h.others, h.listing, h.simple⟩

theorem Base.withGroups (h : Base r)
    (hgroups : ∀ g ∈ groups, Simple g.everyday g.schedules) : Base { r with groups := groups } :=
  ⟨h.others, h.listing, hgroups⟩

theorem writeGroup_simple {g' : Group} (h : writeGroup env args g = .ok g')
    (hsimple : SimpleRequest env args) : Simple g'.everyday g'.schedules := by
  unfold writeGroup at h
  obtain ⟨_, _, h⟩ := bind_eq_ok.1 h
  obtain ⟨macs, _, h⟩ := bind_eq_ok.1 h
  obtain ⟨schedules, hschedules, h⟩ := bind_eq_ok.1 h
  obtain ⟨blacklist, _, h⟩ := bind_eq_ok.1 h
  cases h
  exact hsimple schedules hschedules

theorem mem_replaceGroup (hh : h ∈ replaceGroup g groups) : h = g ∨ h ∈ groups := by
  induction groups with
  | nil => cases hh
  | cons k groups ih =>
    unfold replaceGroup at hh
    split at hh
    · obtain rfl | hh := List.mem_cons.1 hh
      · exact .inl rfl
      · exact .inr (List.mem_cons_of_mem _ hh)
    · obtain rfl | hh := List.mem_cons.1 hh
      · exact .inr List.mem_cons_self
      · exact (ih hh).imp_right (List.mem_cons_of_mem _)

theorem step_inv (h : Inv mac r) (hsound : Sound mac r e) : Inv mac (machine.step r e) := by
  obtain ⟨env, call⟩ := e
  cases call with
  | setConfig args =>
    change Inv mac (setConfig env r args).2
    unfold setConfig
    split
    · exact h
    · exact applyParental_inv h.withEnable hsound
  | addGroup args =>
    change Inv mac (addGroup env r args).2
    unfold addGroup
    split
    · exact h
    · next g hg =>
      refine applyParental_inv (h.withGroups ?_) hsound.1
      intro k hk
      obtain hk | hk := List.mem_append.1 hk
      · exact h.simple k hk
      · obtain rfl := List.mem_singleton.1 hk
        exact writeGroup_simple hg hsound.2
  | setGroup args =>
    change Inv mac (setGroup env r args).2
    unfold setGroup
    split
    · exact h
    · split
      · exact h
      · next g' hg' =>
        refine applyParental_inv (h.withGroups ?_) hsound.1
        intro k hk
        obtain rfl | hk := mem_replaceGroup hk
        · exact writeGroup_simple hg' hsound.2
        · exact h.simple k hk
  | removeGroup args =>
    change Inv mac (removeGroup env r args).2
    unfold removeGroup
    split
    · exact h
    · exact applyParental_inv (h.withGroups fun k hk => h.simple k (List.mem_of_mem_eraseP hk)) hsound
  | setList args =>
    change Inv mac (setList env r args).2
    unfold setList
    split
    · exact h
    · exact save_inv h
  | setSingleMac args =>
    change Inv mac (setSingleMac r args).2
    unfold setSingleMac
    split
    · exact h
    · exact save_inv h

/-! ## Enforcement -/

theorem Inv.nothingElse (h : Inv mac r) {rule : Rule}
    (hrule : rule ∈ r.rules) (hparental : rule.isParental = true)
    (happlies : rule.applies clock p = true) : Scheduled clock r p := by
  obtain ⟨henable, g, hg, mac, hmac, range, hrange, hmade⟩ := h.made rule hrule hparental
  obtain ⟨rfl, hday, hclock⟩ := hmade.applies_iff.1 happlies
  obtain ⟨e, he, henabled, hstart, hstop, hweek⟩ :=
    exists_entry_of_listed ⟨range, hrange, rfl, rfl, hday⟩
  refine ⟨henable, g, hg, hmac, e, he, henabled, hweek, ?_⟩
  rw [hstart, hstop]
  exact hclock

theorem Inv.rejected {clock : Clock} (h : Inv mac r) {p : Packet} (hp : p.mac = mac)
    (hscheduled : Scheduled clock r p) : verdict clock r.rules p = some .reject := by
  obtain ⟨henable, g, hg, hmac, e, he, henabled, hweek, hclock⟩ := hscheduled
  obtain ⟨range, hrange, hstart, hstop, hday⟩ := listed_of_entry (h.simple g hg) he henabled hweek
  obtain ⟨rule, hrule, hmade⟩ := h.all henable g hg (hp ▸ hmac) range hrange p.day hday
  have happlies : rule.applies clock p = true := by
    refine hmade.applies_iff.2 ⟨hp.symm, hday, ?_⟩
    rw [hstart, hstop]
    exact hclock
  obtain ⟨a, ha, hfind, hrel⟩ := find?_of_pairwise (q := fun rule => rule.applies clock p)
    h.order hrule happlies
  have happlies' : a.applies clock p = true :=
    List.find?_some (p := fun rule : Rule => rule.applies clock p) hfind
  suffices htarget : a.target = .reject by rw [verdict, hfind, Option.map_some, htarget]
  obtain rfl | hover := hrel
  · exact hmade.target
  -- the match comes first, and is of one of the three kinds
  by_cases hparental : a.isParental = true
  · obtain ⟨-, _, _, _, _, _, _, hmade'⟩ := h.made a ha hparental
    exact hmade'.target
  by_cases haccess : a.isAccess = true
  · obtain htarget | ⟨mac', hmac', -⟩ := h.listing a ha haccess
    · exact htarget
    · by_contra htarget
      have heq : mac' = p.mac := by
        simp only [Rule.applies, hmac', Option.all_some, Bool.and_eq_true, decide_eq_true_eq]
          at happlies'
        exact happlies'.1.1.2
      exact hover ⟨haccess, htarget, by rw [hmac', heq, hp], hmade.parental⟩
  · have hforwards := h.others a ha (by simpa using hparental) (by simpa using haccess)
    rw [Rule.applies, hforwards] at happlies'
    cases happlies'

end

/-- If the rules of the groups are only made while the device is not on the allow list, and everyday
groups have one entry, downtime is enforced. -/
theorem downtime_enforced {clock : Clock} {mac : Text} {r : Router} {es : List Event}
    (hr : Inv mac r) (hes : machine.Admits (Sound mac) r es) :
    Enforced clock (machine.run r es) mac := by
  have h := Machine.invariant (I := Inv mac) (fun _ _ hsound h => step_inv h hsound) hes hr
  exact ⟨fun _ => h.rejected, fun _ _ => h.nothingElse⟩

def seconds (t : Text) : Nat := (pieces ':' t).foldl (fun n piece => 60 * n + toNumber piece) 0

def sameDay : Clock := fun start stop time => seconds start ≤ time && time ≤ seconds stop

def fresh : Router := ⟨false, [], .black, [], [], []⟩

def someEnv : Env where
  toLua := .decimal
  pairs := id
  pairs_perm := fun _ => .refl _
  newId := fun ids => 'g' :: ids.flatten
  newId_not_mem := by
    intro ids hmem
    have hlength : ∀ t ∈ ids, t.length ≤ ids.flatten.length := fun t ht =>
      (List.sublist_flatten_of_mem ht).length_le
    have hle := hlength _ hmem
    rw [List.length_cons] at hle
    omega

def device : Text := "AA:BB:CC:DD:EE:FF"

def onMonday (start stop : String) : Json :=
  .obj [("week", .num 1), ("begin", .str start.toList),
    ("end", .str stop.toList)]

def addKids (days : String) (schedules : List Json) : Event :=
  ⟨someEnv, .addGroup (.obj [("name", .str "kids"),
    ("macs", .arr [.str device]), ("schedules_days", .str days.toList),
    ("schedules", .arr schedules)])⟩

def enableAll : Event := ⟨someEnv, .setConfig (.obj [("enable", .bool true)])⟩

def allowDevice : Event :=
  ⟨someEnv, .setList (.obj [("mode", .str "white"), ("mac", .arr [.str device])])⟩

theorem fresh_inv : Inv device fresh where
  others := fun _ h => nomatch h
  listing := fun _ h => nomatch h
  simple := fun _ h => nomatch h
  made := fun _ h => nomatch h
  all := fun h => nomatch h
  order := List.Pairwise.nil

/-- A device that is put on the allow list afterwards stays rejected on Monday mornings. -/
theorem downtime_enforced_allowed :
    let es := [addKids "customize" [onMonday "08:00" "12:00"], enableAll, allowDevice]
    machine.Admits (Sound device) fresh es ∧ Enforced sameDay (machine.run fresh es) device := by
  have hadmits : machine.Admits (Sound device) fresh
      [addKids "customize" [onMonday "08:00" "12:00"], enableAll, allowDevice] := by
    refine ⟨⟨?_, ?_⟩, ?_, trivial, trivial⟩
    · rintro ⟨h, -⟩
      cases h
    · intro schedules _ heveryday
      exact absurd heveryday (by decide)
    · rintro ⟨h, -⟩
      exact absurd h (by decide)
  exact ⟨hadmits, downtime_enforced fresh_inv hadmits⟩

/-- A device on the allow list is let through if its group is added later, and of two entries for every
day the second is not enforced. -/
theorem downtime_passed :
    Inv device fresh ∧
      ¬Enforced sameDay (machine.run fresh
        [allowDevice, addKids "customize" [onMonday "08:00" "12:00"], enableAll]) device ∧
      ¬Enforced sameDay (machine.run fresh
        [addKids "everyday" [onMonday "08:00" "12:00", onMonday "20:00" "23:00"], enableAll])
        device := by
  refine ⟨fresh_inv, fun h => ?_, fun h => ?_⟩
  · have hrejected := h.rejected ⟨device, .mon, 36000⟩ rfl (by decide)
    exact absurd hrejected (by decide)
  · have hrejected := h.rejected ⟨device, .mon, 75600⟩ rfl (by decide)
    exact absurd hrejected (by decide)

end GlXe3000.Oui.Parental
