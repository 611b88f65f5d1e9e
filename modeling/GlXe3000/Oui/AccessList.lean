import GlXe3000.Oui.ParentalRules

/-! # The flag `blocked` of a client

`clients.get_list` decides with the stored list whether a client is blocked, in lower case and
without a look at the rules. `black_white_list` makes the rules of the list in capitals and leaves
out what is no address. After every call the two agree, and the rest of the firewall is as it was. -/

namespace GlXe3000.Oui.AccessList
open Text
open Parental (Mode Env isMac validMacs requestedMode storedTexts accessName)

/-- The packages `gl-oui-rpc` and `firewall`. -/
structure Router where
  oui : Package
  firewall : Package

/-! ## `black_white_list` -/

def sec : Text := "black_white_list"

def modeName : Mode → String
  | .black => "black"
  | .white => "white"

def macOption : Mode → String
  | .black => "black_mac"
  | .white => "white_mac"

def storedMacs (p : Package) (mode : Mode) : List Text :=
  ((p.get sec (macOption mode).toList).map Value.entries).getD []

/-- `list`. -/
def listOf (p : Package) (mode : Mode) : List Text := validMacs (storedMacs p mode)

/-- The options that `add_rule` sets. -/
def addRule (suffix : Text) (mac dest : Option Text) (target : String) : List (String × Value) :=
  [("name", .text (accessName ++ suffix)), ("src", .text "lan")] ++
    optional "src_mac" (mac.map .text) ++ optional "dest" (dest.map .text) ++
    [("target", .text target.toList)]

def addressRules (what target : String) (i : Nat) (mac : Text) : List (List (String × Value)) :=
  [addRule (what.toList ++ " input ".toList ++ Nat.toDigits 10 (i + 1)) (some mac) none target,
    addRule (what.toList ++ " forward ".toList ++ Nat.toDigits 10 (i + 1)) (some mac)
      (some "wan") target]

/-- Every mode but `white` is taken for `black`. -/
def accessRules (p : Package) : List (List (String × Value)) :=
  if p.get sec "mode" = some (.text "white") then
    ((listOf p .white).mapIdx (addressRules "allow" "ACCEPT")).flatten ++
      [addRule "reject other input" none none "REJECT",
        addRule "reject other forward" none (some "wan") "REJECT"]
  else ((listOf p .black).mapIdx (addressRules "block" "REJECT")).flatten

def isAccess (s : Section) : Bool :=
  s.type = "rule" &&
    ((s.options "name").bind Value.asText).any fun t => (strip accessName t).isSome

section
variable (env : Env) (r : Router) (args : Json)

def applyFirewall : Router :=
  let cleared := r.firewall.deleteAll ((r.firewall.owned fun e => isAccess e.2).map Prod.fst)
  { r with firewall := (accessRules r.oui).foldl (fun p options => p.add "rule" options) cleared }

def save (mode : Mode) (macs : List Text) : Router :=
  let p := (r.oui.setType sec sec).set sec "mode" (.text (modeName mode).toList)
  applyFirewall { r with
    oui := if macs.isEmpty then p.unset sec (macOption mode).toList
      else p.set sec (macOption mode).toList (.list macs) }

def setConfig : Result × Router :=
  match (do
    let mode ← requestedMode args
    let macs ← storedTexts env ((arg args "mac").getD .null)
    return (mode, macs) : Except Result (Mode × List Text)) with
  | .error e => (e, r)
  | .ok (mode, macs) => (.ok, save r mode macs)

def setSingleMac : Result × Router :=
  match (do
    let mode ← requestedMode args
    let mac ← ((arg args "mac").bind Json.asText).elim (.error (err 1 "missing mac")) Except.ok
    return (mode, upper mac) : Except Result (Mode × Text)) with
  | .error e => (e, r)
  | .ok (mode, wanted) =>
    let others := (listOf r.oui mode).filter (· ≠ wanted)
    let add := (arg args "operate").any (Json.isText · "add")
    (.ok, save r mode (if add then others ++ [wanted] else others))

inductive Call
  | setConfig (args : Json)
  | setSingleMac (args : Json)

def Call.answer : Call → Result × Router
  | setConfig args => AccessList.setConfig env r args
  | setSingleMac args => AccessList.setSingleMac r args

/-- The call names a mode and a list of texts, or a text. -/
def Call.IsValid : Call → Prop
  | setConfig args => (∃ mode, arg args "mode" = some (.str (modeName mode).toList)) ∧
    ∃ macs : List Text, arg args "mac" = some (.arr (macs.map .str))
  | setSingleMac args => (∃ mode, arg args "mode" = some (.str (modeName mode).toList)) ∧
    ∃ mac, arg args "mac" = some (.str mac)

/-! ## What the clients are shown and what the rules say -/

/-- `is_blocked` of `clients.lua`. -/
def isBlocked (p : Package) (mac : Text) : Bool :=
  let mode := (p.get sec "mode").getD (.text "black")
  let listed := fun m => ((storedMacs p m).map lower).any (· = mac)
  (mode = .text "white" && !listed .white) || (mode = .text "black" && listed .black)

/-- What a client sends: to the router itself, or to the WAN. -/
inductive Traffic
  | input
  | forward

def Traffic.dest : Traffic → Option Text
  | input => none
  | forward => some "wan"

/-- The firewall compares addresses, so the case of a text does not matter to it. -/
def concerns (traffic : Traffic) (mac : Text) (s : Section) : Bool :=
  s.options "src" = some (.text "lan") && s.options "dest" = traffic.dest.map .text &&
    (s.options "src_mac").all (· = .text (upper mac))

/-- The target of the first access rule that concerns the client. -/
def verdict (traffic : Traffic) (mac : Text) : Option Value :=
  (((r.firewall.owned fun e => isAccess e.2).map Prod.snd).find? (concerns traffic mac)).bind
    fun s => s.options "target"

/-- Every client is shown as blocked that the rules reject, and no other one. -/
def Agrees : Prop :=
  ∀ mac traffic, isMac (upper mac) = true →
    (isBlocked r.oui (lower mac) = true ↔ verdict r traffic mac = some (.text "REJECT"))

end

/-! ## The stored list and its addresses -/

theorem toLower_eq_iff {c d : Char} : c.toLower = d.toLower ↔ c.toUpper = d.toUpper := by
  constructor
  · intro h
    rw [← Char.toUpper_toLower_eq_toUpper c, h, Char.toUpper_toLower_eq_toUpper]
  · intro h
    rw [← Char.toLower_toUpper_eq_toLower c, h, Char.toLower_toUpper_eq_toLower]

theorem lower_eq_iff : lower t = lower u ↔ upper t = upper u := by
  induction t generalizing u with
  | nil => cases u <;> simp [lower, upper]
  | cons c t ih =>
    cases u with
    | nil => simp [lower, upper]
    | cons d u =>
      simp only [lower, upper, List.map_cons, List.cons.injEq] at ih ⊢
      rw [toLower_eq_iff, ih]

theorem mem_validMacs {stored : List Text} :
    mac ∈ validMacs stored ↔ mac ∈ stored.map upper ∧ isMac mac = true := by
  have hfold : ∀ l out : List Text,
      mac ∈ l.foldl (fun out mac => if mac ∈ out then out else out ++ [mac]) out ↔
        mac ∈ out ∨ mac ∈ l := by
    intro l
    induction l with
    | nil => simp
    | cons x l ih =>
      intro out
      rw [List.foldl_cons, ih]
      split_ifs with hx
      · simp only [List.mem_cons]
        constructor
        · rintro (h | h)
          · exact .inl h
          · exact .inr (.inr h)
        · rintro (h | rfl | h)
          · exact .inl h
          · exact .inl hx
          · exact .inr h
      · simp [or_assoc]
  rw [validMacs, hfold, List.mem_filter]
  simp

theorem any_lower_iff {stored : List Text} (h : isMac (upper mac) = true) :
    (stored.map lower).any (· = lower mac) = true ↔ upper mac ∈ validMacs stored := by
  rw [mem_validMacs, List.any_map, List.any_eq_true, List.mem_map]
  simp [lower_eq_iff, h]

theorem ne_nil_of_mem_listOf (h : mac ∈ listOf p mode) : mac ≠ [] := by
  rintro rfl
  exact absurd (mem_validMacs.1 h).2 (by decide)

/-! ## The rules of a list -/

section
variable {mac dest : Option Text} {suffix : Text} {target : String}

theorem nodup_addRule : ((addRule suffix mac dest target).map Prod.fst).Nodup := by
  cases mac <;> cases dest <;> simp [addRule, optional]

theorem options_addRule {o : String} {v : Value} (h : (o, v) ∈ addRule suffix mac dest target) :
    (Section.make "rule" (addRule suffix mac dest target)).options o.toList = v.stored :=
  Section.options_setAll_of_mem nodup_addRule h

theorem isAccess_addRule :
    isAccess (Section.make "rule" (addRule suffix mac dest target)) = true := by
  have hname : (Section.make "rule" (addRule suffix mac dest target)).options "name" =
      some (.text (accessName ++ suffix)) :=
    (options_addRule List.mem_cons_self).trans
      (Value.stored_text fun h => absurd (List.append_eq_nil_iff.1 h).1 (by decide))
  rw [isAccess, Section.type_make, hname]
  simp [Value.asText, strip_append]

theorem target_addRule (h : target.toList ≠ []) :
    (Section.make "rule" (addRule suffix mac dest target)).options "target" =
      some (.text target.toList) :=
  (options_addRule (by simp [addRule])).trans (Value.stored_text h)

theorem optional_addRule {o : String} {v : Option Text} (hv : ∀ t, v = some t → t ≠ [])
    (hmem : ∀ t, v = some t → (o, .text t) ∈ addRule suffix mac dest target)
    (hnone : v = none → ∀ e ∈ addRule suffix mac dest target, o.toList ≠ e.1.toList) :
    (Section.make "rule" (addRule suffix mac dest target)).options o.toList = v.map .text := by
  cases v with
  | none => exact Section.options_setAll_of_not_mem (hnone rfl)
  | some t => exact (options_addRule (hmem t rfl)).trans (Value.stored_text (hv t rfl))

theorem concerns_addRule (hmac : ∀ t, mac = some t → t ≠ []) (hdest : ∀ t, dest = some t → t ≠ []) :
    concerns traffic client (Section.make "rule" (addRule suffix mac dest target)) = true ↔
      dest = traffic.dest ∧ ∀ t, mac = some t → t = upper client := by
  have hsrc : (Section.make "rule" (addRule suffix mac dest target)).options "src" =
      some (.text "lan") :=
    (options_addRule (by simp [addRule])).trans (Value.stored_text (by decide))
  have hdests : (Section.make "rule" (addRule suffix mac dest target)).options "dest" =
      dest.map .text := by
    refine optional_addRule hdest (fun t ht => by simp [addRule, optional, ht]) fun ht => ?_
    cases mac <;> simp [addRule, optional, ht]
  have hmacs : (Section.make "rule" (addRule suffix mac dest target)).options "src_mac" =
      mac.map .text := by
    refine optional_addRule hmac (fun t ht => by simp [addRule, optional, ht]) fun ht => ?_
    cases dest <;> simp [addRule, optional, ht]
  rw [concerns, hsrc, hdests, hmacs]
  cases mac <;> cases dest <;> cases traffic <;> simp [Traffic.dest]

end

/-- What the sections of the rules say of the client. -/
def decides (rules : List (List (String × Value))) (traffic : Traffic) (mac : Text) :
    Option Value :=
  ((rules.map (Section.make "rule")).find? (concerns traffic mac)).bind fun s => s.options "target"

theorem decides_append {rules rules' : List (List (String × Value))}
    (h : ∀ options ∈ rules, ((Section.make "rule" options).options "target").isSome) :
    decides (rules ++ rules') traffic mac =
      (decides rules traffic mac).or (decides rules' traffic mac) := by
  rw [decides, List.map_append, List.find?_append, decides]
  cases hfind : (rules.map (Section.make "rule")).find? (concerns traffic mac) with
  | none => rfl
  | some s =>
    obtain ⟨options, hmem, rfl⟩ := List.mem_map.1 (List.mem_of_find?_eq_some hfind)
    obtain ⟨v, hv⟩ := Option.isSome_iff_exists.1 (h options hmem)
    rw [Option.some_or, Option.bind_some, hv, Option.some_or]

section
variable {macs : List Text} {what target : String} {options : List (String × Value)}

theorem mem_listRules (h : options ∈ (macs.mapIdx (addressRules what target)).flatten) :
    ∃ suffix dest, ∃ mac ∈ macs, options = addRule suffix (some mac) dest target ∧
      ∀ t, dest = some t → t ≠ [] := by
  obtain ⟨rules, hrules, hmem⟩ := List.mem_flatten.1 h
  obtain ⟨i, hi, rfl⟩ := List.mem_mapIdx.1 hrules
  obtain rfl | rfl := List.mem_pair.1 hmem
  · exact ⟨_, _, _, List.getElem_mem hi, rfl, by simp⟩
  · refine ⟨_, _, _, List.getElem_mem hi, rfl, ?_⟩
    rintro t ⟨⟩
    decide

theorem decides_listRules (htarget : target.toList ≠ []) (hmacs : ∀ m ∈ macs, m ≠ []) :
    decides (macs.mapIdx (addressRules what target)).flatten traffic mac =
      if upper mac ∈ macs then some (.text target.toList) else none := by
  rw [decides]
  cases hfind : ((macs.mapIdx (addressRules what target)).flatten.map
      (Section.make "rule")).find? (concerns traffic mac) with
  | some s =>
    have hconcerns := List.find?_some hfind
    obtain ⟨options, hmem, rfl⟩ := List.mem_map.1 (List.mem_of_find?_eq_some hfind)
    obtain ⟨suffix, dest, listed, hlisted, rfl, hdest⟩ := mem_listRules hmem
    have hmac : ∀ t, some listed = some t → t ≠ [] := by
      rintro t ⟨⟩
      exact hmacs listed hlisted
    have heq := ((concerns_addRule hmac hdest).1 hconcerns).2 listed rfl
    rw [if_pos (heq ▸ hlisted)]
    exact target_addRule htarget
  | none =>
    rw [if_neg, Option.bind_none]
    intro hmem
    -- Of the two rules for the address, one is about this traffic.
    obtain ⟨i, hi, hget⟩ := List.getElem_of_mem hmem
    have hrules : addressRules what target i (upper mac) ∈
        macs.mapIdx (addressRules what target) := List.mem_mapIdx.2 ⟨i, hi, by rw [hget]⟩
    have hnone := List.find?_eq_none.1 hfind
    have hmac : ∀ t, some (upper mac) = some t → t ≠ [] := by
      rintro t ⟨⟩
      exact hmacs _ hmem
    cases traffic with
    | input =>
      refine hnone _ (List.mem_map_of_mem
        (List.mem_flatten.2 ⟨_, hrules, List.mem_cons_self⟩)) ?_
      exact (concerns_addRule hmac (by simp)).2 ⟨rfl, by simp⟩
    | forward =>
      refine hnone _ (List.mem_map_of_mem
        (List.mem_flatten.2 ⟨_, hrules, List.mem_cons_of_mem _ List.mem_cons_self⟩)) ?_
      refine (concerns_addRule hmac ?_).2 ⟨rfl, by simp⟩
      rintro t ⟨⟩
      decide

end

/-! ## What a call leaves behind -/

theorem sections_applyFirewall (r : Router) :
    ∃ new, (applyFirewall r).firewall.sections =
        r.firewall.sections.filter (fun e => !isAccess e.2) ++ new ∧
      new.map Prod.snd = (accessRules r.oui).map (Section.make "rule") := by
  obtain ⟨new, hnew, hmap⟩ := Package.sections_addAll (accessRules r.oui)
  refine ⟨new, hnew.trans ?_, hmap⟩
  rw [Package.sections_deleteOwned]

theorem isAccess_accessRules (h : options ∈ accessRules p) :
    isAccess (Section.make "rule" options) = true := by
  unfold accessRules at h
  split_ifs at h
  · obtain h | h := List.mem_append.1 h
    · obtain ⟨suffix, dest, mac, -, rfl, -⟩ := mem_listRules h
      exact isAccess_addRule
    · obtain rfl | rfl := List.mem_pair.1 h <;> exact isAccess_addRule
  · obtain ⟨suffix, dest, mac, -, rfl, -⟩ := mem_listRules h
    exact isAccess_addRule

theorem owned_applyFirewall (r : Router) :
    ((applyFirewall r).firewall.owned fun e => isAccess e.2).map Prod.snd =
        (accessRules r.oui).map (Section.make "rule") ∧
      (applyFirewall r).firewall.owned (fun e => !isAccess e.2) =
        r.firewall.owned fun e => !isAccess e.2 := by
  obtain ⟨new, hsections, hmap⟩ := sections_applyFirewall r
  have hnew : ∀ e ∈ new, isAccess e.2 = true := by
    intro e he
    obtain ⟨options, hmem, heq⟩ := List.mem_map.1 (hmap ▸ List.mem_map_of_mem he)
    exact heq ▸ isAccess_accessRules hmem
  rw [Package.owned, Package.owned, hsections, List.filter_append, List.filter_append,
    List.filter_filter, List.filter_filter, List.filter_eq_self.2 hnew,
    (List.filter_eq_nil_iff (l := new)).2 fun e he => by rw [hnew e he]; decide]
  simp [hmap, Package.owned]

theorem verdict_applyFirewall (r : Router) :
    verdict (applyFirewall r) traffic mac = decides (accessRules r.oui) traffic mac := by
  rw [verdict, (owned_applyFirewall r).1, decides]

theorem agrees_black (r : Router) (h : r.oui.get sec "mode" = some (.text "black")) :
    Agrees (applyFirewall r) := by
  intro mac traffic hmac
  have hrules : accessRules r.oui =
      ((listOf r.oui .black).mapIdx (addressRules "block" "REJECT")).flatten := by
    rw [accessRules, h, if_neg (by decide)]
  rw [verdict_applyFirewall, hrules, decides_listRules (by decide) fun _ => ne_nil_of_mem_listOf]
  have hblocked : isBlocked (applyFirewall r).oui (lower mac) =
      ((storedMacs r.oui .black).map lower).any (· = lower mac) := by
    rw [isBlocked, show (applyFirewall r).oui = r.oui from rfl, h]
    rfl
  rw [hblocked, any_lower_iff hmac, listOf]
  split_ifs with hlisted
  · exact iff_of_true hlisted rfl
  · exact iff_of_false hlisted nofun

theorem agrees_white (r : Router) (h : r.oui.get sec "mode" = some (.text "white")) :
    Agrees (applyFirewall r) := by
  intro mac traffic hmac
  have hothers : decides [addRule "reject other input" none none "REJECT",
      addRule "reject other forward" none (some "wan") "REJECT"] traffic mac =
        some (.text "REJECT") := by
    cases traffic <;> rfl
  have htargets : ∀ options ∈ ((listOf r.oui .white).mapIdx
      (addressRules "allow" "ACCEPT")).flatten,
        ((Section.make "rule" options).options "target").isSome := by
    intro options hmem
    obtain ⟨suffix, dest, m, -, rfl, -⟩ := mem_listRules hmem
    rw [target_addRule (by decide)]
    rfl
  rw [verdict_applyFirewall, accessRules, h, if_pos rfl, decides_append htargets, hothers,
    decides_listRules (by decide) fun _ => ne_nil_of_mem_listOf]
  have hblocked : isBlocked (applyFirewall r).oui (lower mac) =
      !((storedMacs r.oui .white).map lower).any (· = lower mac) := by
    rw [isBlocked, show (applyFirewall r).oui = r.oui from rfl, h]
    simp
  rw [hblocked, Bool.not_eq_true', ← Bool.not_eq_true, any_lower_iff hmac, listOf]
  split_ifs with hlisted
  · exact iff_of_false (not_not_intro hlisted) nofun
  · exact iff_of_true hlisted rfl

theorem agrees_save (r : Router) (mode : Mode) (macs : List Text) : Agrees (save r mode macs) := by
  have hmode : ((r.oui.setType sec sec).set sec "mode" (.text (modeName mode).toList)).get sec
      "mode" = some (.text (modeName mode).toList) := by
    rw [Package.get_set_self (by simp)]
    exact Value.stored_text (by cases mode <;> decide)
  have hne : ("mode".toList : Text) ≠ (macOption mode).toList := by cases mode <;> decide
  have hstored : (save r mode macs).oui.get sec "mode" = some (.text (modeName mode).toList) := by
    show Package.get (if macs.isEmpty then _ else _) _ _ = _
    split_ifs
    · rw [Package.get_unset_of_ne (.inr hne), hmode]
    · rw [Package.get_set_of_ne (.inr hne), hmode]
  cases mode
  · exact agrees_black _ hstored
  · exact agrees_white _ hstored

/-! ## Calls -/

section
variable (env : Env) (r : Router) (args : Json)

theorem requestedMode_ne_ok (h : requestedMode args = .error e) : e ≠ .ok := by
  unfold requestedMode at h
  split_ifs at h
  cases h
  exact Result.noConfusion

theorem storedTexts_ne_ok (h : storedTexts env v = .error e) : e ≠ .ok := by
  unfold storedTexts at h
  split at h
  · cases h
  · unfold Lua.optionValue at h
    split at h <;> split at h <;> cases h <;> exact Result.noConfusion

theorem requestedMode_of_text {mode : Mode}
    (h : arg args "mode" = some (.str (modeName mode).toList)) : requestedMode args = .ok mode := by
  rw [requestedMode, h]
  cases mode <;> rfl

theorem storedTexts_texts (macs : List Text) :
    storedTexts env (.arr (macs.map .str)) = .ok macs := by
  cases macs with
  | nil => rfl
  | cons mac macs =>
    show (env.optionValue _).map Value.entries = _
    rw [env.optionValue_texts (List.cons_ne_nil _ _)]
    rfl

theorem answer_cases (call : Call) :
    (¬ call.IsValid ∧ (call.answer env r).1 ≠ .ok ∧ (call.answer env r).2 = r) ∨
      ∃ mode macs, call.answer env r = (.ok, save r mode macs) := by
  cases call with
  | setConfig args =>
    rw [Call.answer, setConfig]
    cases hmode : requestedMode args with
    | error e =>
      refine .inl ⟨?_, requestedMode_ne_ok args hmode, rfl⟩
      rintro ⟨⟨mode, h⟩, -⟩
      cases (requestedMode_of_text args h).symm.trans hmode
    | ok mode =>
      cases hmacs : storedTexts env ((arg args "mac").getD .null) with
      | error e =>
        refine .inl ⟨?_, storedTexts_ne_ok env hmacs, rfl⟩
        rintro ⟨-, macs, h⟩
        rw [h] at hmacs
        cases (storedTexts_texts env macs).symm.trans hmacs
      | ok macs => exact .inr ⟨mode, macs, rfl⟩
  | setSingleMac args =>
    rw [Call.answer, setSingleMac]
    cases hmode : requestedMode args with
    | error e =>
      refine .inl ⟨?_, requestedMode_ne_ok args hmode, rfl⟩
      rintro ⟨⟨mode, h⟩, -⟩
      cases (requestedMode_of_text args h).symm.trans hmode
    | ok mode =>
      cases hmac : (arg args "mac").bind Json.asText with
      | none =>
        refine .inl ⟨?_, Result.noConfusion, rfl⟩
        rintro ⟨-, mac, h⟩
        rw [h] at hmac
        cases hmac
      | some mac => exact .inr ⟨mode, _, rfl⟩

theorem answer_others (call : Call) :
    (call.answer env r).2.firewall.owned (fun e => !isAccess e.2) =
      r.firewall.owned fun e => !isAccess e.2 := by
  obtain ⟨-, -, hr⟩ | ⟨mode, macs, hr⟩ := answer_cases env r call
  · rw [hr]
  · rw [hr]
    exact (owned_applyFirewall _).2

/-- A call that names a mode and addresses succeeds. One that succeeds makes the flag of every client
agree with the verdict of the rules, one that fails changes nothing. The other sections of the
firewall are those from before the calls. -/
theorem blocked_iff_rejected (calls : List Call) (call : Call) :
    let before := calls.foldl (fun s c => (c.answer env s).2) r
    let after := call.answer env before
    (call.IsValid → after.1 = .ok) ∧ (after.1 = .ok → Agrees after.2) ∧
      (after.1 ≠ .ok → after.2 = before) ∧
      after.2.firewall.owned (fun e => !isAccess e.2) =
        r.firewall.owned fun e => !isAccess e.2 := by
  intro before after
  have hbefore : before.firewall.owned (fun e => !isAccess e.2) =
      r.firewall.owned fun e => !isAccess e.2 := by
    show (calls.foldl _ r).firewall.owned _ = _
    clear before after
    induction calls generalizing r with
    | nil => rfl
    | cons c calls ih => rw [List.foldl_cons, ih, answer_others]
  have hothers := (answer_others env before call).trans hbefore
  obtain ⟨hinvalid, hne, hsame⟩ | ⟨mode, macs, hr⟩ := answer_cases env before call
  · exact ⟨fun h => absurd h hinvalid, fun h => absurd h hne, fun _ => hsame, hothers⟩
  · have hok : after.1 = .ok := congrArg Prod.fst hr
    have hagrees : Agrees after.2 := congrArg Prod.snd hr ▸ agrees_save before mode macs
    exact ⟨fun _ => hok, fun _ => hagrees, fun h => absurd hok h, hothers⟩

end

def pingOnly : Router where
  oui := .empty
  firewall := Package.empty.newSection "ping" "rule"
    [("name", .text "Allow-Ping"), ("target", .text "ACCEPT")]

def allow (mac : String) : Call :=
  .setSingleMac (.obj [("mode", .str "white"), ("mac", .str mac.toList), ("operate", .str "add")])

/-- One client is allowed, in small letters, and the others are rejected. -/
theorem blocked_iff_rejected_allow :
    let after := (allow "aa:bb:cc:00:00:01").answer Parental.someEnv pingOnly
    after.1 = .ok ∧ Agrees after.2 ∧
      verdict after.2 .forward "AA:BB:CC:00:00:01" = some (.text "ACCEPT") ∧
      isBlocked after.2.oui "aa:bb:cc:00:00:02" = true ∧
      after.2.firewall.owned (fun e => !isAccess e.2) = pingOnly.firewall.sections := by
  intro after
  obtain ⟨hvalid, hagrees, -, hothers⟩ :=
    blocked_iff_rejected Parental.someEnv pingOnly [] (allow "aa:bb:cc:00:00:01")
  have hok : after.1 = .ok := hvalid ⟨⟨.white, rfl⟩, _, rfl⟩
  have hping : ∀ e ∈ pingOnly.firewall.sections, (!isAccess e.2) = true := by decide
  exact ⟨hok, hagrees hok, by decide, by decide, hothers.trans (List.filter_eq_self.2 hping)⟩

end GlXe3000.Oui.AccessList
