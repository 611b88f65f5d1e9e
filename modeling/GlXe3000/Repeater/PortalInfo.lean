import GlXe3000.Repeater.Leftovers

/-! # The credentials of a portal: `get_repeater_portal` and `set_repeater_portal`

They are kept in the section `settings`, and in the record of the current network if it has one.
They are read from the record, and what is not there from `settings`. -/

namespace GlXe3000.Repeater
open Text

/-- Library functions. A number is never written as an empty text, and a mode is read back as it was
written. -/
structure PortalEnv extends Env where
  tostring_ne_nil : ∀ n : Rat, tostring (.num n) ≠ []
  tonumber_tostring : ∀ n : Nat, n ≤ 4 → tonumber (tostring (.num n)) = some n

/-! ## Reading -/

structure PortalInfo where
  authModeRaw : Text
  authMode : Rat
  oneClick : Bool
  username : Value
  password : Value
  voucher : Value
  deriving DecidableEq

/-- What `get_repeater_portal` returns. -/
structure PortalReply where
  res : PortalInfo
  portalInfo : PortalInfo
  deriving DecidableEq

/-- `current_saved`: the last record of the interface, or else the first one with its SSID. -/
def currentSaved (c : Config) : Option (Text × Section) :=
  let iface := repeaterIface c.wireless
  let ssid := iface.bind fun iface => (c.wireless.get iface "ssid").bind Value.asText
  (c.repeater.ofType savedAp).foldl (fun found e =>
    if iface.any (fun t => e.2.options "iface" = some (.text t)) ||
        ssid.any (fun t => e.2.options "ssid" = some (.text t)) && found.isNone then some e
    else found) none

/-- An option of the record, or of `settings`. -/
def portalOption (c : Config) (name : String) : Option Value :=
  ((currentSaved c).bind fun e => e.2.options name.toList).or (c.repeater.get settings name.toList)

def portalInfo (lua : Lua) (c : Config) : PortalInfo :=
  let rawMode := (portalOption c "portal_auth_mode").getD (.text ['0'])
  { authModeRaw := lua.asString rawMode.toJson
    authMode := (lua.number rawMode.toJson).getD 0
    oneClick := boolValue (some ((portalOption c "portal_one_click").getD (.text ['0'])).toJson)
    username := (portalOption c "portal_username").getD (.text [])
    password := (portalOption c "portal_password").getD (.text [])
    voucher := (portalOption c "portal_voucher").getD (.text []) }

def getRepeaterPortal (lua : Lua) (c : Config) : PortalReply :=
  ⟨portalInfo lua c, portalInfo lua c⟩

/-! ## Writing -/

def portalTexts : List String := ["username", "password", "voucher"]

def isScalar : Json → Bool
  | .bool _ | .num _ | .str _ => true
  | _ => false

def requestedMode (lua : Lua) (args : Json) : Option Rat :=
  (lua.number (Json.orElse (arg args "auth_mode") (.num 0))).filter fun n =>
    0 ≤ n && n ≤ 4 && n = n.floor

def checkPortal (lua : Lua) (args : Json) : Except Result Rat :=
  match requestedMode lua args with
  | none => .error (err 1 "invalid auth_mode")
  | some mode =>
    if (arg args "one_click").any fun v => !isScalar v then .error (err 1 "invalid one_click")
    else
      match portalTexts.find? fun name => (arg args name).any fun v => v.asText.isNone with
      | some name => .error (.err 1 ("invalid ".toList ++ name.toList))
      | none => .ok mode

def textArg (args : Json) (name : String) (old : Value) : Value :=
  ((arg args name).bind Json.asText).elim old .text

def oneClickArg (args : Json) (old : Bool) : Bool :=
  ((arg args "one_click").map fun v => boolValue (some v)).getD old

def portalValues (lua : Lua) (args : Json) (mode : Rat) (old : PortalInfo) :
    List (String × Value) :=
  [("portal_auth_mode", .text (lua.asString (.num mode))),
    ("portal_one_click", flagValue (oneClickArg args old.oneClick)),
    ("portal_username", textArg args "username" old.username),
    ("portal_password", textArg args "password" old.password),
    ("portal_voucher", textArg args "voucher" old.voucher)]

def setRepeaterPortal (lua : Lua) (args : Json) (c : Config) : Result × Config :=
  match checkPortal lua args with
  | .error e => (e, c)
  | .ok mode =>
    -- `saved` is the table of the section, and `cursor:set` raises an error if it is given a table
    -- for the name of a section: nothing is committed
    if (currentSaved c).isSome then (.raised, c)
    else if (arg args "save_config").bind Json.asBool = some false then (.ok, c)
    else (.ok, { c with
      repeater := c.repeater.setAll settings (portalValues lua args mode (portalInfo lua c)) })

/-! ## What should be read afterwards -/

/-- The values of the request. What it does not have is what was there before, apart from the
mode. -/
def requestedInfo (lua : Lua) (args : Json) (mode : Rat) (old : PortalInfo) : PortalInfo where
  authModeRaw := lua.asString (.num mode)
  authMode := mode
  oneClick := oneClickArg args old.oneClick
  username := textArg args "username" old.username
  password := textArg args "password" old.password
  voucher := textArg args "voucher" old.voucher

def IsSaved (p : Package) (n : Text) : Prop := p.typeOf n = some savedAp

instance (p : Package) (n : Text) : Decidable (IsSaved p n) := inferInstanceAs (Decidable (_ = _))

/-- What a package can hold: `settings` is no record, and no list is empty. -/
structure WellFormed (c : Config) : Prop where
  settings : ¬IsSaved c.repeater settings
  lists : ∀ name ∈ ["portal_username", "portal_password", "portal_voucher"],
    portalOption c name ≠ some (.list [])

/-- The values are stored: the current network has no record, they are to be saved, and there is a
section for them. -/
def Stores (args : Json) (c : Config) : Prop :=
  currentSaved c = none ∧ (arg args "save_config").bind Json.asBool ≠ some false ∧
    (c.repeater.typeOf settings).isSome

section
variable {lua : Lua} {args : Json} {c : Config} {mode : Rat}

theorem requestedMode_eq_some (h : checkPortal lua args = .ok mode) :
    ∃ n : Nat, n ≤ 4 ∧ mode = n := by
  unfold checkPortal at h
  split at h
  · cases h
  · next m hm =>
    have hmode : m = mode := by
      split at h
      · cases h
      · split at h <;> cases h
        rfl
    subst hmode
    obtain ⟨-, hm⟩ := Option.filter_eq_some_iff.1 hm
    simp only [Bool.and_eq_true, decide_eq_true_eq] at hm
    obtain ⟨⟨hlow, hhigh⟩, hfloor⟩ := hm
    obtain ⟨n, rfl⟩ := exists_nat_of_floor hlow hfloor
    exact ⟨n, by exact_mod_cast hhigh, rfl⟩

theorem stored_getD {v : Value} (h : v ≠ .list []) : v.stored.getD (.text []) = v := by
  cases v with
  | text t => cases t <;> rfl
  | list ts =>
    cases ts with
    | nil => exact absurd rfl h
    | cons t ts => rfl

theorem boolValue_flagValue (b : Bool) :
    boolValue (some ((flagValue b).stored.getD (.text ['0'])).toJson) = b := by
  cases b <;> rfl

theorem textArg_ne {o : Option Value} (h : o ≠ some (.list [])) :
    textArg args name (o.getD (.text [])) ≠ .list [] := by
  unfold textArg
  cases (arg args name).bind Json.asText with
  | some t => exact fun h => nomatch h
  | none =>
    cases o with
    | none => exact fun h => nomatch h
    | some v => exact fun hv => h (congrArg some hv)

theorem currentSaved_setAll {values : List (String × Value)} (h : ¬IsSaved c.repeater settings) :
    currentSaved { c with repeater := c.repeater.setAll settings values } = currentSaved c := by
  unfold currentSaved
  dsimp only
  rw [Package.ofType_setAll h]

theorem portalOption_of_stores (hc : WellFormed c) (hstores : Stores args c)
    {values : List (String × Value)} (hnodup : (values.map Prod.fst).Nodup)
    (hmem : (name, v) ∈ values) :
    portalOption { c with repeater := c.repeater.setAll settings values } name = v.stored := by
  rw [portalOption, currentSaved_setAll hc.settings, hstores.1, Option.bind_none, Option.none_or]
  exact Package.get_setAll_of_mem hstores.2.2 hnodup hmem

theorem portalInfo_setAll_of_none (h : c.repeater.typeOf settings = none)
    (values : List (String × Value)) :
    portalInfo lua { c with repeater := c.repeater.setAll settings values } = portalInfo lua c := by
  have hoption : ∀ name,
      portalOption { c with repeater := c.repeater.setAll settings values } name =
        portalOption c name := by
    intro name
    have hsaved : ¬IsSaved c.repeater settings := by
      rw [IsSaved, h]
      intro hsaved
      cases hsaved
    rw [portalOption, portalOption, currentSaved_setAll hsaved]
    dsimp only
    rw [Package.get_of_typeOf_eq_none h,
      Package.get_of_typeOf_eq_none (Package.typeOf_setAll.trans h)]
  simp only [portalInfo, hoption]

end

section
variable {env : PortalEnv} {args : Json} {c : Config} {mode : Rat}

theorem portalInfo_of_stores (hmode : checkPortal env.toLua args = .ok mode) (hc : WellFormed c)
    (hstores : Stores args c) :
    portalInfo env.toLua { c with
      repeater := c.repeater.setAll settings
        (portalValues env.toLua args mode (portalInfo env.toLua c)) } =
      requestedInfo env.toLua args mode (portalInfo env.toLua c) := by
  generalize hold : portalInfo env.toLua c = old
  have hread : ∀ name v, (name, v) ∈ portalValues env.toLua args mode old →
      portalOption { c with
        repeater := c.repeater.setAll settings (portalValues env.toLua args mode old) } name =
          v.stored := by
    intro name v hmem
    refine portalOption_of_stores hc hstores ?_ hmem
    simp only [portalValues, List.map_cons, List.map_nil]
    decide
  have htext : ∀ name stored, stored ∈ ["portal_username", "portal_password", "portal_voucher"] →
      (stored, textArg args name ((portalOption c stored).getD (.text []))) ∈
        portalValues env.toLua args mode old →
      (portalOption { c with
        repeater := c.repeater.setAll settings (portalValues env.toLua args mode old) } stored).getD
          (.text []) = textArg args name ((portalOption c stored).getD (.text [])) := by
    intro name stored hstored hmem
    rw [hread _ _ hmem]
    exact stored_getD (textArg_ne (hc.lists stored hstored))
  obtain ⟨n, hn, rfl⟩ := requestedMode_eq_some hmode
  have hrawMode : (Value.text (env.asString (.num n))).stored =
      some (.text (env.asString (.num n))) := Value.stored_text (env.tostring_ne_nil n)
  subst hold
  rw [portalInfo, requestedInfo, hread "portal_auth_mode" _ (.head _),
    hread "portal_one_click" _ (.tail _ (.head _)), hrawMode, PortalInfo.mk.injEq]
  refine ⟨rfl, ?_, boolValue_flagValue _, htext _ _ (.head _) (.tail _ (.tail _ (.head _))),
    htext _ _ (.tail _ (.head _)) (.tail _ (.tail _ (.tail _ (.head _)))),
    htext _ _ (.tail _ (.tail _ (.head _))) (.tail _ (.tail _ (.tail _ (.tail _ (.head _)))))⟩
  exact congrArg (fun o => o.getD 0) (env.tonumber_tostring n hn)

theorem setRepeaterPortal_of_stores (hmode : checkPortal env.toLua args = .ok mode)
    (hstores : Stores args c) :
    (setRepeaterPortal env.toLua args c).2 = { c with
      repeater := c.repeater.setAll settings
        (portalValues env.toLua args mode (portalInfo env.toLua c)) } := by
  unfold setRepeaterPortal
  rw [hmode, hstores.1]
  dsimp only
  rw [Option.isSome_none, if_neg Bool.false_ne_true, if_neg hstores.2.1]

theorem portalInfo_of_not_stores (h : ¬Stores args c) :
    portalInfo env.toLua (setRepeaterPortal env.toLua args c).2 = portalInfo env.toLua c := by
  unfold setRepeaterPortal
  split
  · rfl
  · split
    · rfl
    · next hsaved =>
      split
      · rfl
      · next hcommit =>
        rw [Option.not_isSome_iff_eq_none] at hsaved
        have hnone : c.repeater.typeOf settings = none :=
          Option.not_isSome_iff_eq_none.1 fun hsome => h ⟨hsaved, hcommit, hsome⟩
        exact portalInfo_setAll_of_none hnone _

theorem get_setRepeaterPortal (h : m ≠ settings) (o : Text) :
    (setRepeaterPortal env.toLua args c).2.repeater.get m o = c.repeater.get m o := by
  unfold setRepeaterPortal
  split
  · rfl
  · split
    · rfl
    · split
      · rfl
      · exact Package.get_setAll_of_ne h

/-- What a request has set is read afterwards if and only if it was stored, or it was there before.
The records keep their values. -/
theorem portal_round_trip_iff (hmode : checkPortal env.toLua args = .ok mode) (hc : WellFormed c) :
    (getRepeaterPortal env.toLua (setRepeaterPortal env.toLua args c).2 =
        ⟨requestedInfo env.toLua args mode (portalInfo env.toLua c),
          requestedInfo env.toLua args mode (portalInfo env.toLua c)⟩ ↔
      Stores args c ∨
        portalInfo env.toLua c = requestedInfo env.toLua args mode (portalInfo env.toLua c)) ∧
      ∀ m, IsSaved c.repeater m → ∀ o,
        (setRepeaterPortal env.toLua args c).2.repeater.get m o = c.repeater.get m o := by
  constructor
  · rw [getRepeaterPortal, PortalReply.mk.injEq, and_self_iff]
    by_cases hstores : Stores args c
    · rw [setRepeaterPortal_of_stores hmode hstores]
      exact ⟨fun _ => .inl hstores, fun _ => portalInfo_of_stores hmode hc hstores⟩
    · rw [portalInfo_of_not_stores hstores]
      exact ⟨.inr, fun h => h.resolve_left hstores⟩
  · intro m hm
    exact get_setRepeaterPortal fun h => hc.settings (h ▸ hm)

end

theorem toDigits_num_ne_nil (n : Rat) : Nat.toDigits 10 n.num.toNat ≠ [] := Nat.toDigits_ne_nil

def decimalPortal : PortalEnv where
  tonumber t := if isNumber t then some (toNumber t) else none
  tostring
    | .num n => Nat.toDigits 10 n.num.toNat
    | _ => []
  scan := fun _ => []
  randomMac := none
  tostring_ne_nil := toDigits_num_ne_nil
  tonumber_tostring n _ := by
    simp [isNumber_toDigits, toNumber_toDigits]

def guest : Json := request [("auth_mode", "2"), ("username", "guest"), ("password", "welcome")]

/-- Before any network is saved. -/
theorem portal_round_trip_iff_guest :
    checkPortal decimalPortal.toLua guest = .ok 2 ∧ WellFormed fresh ∧
      getRepeaterPortal decimalPortal.toLua
          (setRepeaterPortal decimalPortal.toLua guest fresh).2 =
        ⟨requestedInfo decimalPortal.toLua guest 2 (portalInfo decimalPortal.toLua fresh),
          requestedInfo decimalPortal.toLua guest 2
            (portalInfo decimalPortal.toLua fresh)⟩ := by
  have hmode : checkPortal decimalPortal.toLua guest = .ok 2 := by rfl
  have hc : WellFormed fresh := ⟨by decide, by decide⟩
  exact ⟨hmode, hc, (portal_round_trip_iff hmode hc).1.2 (.inl ⟨by decide, by decide, by decide⟩)⟩

/-- The current network is saved: an error is raised, and the user name is still empty. -/
theorem saved_network_raises :
    WellFormed (afterRequests [cafe]) ∧
      (setRepeaterPortal decimalPortal.toLua guest (afterRequests [cafe])).1 = .raised ∧
      (getRepeaterPortal decimalPortal.toLua
        (setRepeaterPortal decimalPortal.toLua guest (afterRequests [cafe])).2).res.username =
          .text [] := by
  refine ⟨⟨by decide, by decide⟩, by rfl, by rfl⟩

end GlXe3000.Repeater
