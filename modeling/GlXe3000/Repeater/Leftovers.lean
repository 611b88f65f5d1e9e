import GlXe3000.Repeater.Config

/-! # What a connection leaves of the network before

All networks are written into one interface, and each kind of security writes only some of its
options. What it does not write is that of the network before, and it is recorded as the security of
the new one. -/

namespace GlXe3000.Repeater
open Text

/-! ## What a connection reads -/

def requestedSsid (args : Json) : Text := ((arg args "ssid").bind Json.asText).getD []

def uplinkOption (c : Config) (name : String) : Option Value :=
  (withStation c.wireless).2.get (withStation c.wireless).1 name.toList

/-- An option of the interface after `apply_config`. -/
def appliedOption (env : Env) (args : Json) (c : Config) (name : String) : Option Value :=
  (applyConfig env args c).2.wireless.get (withStation c.wireless).1 name.toList

def ownRecord (p : Package) (ssid : Text) : Option Text :=
  ((p.ofType savedAp).find? fun e => e.2.options "ssid" = some (.text ssid)).map Prod.fst

def ownSecurity (p : Package) (ssid : Text) (name : String) : Option Value :=
  (ownRecord p ssid).bind fun n => p.get n name.toList

def bssidOf (args : Json) : Option Text :=
  match requestedBssid args with
  | .ok bssid => bssid
  | .error _ => none

def requestFields (env : Env) (args : Json) (c : Config) : Fields :=
  advertised ((env.scan (some (chooseRadio env args c (requestedSsid args) (bssidOf args)))).find?
    (isAsked (requestedSsid args) (bssidOf args))) (arg args)

/-- Two configurations with the same record of the network and the same radios. They may differ in
the interface and in the other records. -/
structure Alike (ssid : Text) (c₁ c₂ : Config) : Prop where
  record : ∀ name ∈ securityFields,
    ownSecurity c₁.repeater ssid name = ownSecurity c₂.repeater ssid name
  bands : ∀ radio ∈ radios,
    c₁.wireless.get radio "band" = c₂.wireless.get radio "band"
  lockBand : c₁.repeater.getText settings "lock_band" =
    c₂.repeater.getText settings "lock_band"

def given (v : Option Value) : Option Value := v.filter fun v => v ≠ .text []

/-- A request without credentials gets those of the record: the interface has none of its own for
the network, and no record is found by the name of the interface. -/
structure Recalls (c : Config) (ssid : Text) : Prop where
  live : uplinkOption c "ssid" = some (.text ssid) → ∀ name ∈ securityFields,
    given (uplinkOption c name) = given (ownSecurity c.repeater ssid name)
  record : uplinkOption c "ssid" ≠ some (.text ssid) →
    savedSection c ssid (withStation c.wireless).1 = ownRecord c.repeater ssid

/-! ## What a connection writes -/

def isEnterprise (f : Fields) : Bool :=
  (f "identity").isSome || (f "eap_type").isSome || !isEmptyOrNone (f "auth")

def keptFields (f : Fields) : List String :=
  if isEnterprise f then if Json.truthy (f "ca_cert") then [] else ["ca_cert"]
  else ["auth", "anonymous_identity", "ca_cert"]

def Edit.writes (e : Edit) : List String := e.sets.map Prod.fst ++ e.unsets

namespace Edit
variable {e : Edit} {p q : Package} {n m : Text} {o : String}

theorem typeOf_apply : (e.apply p n).typeOf m = p.typeOf m := by
  rw [apply, Package.typeOf_unsetAll, Package.typeOf_setAll]

theorem get_apply_of_not_writes (h : o ∉ e.writes) :
    (e.apply p n).get m o.toList = p.get m o.toList := by
  rw [writes, List.mem_append, not_or] at h
  rw [apply, Package.get_unsetAll_of_not_mem (.inr h.2),
    Package.get_setAll_of_not_mem (Section.toList_ne_of_not_mem h.1)]

theorem get_apply_congr (hp : (p.typeOf n).isSome) (hq : (q.typeOf m).isSome) (h : o ∈ e.writes) :
    (e.apply p n).get n o.toList = (e.apply q m).get m o.toList := by
  unfold apply
  by_cases ho : o ∈ e.unsets
  · rw [Package.get_unsetAll_of_mem ho, Package.get_unsetAll_of_mem ho]
  · rw [Package.get_unsetAll_of_not_mem (.inr ho), Package.get_unsetAll_of_not_mem (.inr ho)]
    exact Package.get_setAll_congr hp hq ((List.mem_append.1 h).resolve_right ho)

end Edit

section
variable {env : Env} {args : Json} {f : Fields} {e : Edit}

theorem setIfGiven_map_fst {l : List (String × Value)} (h : setIfGiven env name v = .ok l) :
    l.map Prod.fst = if Json.truthy v then [name] else [] := by
  unfold setIfGiven at h
  split at h
  · next hv =>
    obtain ⟨w, _, h⟩ := bind_eq_ok.1 h
    cases h
    rw [if_pos hv]
    rfl
  · next hv =>
    cases h
    rw [if_neg hv]
    rfl

theorem mem_writes_enterpriseEdit (h : enterpriseEdit env f secret = .ok e) (hname : name ∈ securityFields) :
    name ∈ e.writes ↔ name ∉ if Json.truthy (f "ca_cert") then [] else ["ca_cert"] := by
  unfold enterpriseEdit at h
  obtain ⟨eapType, _, h⟩ := bind_eq_ok.1 h
  obtain ⟨auth, _, h⟩ := bind_eq_ok.1 h
  obtain ⟨identity, _, h⟩ := bind_eq_ok.1 h
  obtain ⟨password, _, h⟩ := bind_eq_ok.1 h
  obtain ⟨anonymous, hanonymous, h⟩ := bind_eq_ok.1 h
  obtain ⟨caCert, hcaCert, h⟩ := bind_eq_ok.1 h
  cases h
  have hanonymous := setIfGiven_map_fst hanonymous
  have hcaCert := setIfGiven_map_fst hcaCert
  -- the anonymous identity is deleted if it is not set, the certificate is not
  have hempty : anonymous.isEmpty = !Json.truthy (f "anonymous_identity") := by
    cases anonymous <;> cases htruthy : Json.truthy (f "anonymous_identity") <;>
      simp_all
  simp only [Edit.writes, List.map_append, hanonymous, hcaCert, hempty, List.map_cons, List.map_nil]
  revert name
  cases Json.truthy (f "anonymous_identity") <;> cases Json.truthy (f "ca_cert") <;> decide

theorem mem_writes_securityEdit (h : securityEdit env f = .ok e)
    (hname : name ∈ securityFields) : name ∈ e.writes ↔ name ∉ keptFields f := by
  unfold securityEdit at h
  unfold keptFields isEnterprise
  extract_lets secret at h
  clear_value secret
  split at h
  · next henterprise =>
    rw [if_pos henterprise]
    exact mem_writes_enterpriseEdit h hname
  · next henterprise =>
    rw [if_neg henterprise]
    split at h
    · obtain ⟨key, _, h⟩ := bind_eq_ok.1 h
      cases h
      simp only [Edit.writes, List.map_cons, List.map_nil]
      revert name
      decide
    · cases h
      revert name
      decide

theorem not_writes_networkEdit (hname : name ∈ securityFields) :
    name ∉ (networkEdit ssid radio bssid).writes := by
  unfold networkEdit
  split
  all_goals
    simp only [Edit.writes, List.map_cons, List.map_nil]
    revert name
    decide

theorem not_writes_macEdit {mac : Mac} (hname : name ∈ securityFields) :
    name ∉ mac.edit.writes := by
  unfold Mac.edit
  split
  all_goals
    simp only [Edit.writes, List.map_cons, List.map_nil]
    revert name
    decide

end

/-! ## One connection -/

section
variable {env : Env} {args : Json} {c : Config} {plan : Plan}

theorem typeOf_withStation (p : Package) : ((withStation p).2.typeOf (withStation p).1).isSome := by
  unfold withStation
  split
  · next iface h =>
    obtain ⟨e, he, rfl⟩ := Option.map_eq_some_iff.1 h
    have hmem := List.mem_of_mem_filter (List.mem_of_getLast? he)
    rw [Package.typeOf_eq_some_iff.2 ⟨e.2, hmem⟩]
    rfl
  · rw [Package.add, Package.typeOf_newSection_self]
    rfl

def plannedFields (env : Env) (args : Json) (c : Config) : Fields :=
  withPrior (priorSecurity c (requestedSsid args) (withStation c.wireless).1
    (withStation c.wireless).2) (requestFields env args c)

def editedWireless (env : Env) (args : Json) (c : Config) (security : Edit) (mac : Option Mac) :
    Package :=
  let iface := (withStation c.wireless).1
  let radio := chooseRadio env args c (requestedSsid args) (bssidOf args)
  let p := (networkEdit (requestedSsid args) radio (bssidOf args)).apply (withStation c.wireless).2
    iface
  let p := security.apply p iface
  (mac.map Mac.edit).elim p fun e => e.apply p iface

theorem planWireless_eq_ok : planWireless env args c = .ok plan ↔
    ∃ security mac, (arg args "ssid").bind Json.asText = some (requestedSsid args) ∧
      requestedBssid args = .ok (bssidOf args) ∧
      securityEdit env (plannedFields env args c) = .ok security ∧
      requestedMac env args = .ok mac ∧
      plan = ⟨requestedSsid args, (withStation c.wireless).1,
        chooseRadio env args c (requestedSsid args) (bssidOf args),
        editedWireless env args c security mac, mac⟩ := by
  constructor
  · intro h
    unfold planWireless at h
    obtain ⟨ssid, hssid, h⟩ := bind_eq_ok.1 h
    obtain ⟨bssid, hbssid, h⟩ := bind_eq_ok.1 h
    obtain ⟨security, hsecurity, h⟩ := bind_eq_ok.1 h
    obtain ⟨mac, hmac, h⟩ := bind_eq_ok.1 h
    cases h
    have hssid := elim_eq_ok.1 hssid
    obtain rfl : requestedSsid args = ssid := by rw [requestedSsid, hssid, Option.getD_some]
    obtain rfl : bssidOf args = bssid := by rw [bssidOf, hbssid]
    exact ⟨security, mac, hssid, hbssid, hsecurity, hmac, rfl⟩
  · rintro ⟨security, mac, hssid, hbssid, hsecurity, hmac, rfl⟩
    unfold planWireless
    refine bind_eq_ok.2 ⟨_, elim_eq_ok.2 hssid, bind_eq_ok.2 ⟨_, hbssid, ?_⟩⟩
    exact bind_eq_ok.2 ⟨security, hsecurity, bind_eq_ok.2 ⟨mac, hmac, rfl⟩⟩

theorem wireless_applyConfig (h : planWireless env args c = .ok plan) :
    (applyConfig env args c).2.wireless = plan.wireless := by
  unfold applyConfig commitAll
  rw [h]
  dsimp only
  cases planNetwork env args c with
  | error e => rfl
  | ok network =>
    dsimp only
    cases planSaved env args c plan network with
    | error e => rfl
    | ok repeater => rfl

theorem get_editedWireless {security : Edit} {name : String} (hname : name ∈ securityFields) :
    (editedWireless env args c security mac).get (withStation c.wireless).1 name.toList =
      (security.apply ((networkEdit (requestedSsid args)
        (chooseRadio env args c (requestedSsid args) (bssidOf args)) (bssidOf args)).apply
          (withStation c.wireless).2 (withStation c.wireless).1) (withStation c.wireless).1).get
            (withStation c.wireless).1 name.toList := by
  cases mac with
  | none => rfl
  | some mac => exact Edit.get_apply_of_not_writes (not_writes_macEdit hname)

theorem appliedOption_of_kept (h : planWireless env args c = .ok plan)
    (hname : name ∈ securityFields) (hkept : name ∈ keptFields (plannedFields env args c)) :
    appliedOption env args c name = uplinkOption c name := by
  obtain ⟨security, mac, -, -, hsecurity, -, rfl⟩ := planWireless_eq_ok.1 h
  have hnot : name ∉ security.writes := fun hmem =>
    (mem_writes_securityEdit hsecurity hname).1 hmem hkept
  rw [appliedOption, wireless_applyConfig h, get_editedWireless hname,
    Edit.get_apply_of_not_writes hnot, Edit.get_apply_of_not_writes (not_writes_networkEdit hname),
    uplinkOption]

theorem keptFields_subset (f : Fields) : keptFields f ⊆ securityFields := by
  unfold keptFields
  split
  · split <;> decide
  · decide

end

/-! ## Two connections -/

section
variable {env : Env} {args : Json} {c₁ c₂ : Config} {plan : Plan} {ssid : Text}

def recalled (prior : String → Option Value) (f : Fields) : Fields := fun name =>
  match given (prior name) with
  | some v => if name ∈ securityFields then some v.toJson else f name
  | none => f name

theorem withPrior_eq (prior : String → Option Value) (f : Fields) :
    withPrior prior f = if isProvided f then f
      else if (recalled prior f "encryption").isSome then recalled prior f
      else (recalled prior f).put "encryption" (.str "none") := rfl

theorem recalled_congr {prior prior' : String → Option Value}
    (h : ∀ name ∈ securityFields, given (prior name) = given (prior' name)) :
    recalled prior f = recalled prior' f := by
  funext name
  unfold recalled
  by_cases hname : name ∈ securityFields
  · rw [h name hname]
  · simp only [if_neg hname]
    split <;> split <;> rfl

theorem withPrior_congr {prior prior' : String → Option Value}
    (h : isProvided f = true ∨ ∀ name ∈ securityFields, given (prior name) = given (prior' name)) :
    withPrior prior f = withPrior prior' f := by
  rw [withPrior_eq, withPrior_eq]
  obtain h | h := h
  · rw [if_pos h, if_pos h]
  · rw [recalled_congr h]

theorem Alike.chooseRadio_eq (h : Alike ssid c₁ c₂) (env : Env) (args : Json) (name : Text)
    (bssid : Option Text) :
    chooseRadio env args c₁ name bssid = chooseRadio env args c₂ name bssid := by
  have hband : ∀ band, radioWithBand c₁.wireless band = radioWithBand c₂.wireless band := by
    intro band
    have h0 := h.bands "radio0" List.mem_cons_self
    have h1 := h.bands "radio1" (List.mem_cons_of_mem _ List.mem_cons_self)
    simp only [radioWithBand, radios, List.find?_cons, List.find?_nil, h0, h1]
  have hlock : ∀ band, radioForBand c₁.wireless band = radioForBand c₂.wireless band := by
    intro band
    unfold radioForBand
    simp only [hband]
  unfold chooseRadio
  simp only [hband, hlock, h.lockBand]

theorem Alike.requestFields_eq (h : Alike ssid c₁ c₂) (env : Env) (args : Json) :
    requestFields env args c₁ = requestFields env args c₂ := by
  rw [requestFields, requestFields, h.chooseRadio_eq]

theorem Recalls.prior {c : Config} (h : Recalls c ssid) : ∀ name ∈ securityFields,
    given (priorSecurity c ssid (withStation c.wireless).1 (withStation c.wireless).2 name) =
      given (ownSecurity c.repeater ssid name) := by
  intro name hname
  unfold priorSecurity
  split
  · next hlive => exact h.live hlive name hname
  · next hlive => rw [h.record hlive, ownSecurity]

/-- With credentials, or with those of the record, the security is that of the record and of the
request. -/
theorem plannedFields_eq {c : Config} (h : isProvided (requestFields env args c) = true ∨
      Recalls c (requestedSsid args)) :
    plannedFields env args c =
      withPrior (ownSecurity c.repeater (requestedSsid args)) (requestFields env args c) :=
  withPrior_congr (h.imp_right Recalls.prior)

theorem Alike.plannedFields_eq (h : Alike (requestedSsid args) c₁ c₂)
    (hprior : isProvided (requestFields env args c₁) = true ∨
      Recalls c₁ (requestedSsid args) ∧ Recalls c₂ (requestedSsid args)) :
    plannedFields env args c₁ = plannedFields env args c₂ := by
  rw [Repeater.plannedFields_eq (hprior.imp_right And.left),
    Repeater.plannedFields_eq (hprior.imp (fun hp => h.requestFields_eq env args ▸ hp) And.right),
    h.requestFields_eq env args]
  exact withPrior_congr (.inr fun name hname => congrArg given (h.record name hname))

theorem appliedOption_congr (h₁ : planWireless env args c₁ = .ok plan₁)
    (h₂ : planWireless env args c₂ = .ok plan₂)
    (hfields : plannedFields env args c₁ = plannedFields env args c₂)
    (hname : name ∈ securityFields) (hkept : name ∉ keptFields (plannedFields env args c₁)) :
    appliedOption env args c₁ name = appliedOption env args c₂ name := by
  obtain ⟨security, mac, -, -, hsecurity, -, rfl⟩ := planWireless_eq_ok.1 h₁
  obtain ⟨security', mac', -, -, hsecurity', -, rfl⟩ := planWireless_eq_ok.1 h₂
  rw [← hfields, hsecurity] at hsecurity'
  cases hsecurity'
  have hwrites := (mem_writes_securityEdit hsecurity hname).2 hkept
  rw [appliedOption, appliedOption, wireless_applyConfig h₁, wireless_applyConfig h₂,
    get_editedWireless hname, get_editedWireless hname]
  apply Edit.get_apply_congr _ _ hwrites
  · rw [Edit.typeOf_apply]
    exact typeOf_withStation c₁.wireless
  · rw [Edit.typeOf_apply]
    exact typeOf_withStation c₂.wireless

/-- A connection with credentials, or with those of the record, leaves the same security whatever
the interface had before, up to the options that its kind of security keeps. -/
theorem security_determined_iff (hok : ∃ plan, planWireless env args c₁ = .ok plan)
    (halike : Alike (requestedSsid args) c₁ c₂)
    (hprior : isProvided (requestFields env args c₁) = true ∨
      Recalls c₁ (requestedSsid args) ∧ Recalls c₂ (requestedSsid args)) :
    (∃ plan, planWireless env args c₂ = .ok plan) ∧
      ((∀ name ∈ securityFields,
          appliedOption env args c₁ name = appliedOption env args c₂ name) ↔
        ∀ name ∈ keptFields (withPrior (ownSecurity c₁.repeater (requestedSsid args))
          (requestFields env args c₁)), uplinkOption c₁ name = uplinkOption c₂ name) := by
  obtain ⟨plan₁, h₁⟩ := hok
  have hfields := halike.plannedFields_eq hprior
  obtain ⟨security, mac, hssid, hbssid, hsecurity, hmac, -⟩ := planWireless_eq_ok.1 h₁
  have h₂ := planWireless_eq_ok.2 ⟨security, mac, hssid, hbssid, hfields ▸ hsecurity, hmac, rfl⟩
  rw [← Repeater.plannedFields_eq (hprior.imp_right And.left)]
  refine ⟨⟨_, h₂⟩, ?_, ?_⟩
  · intro h name hkept
    have hname := keptFields_subset _ hkept
    rw [← appliedOption_of_kept h₁ hname hkept,
      ← appliedOption_of_kept h₂ hname (hfields ▸ hkept)]
    exact h name hname
  · intro h name hname
    by_cases hkept : name ∈ keptFields (plannedFields env args c₁)
    · rw [appliedOption_of_kept h₁ hname hkept, appliedOption_of_kept h₂ hname (hfields ▸ hkept)]
      exact h name hkept
    · exact appliedOption_congr h₁ h₂ hfields hname hkept

end

/-! ## A network of a university, and a café after it -/

def request (fields : List (String × String)) : Json :=
  .obj (fields.map fun e => (e.1.toList, .str e.2.toList))

def fresh : Config where
  wireless := Package.empty.newSection "radio0" "wifi-device" [("band", .text "5g")]
  repeater := Package.empty.newSection settings settings [("auto", .text ['1'])]
  network := Package.empty.newSection uplink "interface" [("proto", .text "dhcp")]

def afterRequests (requests : List Json) : Config :=
  requests.foldl (fun c args => (applyConfig someEnv args c).2) fresh

def campus : Json :=
  request [("ssid", "campus"), ("identity", "student"), ("password", "secret"), ("auth", "PAP")]

def cafe : Json := request [("ssid", "cafe"), ("key", "espresso")]

def hotel : Json := request [("ssid", "hotel"), ("key", "lobby")]

/-- After another network of the same kind nothing is left. -/
theorem security_determined_iff_cafe :
    (∃ plan, planWireless someEnv cafe (afterRequests []) = .ok plan) ∧
      Alike (requestedSsid cafe) (afterRequests []) (afterRequests [hotel]) ∧
      isProvided (requestFields someEnv cafe (afterRequests [])) = true ∧
      ∀ name ∈ securityFields, appliedOption someEnv cafe (afterRequests []) name =
        appliedOption someEnv cafe (afterRequests [hotel]) name := by
  have hok : ∃ plan, planWireless someEnv cafe (afterRequests []) = .ok plan := ⟨_, rfl⟩
  have halike : Alike (requestedSsid cafe) (afterRequests []) (afterRequests [hotel]) :=
    ⟨by decide, by decide, by decide⟩
  have hprovided : isProvided (requestFields someEnv cafe (afterRequests [])) = true := by decide
  refine ⟨hok, halike, hprovided, ?_⟩
  exact (security_determined_iff hok halike (.inl hprovided)).2.2 (by decide)

/-- The inner method of the university is left in the interface. It is recorded with the café, and
the next connection to it, which has no credentials, is one to a university. -/
theorem inner_method_left_over :
    Alike (requestedSsid cafe) (afterRequests []) (afterRequests [campus]) ∧
      isProvided (requestFields someEnv cafe (afterRequests [])) = true ∧
      appliedOption someEnv cafe (afterRequests []) "auth" = none ∧
      appliedOption someEnv cafe (afterRequests [campus]) "auth" = some (.text "PAP") ∧
      appliedOption someEnv (request [("ssid", "cafe")]) (afterRequests [cafe]) "encryption" =
        some (.text "sae-mixed") ∧
      appliedOption someEnv (request [("ssid", "cafe")]) (afterRequests [campus, cafe])
        "encryption" = some (.text "wpa2") := by
  refine ⟨⟨by decide, by decide, by decide⟩, ?_⟩
  decide

end GlXe3000.Repeater
