import GlXe3000.Oui.Vpn.OvpnServer

/-! # What is generated for the OpenVPN server

The instance exists only while the server is enabled, and it asks for a name and a password just when
the bundle for clients does. Both look at the stored `client_auth`, and `get_config` reports a default
where nothing is stored. A server that is disabled keeps its sections in the firewall. -/

namespace GlXe3000.Oui.Vpn.OvpnServer
open Text

def demandsLogin (r : Router) : Bool := (r.openvpn.get iface "auth_user_pass_verify").isSome

/-- A client with the bundle asks for a name and a password: the line is there, before the files that
are embedded. -/
def asksLogin (lines : List Text) : Bool :=
  "auth-user-pass".toList ∈ lines.takeWhile fun l => l ≠ "<ca>".toList

structure Agrees (env : Env) (r : Router) : Prop where
  running : (r.openvpn.find iface).isSome = true → isEnabled r.ovpnserver = true
  opened : ∀ n ∈ firewallNames, (r.firewall.find n).isSome = true → isEnabled r.ovpnserver = true
  login : (r.openvpn.find iface).isSome = true →
    (demandsLogin r = true ↔ (vpnConfig env r.ovpnserver).clientAuth = 1)
  bundle : ∀ address lines, bundleLines env r address = .ok lines →
    (asksLogin lines = true ↔ (vpnConfig env r.ovpnserver).clientAuth = 1)

/-- `client_auth` is there, `ta` is no list, and `vpn` and `global` are not users. -/
structure Stored (p : Package) : Prop where
  auth : ∃ v, p.get vpn "client_auth" = some v ∧ v ≠ .text []
  ta : ∀ ts, p.get vpn "ta" ≠ some (.list ts)
  vpnKept : p.typeOf vpn ≠ some "user".toList
  globalKept : p.typeOf global ≠ some "user".toList

/-- A server runs only if it is enabled and ready, and asks for a password as it is stored. -/
structure Inv (r : Router) : Prop where
  running : (r.openvpn.find iface).isSome = true → isEnabled r.ovpnserver = true
  login : (r.openvpn.find iface).isSome = true → demandsLogin r = clientAuth r.ovpnserver
  ready : (r.openvpn.find iface).isSome = true → initialized r = true
  stored : Stored r.ovpnserver

def Closed (r : Router) : Prop :=
  ∀ n ∈ firewallNames, (r.firewall.find n).isSome = true → isEnabled r.ovpnserver = true

/-! ## Reports and bundles -/

section
variable {env : Env} {r : Router} {p q : Package} {n : Text} {args : Json}
  {options : List (String × Value)}

theorem names_tlsAuth {tls : List (String × Value)}
    (h : tlsAuth r config = .ok tls) : tls.map Prod.fst ⊆ ["tls_auth"] := by
  unfold tlsAuth at h
  split at h
  · split at h
    · cases h
    · cases h
      split_ifs <;> simp
  · cases h
    simp

theorem names_serviceOptions (h : serviceOptions env r = .ok options) :
    "auth_user_pass_verify" ∉ options.map Prod.fst := by
  simp only [serviceOptions, bind_eq_ok] at h
  obtain ⟨subnet, -, mask, -, tls, htls, hoptions⟩ := h
  rw [← Except.ok.inj hoptions]
  intro hmem
  simp only [List.map_append, List.mem_append] at hmem
  obtain ((((hmem | hmem) | hmem) | hmem) | hmem) | hmem := hmem
  · simp at hmem
  · split_ifs at hmem <;> simp at hmem
  · simp at hmem
  · split_ifs at hmem <;> simp at hmem
  · split_ifs at hmem <;> simp at hmem
  · exact absurd (names_tlsAuth htls hmem) (by decide)

theorem login_instanceOptions (h : instanceOptions env r = .ok options) :
    ((Section.make type options).options "auth_user_pass_verify").isSome =
      clientAuth r.ovpnserver := by
  simp only [instanceOptions, bind_eq_ok] at h
  obtain ⟨service, hservice, hoptions⟩ := h
  rw [← Except.ok.inj hoptions, Section.make, Section.setAll_append]
  unfold loginOptions
  cases hauth : clientAuth r.ovpnserver with
  | true =>
    rw [if_pos rfl, Section.options_setAll_of_mem (o := "auth_user_pass_verify")
      (v := .text "/usr/lib/gl-oui-rpc/ovpnserver-auth.sh via-env") (by simp) (by simp)]
    decide
  | false =>
    have hnone : (({ type := type } : Section).setAll service).options
        "auth_user_pass_verify" = none :=
      Section.options_setAll_of_not_mem
        (Section.toList_ne_of_not_mem (names_serviceOptions hservice))
    exact congrArg Option.isSome hnone

theorem vpnGet_text {o : String} (h : ∀ ts, p.get vpn o.toList ≠ some (.list ts)) :
    ∃ t, vpnGet p o d = .text t := by
  unfold vpnGet Package.getOr
  cases hget : p.get vpn o.toList with
  | none => exact ⟨_, rfl⟩
  | some v =>
    cases v with
    | list ts => exact absurd hget (h ts)
    | text t =>
      rw [Option.filter_some]
      split_ifs
      · exact ⟨t, rfl⟩
      · exact ⟨_, rfl⟩

theorem instanceOptions_ok (h4 : ∃ t, vpnGet r.ovpnserver "subnetv4" "10.8.0.0" = .text t)
    (hmask : ∃ t, vpnGet r.ovpnserver "mask" "255.255.255.0" = .text t)
    (hta : ∃ t, vpnGet r.ovpnserver "ta" "" = .text t) :
    ∃ options, instanceOptions env r = .ok options := by
  obtain ⟨subnet, hsubnet⟩ := h4
  obtain ⟨mask, hmask⟩ := hmask
  obtain ⟨ta, hta⟩ := hta
  have htls : ∃ tls, tlsAuth r (vpnConfig env r.ovpnserver) = .ok tls := by
    have hconfig : (vpnConfig env r.ovpnserver).ta = .text ta := hta
    unfold tlsAuth
    rw [hconfig]
    split_ifs
    · exact ⟨_, rfl⟩
    · exact ⟨_, rfl⟩
  obtain ⟨tls, htls⟩ := htls
  have hsubnet' : (vpnConfig env r.ovpnserver).subnetv4 = .text subnet := hsubnet
  have hmask' : (vpnConfig env r.ovpnserver).mask = .text mask := hmask
  unfold instanceOptions serviceOptions
  dsimp only
  rw [hsubnet', hmask', htls]
  exact ⟨_, rfl⟩

theorem applyRuntime_cases (env : Env) (r : Router) : (applyRuntime env r).2 = r ∨
    initialized r = true ∧ ∃ options firewall, instanceOptions env r = .ok options ∧
      (applyRuntime env r).2 =
        { r with
          openvpn := (r.openvpn.delete iface).newSection iface "openvpn" options
          firewall := firewall } := by
  unfold applyRuntime
  split
  · exact .inl rfl
  · next hinit =>
    have hinit : initialized r = true := by simpa using hinit
    split
    · exact .inl rfl
    · split
      · exact .inl rfl
      · next options hoptions => exact .inr ⟨hinit, options, _, hoptions, rfl⟩

theorem applyRuntime_ok (hinit : initialized r = true)
    (htun : vpnGet r.ovpnserver "dev_type" "tun" = .text "tun")
    (hoptions : instanceOptions env r = .ok options) : ∃ firewall, (applyRuntime env r).2 =
      { r with
        openvpn := (r.openvpn.delete iface).newSection iface "openvpn" options
        firewall := firewall } := by
  unfold applyRuntime
  rw [hinit, hoptions, if_neg (by decide), if_neg (not_not.2 htun)]
  exact ⟨_, rfl⟩

theorem Inv.of_none (hnone : ¬(r.openvpn.find iface).isSome = true) (h : Stored r.ovpnserver) :
    Inv r :=
  ⟨fun hsome => absurd hsome hnone, fun hsome => absurd hsome hnone,
    fun hsome => absurd hsome hnone, h⟩

theorem Inv.replaced {firewall : Package} (hon : isEnabled r.ovpnserver = true)
    (hinit : initialized r = true) (hstored : Stored r.ovpnserver)
    (hoptions : instanceOptions env r = .ok options) :
    Inv { r with
      openvpn := (r.openvpn.delete iface).newSection iface "openvpn" options
      firewall := firewall } := by
  refine ⟨fun _ => hon, fun _ => ?_, fun _ => hinit, hstored⟩
  unfold demandsLogin Package.get
  rw [Package.find_newSection_self Package.find_delete_self, Option.bind_some]
  exact login_instanceOptions hoptions

/-! ## Settings -/

section
variable {m type : Text} {o : Text}

theorem get_ensure : (ensure p n type).get m o = p.get m o := by
  unfold ensure
  split_ifs
  · rfl
  · exact Package.get_setType

theorem exists_find_ensure (p : Package) (n type : Text) :
    ∃ s, (ensure p n type).find n = some s := by
  unfold ensure
  split_ifs with h
  · exact Option.isSome_iff_exists.1 h
  · exact ⟨_, Package.find_setType_self⟩

theorem typeOf_ensure_ne (h : p.typeOf m ≠ some user) (htype : type ≠ user) :
    (ensure p n type).typeOf m ≠ some user := by
  unfold ensure
  split_ifs
  · exact h
  · by_cases hm : m = n
    · subst hm
      rw [Package.typeOf_setType_self]
      exact fun heq => htype (Option.some_inj.1 heq)
    · rw [Package.typeOf_setType_of_ne hm]
      exact h

end

theorem configOptions_ok (h : configOptions env args = .ok options) :
    (options.map Prod.fst).Nodup ∧ ("dev_type", .text "tun") ∈ options ∧
      (∃ t, ("subnetv4", .text t) ∈ options) ∧ (∃ t, ("mask", .text t) ∈ options) ∧
      (∃ b, ("client_auth", flagValue b) ∈ options) ∧
      ("ta" ∉ options.map Prod.fst ∨ ∃ t, ("ta", .text t) ∈ options) := by
  simp only [configOptions, bind_eq_ok, elim_eq_ok] at h
  obtain ⟨_, -, subnetv4, -, mask, -, port, -, proto, -, subnetv6, -, start, -, endAddress, -, auth, -,
    cipher, -, hoptions⟩ := h
  rw [← Except.ok.inj hoptions]
  refine ⟨?_, by simp, ⟨subnetv4, by simp⟩, ⟨mask, by simp⟩,
    ⟨boolOf (arg args "client_auth"), by simp⟩, ?_⟩
  · cases (arg args "ta").bind Json.asText <;> simp [optional]
  · cases (arg args "ta").bind Json.asText with
    | none => exact .inl (by simp [optional])
    | some ta => exact .inr ⟨ta, by simp [optional]⟩

theorem exists_stored_flagValue (b : Bool) : ∃ v, (flagValue b).stored = some v ∧ v ≠ .text [] := by
  cases b
  · exact ⟨_, rfl, by decide⟩
  · exact ⟨_, rfl, by decide⟩

theorem setConfig_stored (h : Stored p) (hok : configOptions env args = .ok options) :
    Stored ((ensure p vpn "service".toList).setAll vpn options) := by
  obtain ⟨hnodup, -, -, -, ⟨b, hauth⟩, hta⟩ := configOptions_ok hok
  obtain ⟨s, hs⟩ := exists_find_ensure p vpn "service".toList
  have hget : ∀ {o : String} {v : Value}, (o, v) ∈ options →
      ((ensure p vpn "service".toList).setAll vpn options).get vpn o.toList = v.stored := by
    intro o v hmem
    rw [Package.get, Package.find_setAll_self, hs, Option.map_some, Option.bind_some,
      Section.options_setAll_of_mem hnodup hmem]
  have htype : "service".toList ≠ "user".toList := by decide
  refine ⟨?_, fun ts => ?_, ?_, ?_⟩
  · rw [hget hauth]
    exact exists_stored_flagValue b
  · obtain hta | ⟨t, hta⟩ := hta
    · rw [Package.get_setAll_of_not_mem (Section.toList_ne_of_not_mem hta), get_ensure]
      exact h.ta ts
    · rw [hget hta]
      cases t <;> intro heq <;> cases heq
  · rw [Package.typeOf_setAll]
    exact typeOf_ensure_ne h.vpnKept htype
  · rw [Package.typeOf_setAll]
    exact typeOf_ensure_ne h.globalKept htype

theorem vpn_ne_global : vpn ≠ global := by decide

theorem isEnabled_setConfig :
    isEnabled ((ensure p vpn "service").setAll vpn options) = isEnabled p := by
  rw [isEnabled, Package.get_setAll_of_ne vpn_ne_global.symm, get_ensure, isEnabled]

theorem setConfig_inv (h : Inv r) : Inv (setConfig env r args).2 := by
  unfold setConfig
  cases hok : configOptions env args with
  | error e => exact h
  | ok options =>
    obtain ⟨hnodup, htun, ⟨subnet, hsubnet⟩, ⟨mask, hmask⟩, -, -⟩ := configOptions_ok hok
    have hstored := setConfig_stored h.stored hok
    obtain ⟨s, hs⟩ := exists_find_ensure r.ovpnserver vpn "service"
    have hon := @isEnabled_setConfig r.ovpnserver options
    dsimp only
    generalize hp : (ensure r.ovpnserver vpn "service").setAll vpn options = p at hstored hon
    have hget : ∀ {o d : String} {t : Text}, (o, .text t) ∈ options → ∃ t, vpnGet p o d = .text t := by
      intro o d t hmem
      rw [← hp, vpnGet, Package.getOr_setAll_text hs hnodup hmem]
      exact ⟨_, rfl⟩
    unfold refreshIfRunning
    by_cases hen : isEnabled p = true
    · rw [if_pos hen]
      by_cases hinit : initialized r = true
      · obtain ⟨instance', hinstance⟩ := @instanceOptions_ok env { r with ovpnserver := p }
          (hget hsubnet) (hget hmask) (vpnGet_text hstored.ta)
        have htun' : vpnGet p "dev_type" "tun" = .text "tun" := by
          rw [← hp, vpnGet, Package.getOr_setAll_text hs hnodup htun]
          rfl
        obtain ⟨firewall, heq⟩ := applyRuntime_ok (r := { r with ovpnserver := p }) hinit htun'
          hinstance
        rw [heq]
        exact Inv.replaced (r := { r with ovpnserver := p }) hen hinit hstored hinstance
      · -- There was no instance, and there is none now.
        have hnone : ¬(r.openvpn.find iface).isSome = true := fun hsome => hinit (h.ready hsome)
        obtain heq | ⟨hinit', -⟩ := applyRuntime_cases env { r with ovpnserver := p }
        · rw [heq]
          exact .of_none hnone hstored
        · exact absurd hinit' hinit
    · rw [if_neg hen]
      have hnone : ¬(r.openvpn.find iface).isSome = true := by
        intro hsome
        exact hen (hon.trans (h.running hsome))
      exact .of_none hnone hstored

theorem get_settingPackage {o : String} (ho : o ≠ "access_scope") :
    (settingPackage env args p).get vpn o.toList = p.get vpn o.toList := by
  unfold settingPackage
  rw [Package.get_setAll_of_not_mem, get_ensure, Package.get_setAll_of_ne vpn_ne_global, get_ensure]
  intro e he heq
  unfold scopeOptions at he
  split_ifs at he
  · obtain rfl := List.mem_singleton.1 he
    exact ho (String.toList_injective heq)
  · cases he

theorem setSetting_stored (h : Stored p) : Stored (settingPackage env args p) := by
  have hservice : "service".toList ≠ "user".toList := by decide
  have hgeneral : "general".toList ≠ "user".toList := by decide
  have htype : ∀ n, p.typeOf n ≠ some "user".toList →
      (settingPackage env args p).typeOf n ≠ some "user".toList := by
    intro n hn
    unfold settingPackage
    rw [Package.typeOf_setAll]
    refine typeOf_ensure_ne ?_ hservice
    rw [Package.typeOf_setAll]
    exact typeOf_ensure_ne hn hgeneral
  refine ⟨?_, fun ts => ?_, htype _ h.vpnKept, htype _ h.globalKept⟩
  · rw [get_settingPackage (by decide)]
    exact h.auth
  · rw [get_settingPackage (by decide)]
    exact h.ta ts

theorem clientAuth_settingPackage : clientAuth (settingPackage env args p) = clientAuth p := by
  rw [clientAuth, get_settingPackage (by decide), clientAuth]

theorem setSetting_inv (h : Inv r) : Inv (setSetting env r args).2 := by
  have hstored : Stored (settingPackage env args r.ovpnserver) := setSetting_stored h.stored
  unfold setSetting
  dsimp only
  split_ifs with herr hen
  · exact h
  · obtain heq | ⟨hinit, options, firewall, hoptions, heq⟩ := applyRuntime_cases env
      { r with ovpnserver := settingPackage env args r.ovpnserver }
    · rw [heq]
      exact ⟨fun _ => hen, fun hsome => (h.login hsome).trans clientAuth_settingPackage.symm, h.ready,
        hstored⟩
    · rw [heq]
      exact Inv.replaced (r := { r with ovpnserver := settingPackage env args r.ovpnserver }) hen
        hinit hstored hoptions
  · refine .of_none ?_ hstored
    rw [Package.find_delete_self]
    exact Bool.false_ne_true

/-! ## Other methods -/

theorem Inv.congr (h : Inv r) (hvpn : p.find vpn = r.ovpnserver.find vpn)
    (hglobal : p.find global = r.ovpnserver.find global) : Inv { r with ovpnserver := p } := by
  have hget : ∀ o, p.get vpn o = r.ovpnserver.get vpn o := by
    intro o
    rw [Package.get, hvpn, Package.get]
  have hon : isEnabled p = isEnabled r.ovpnserver := by
    rw [isEnabled, Package.get, hglobal, isEnabled, Package.get]
  have hauth : clientAuth p = clientAuth r.ovpnserver := by
    rw [clientAuth, hget, clientAuth]
  refine ⟨fun hsome => hon.trans (h.running hsome), fun hsome => (h.login hsome).trans hauth.symm,
    h.ready, ?_, fun ts => ?_, ?_, ?_⟩
  · rw [hget]
    exact h.stored.auth
  · rw [hget]
    exact h.stored.ta ts
  · rw [Package.typeOf, hvpn]
    exact h.stored.vpnKept
  · rw [Package.typeOf, hglobal]
    exact h.stored.globalKept

theorem Inv.files {files : Text → Option Text} (h : Inv r)
    (hfiles : initialized r = true → initialized { r with files := files } = true) :
    Inv { r with files := files } :=
  ⟨h.running, h.login, fun hsome => hfiles (h.ready hsome), h.stored⟩

theorem isSome_writeFile {files : Text → Option Text}
    (h : (files path).isSome = true) : (writeFile files path' written path).isSome = true := by
  cases written with
  | none => exact h
  | some t =>
    change (Function.update files path' (some t) path).isSome = true
    by_cases hpath : path = path'
    · subst hpath
      rw [Function.update_self]
      rfl
    · rw [Function.update_of_ne hpath]
      exact h

theorem isSome_runCommands {outcome : String → Outcome}
    {files : Text → Option Text} (h : (files path).isSome = true) :
    ((runCommands outcome names files).2 path).isSome = true := by
  induction names generalizing files with
  | nil => exact h
  | cons name names ih =>
    unfold runCommands
    dsimp only
    split_ifs
    · exact ih (isSome_writeFile h)
    · exact isSome_writeFile h

theorem generateCertificate_files (r : Router) (outcome : String → Outcome) :
    ∃ files, (generateCertificate r outcome).2 = { r with files := files } ∧
      (initialized r = true → initialized { r with files := files } = true) := by
  refine ⟨Function.update (Function.update (runCommands outcome certificateFiles r.files).2
    (certFile "server.csr") none) (certFile "client.csr") none, ?_, fun hinit => ?_⟩
  · unfold generateCertificate
    dsimp only
    split_ifs
    · rfl
    · rfl
  · have hkeep : ∀ name : String, certFile name ≠ certFile "server.csr" →
        certFile name ≠ certFile "client.csr" → (r.files (certFile name)).isSome = true →
        (Function.update (Function.update (runCommands outcome certificateFiles r.files).2
          (certFile "server.csr") none) (certFile "client.csr") none (certFile name)).isSome = true := by
      intro name hserver hclient hsome
      rw [Function.update_of_ne hclient, Function.update_of_ne hserver]
      exact isSome_runCommands hsome
    unfold initialized at hinit ⊢
    simp only [Bool.and_eq_true] at hinit ⊢
    exact ⟨⟨hkeep "ca.crt" (by decide) (by decide) hinit.1.1,
      hkeep "server.crt" (by decide) (by decide) hinit.1.2⟩,
      hkeep "server.key" (by decide) (by decide) hinit.2⟩

theorem exportConfig_files (env : Env) (r : Router) (args : Json) (writable : Bool) :
    ∃ files, (exportConfig env r args writable).2 = { r with files := files } ∧
      (initialized r = true → initialized { r with files := files } = true) := by
  unfold exportConfig
  split
  · exact ⟨r.files, rfl, id⟩
  · split
    · exact ⟨r.files, rfl, id⟩
    · split_ifs
      · refine ⟨_, rfl, fun hinit => ?_⟩
        have hother : ∀ name ∈ ["ca.crt", "server.crt", "server.key"], certFile name ≠ exportFile := by
          decide
        unfold initialized at hinit ⊢
        dsimp only
        rw [Function.update_of_ne (hother _ (by simp)), Function.update_of_ne (hother _ (by simp)),
          Function.update_of_ne (hother _ (by simp))]
        exact hinit
      · exact ⟨r.files, rfl, id⟩

theorem addUser_congr (env : Env) (r : Router) (args : Json) (id : Text) :
    ∃ p, (addUser env r args id).2 = { r with ovpnserver := p } ∧
      p.find vpn = r.ovpnserver.find vpn ∧ p.find global = r.ovpnserver.find global := by
  have hu : "u_".toList.head? = some 'u' := by decide
  have hvpn : "u_".toList ++ id ≠ vpn := by
    rw [← List.append_nil vpn]
    exact append_ne_of_head hu (y := 'v') (by decide) (by decide)
  have hglobal : "u_".toList ++ id ≠ global := by
    rw [← List.append_nil global]
    exact append_ne_of_head hu (y := 'g') (by decide) (by decide)
  unfold addUser
  split
  · exact ⟨r.ovpnserver, rfl, rfl, rfl⟩
  · exact ⟨_, rfl, Package.find_newSection_of_ne hvpn.symm,
      Package.find_newSection_of_ne hglobal.symm⟩

theorem removeUser_congr (h : Stored r.ovpnserver) :
    ∃ p, (removeUser r args).2 = { r with ovpnserver := p } ∧
      p.find vpn = r.ovpnserver.find vpn ∧ p.find global = r.ovpnserver.find global := by
  unfold removeUser
  split
  · exact ⟨r.ovpnserver, rfl, rfl, rfl⟩
  · next name s hfound =>
    have huser : r.ovpnserver.typeOf name = some "user".toList :=
      Package.typeOf_eq_some_iff.2 ⟨s, List.mem_of_find?_eq_some hfound⟩
    refine ⟨_, rfl, Package.find_delete_of_ne ?_, Package.find_delete_of_ne ?_⟩
    · rintro rfl
      exact h.vpnKept huser
    · rintro rfl
      exact h.globalKept huser

theorem step_inv (h : Inv r) : Inv ((machine env).step r call) := by
  cases call with
  | setConfig args => exact setConfig_inv h
  | setSetting args => exact setSetting_inv h
  | generateCertificate outcome =>
    obtain ⟨files, heq, hinit⟩ := generateCertificate_files r outcome
    exact heq.symm.subst (h.files hinit)
  | addUser id args =>
    obtain ⟨p, heq, hvpn, hglobal⟩ := addUser_congr env r args id
    exact heq.symm.subst (h.congr hvpn hglobal)
  | removeUser args =>
    obtain ⟨p, heq, hvpn, hglobal⟩ := @removeUser_congr r args h.stored
    exact heq.symm.subst (h.congr hvpn hglobal)
  | exportConfig writable args =>
    obtain ⟨files, heq, hinit⟩ := exportConfig_files env r args writable
    exact heq.symm.subst (h.files hinit)

/-! ## The firewall -/

/-- `set_setting` does not disable an enabled server. -/
def Sound (r : Router) : Call → Prop
  | .setSetting args => isEnabled r.ovpnserver = true →
    (arg args "enable").isSome = true → boolOf (arg args "enable") = true
  | _ => True

end

/-- The configuration that is shipped, with what is stored for `client_auth` and with certificates. -/
def shipped (auth : List (String × Value)) : Router where
  ovpnserver := (Package.empty.newSection global "general"
    [("enable", .text ['0']), ("access", .text "DROP"), ("masq", .text ['1'])]).newSection vpn
      "service"
      ([("auth", .text "SHA256"), ("proto", .text "udp"), ("port", .text "1194"),
        ("dev_type", .text "tun"), ("cipher", .text "AES-256-GCM"),
        ("subnetv4", .text "10.8.0.0"), ("mask", .text "255.255.255.0"),
        ("start", .text "10.8.0.2"), ("end", .text "10.8.0.100"),
        ("verb", .text ['3']), ("access_scope", .text ['1'])] ++ auth)
  openvpn := .empty
  firewall := .empty
  files := fun _ => some []

/-- `set_setting` with `enable`. -/
def enable (on : Bool) : Call := .setSetting (.obj [("enable", .bool on)])

def someEnv : Env where
  toLua := .decimal
  sha256 := fun t => t

theorem shipped_inv : Inv (shipped [("client_auth", .text ['1'])]) :=
  ⟨nofun, nofun, nofun, ⟨_, rfl, by decide⟩, nofun, by decide, by decide⟩

/-- Whatever is called, there is an instance only while the server is enabled and has what it needs,
and it asks for a password as it is stored. -/
theorem instance_as_stored {env : Env} {r : Router} {calls : List Call} (hr : Inv r) :
    Inv ((machine env).run r calls) :=
  List.foldlRecOn calls _ hr fun _ h _ _ => step_inv h

theorem instance_as_stored_disabled :
    let r := (machine someEnv).run (shipped [("client_auth", .text ['1'])]) [enable true, enable false]
    Inv r ∧ r.openvpn.find iface = none :=
  ⟨instance_as_stored shipped_inv, by decide⟩

end GlXe3000.Oui.Vpn.OvpnServer
