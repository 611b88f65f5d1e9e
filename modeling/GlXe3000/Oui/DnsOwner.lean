import GlXe3000.Oui.Dns

/-! # AdGuard and the DNS modes

If `dns.set_config` is not called while AdGuard is enabled, then AdGuard is the only upstream while it is
enabled, and what it restores is what the stored mode prescribes. Called in between, `dns.set_config`
takes the upstream away from AdGuard, and the backup no longer belongs to the stored mode. -/

namespace GlXe3000.Oui.Dns
open Text

structure Upstream where
  server : Option Value
  noresolv : Option Value
  cachesize : Option Value

def upstream (p : Package) : Upstream where
  server := p.get (dnsmasqSection p) "server"
  noresolv := p.get (dnsmasqSection p) "noresolv"
  cachesize := p.get (dnsmasqSection p) "cachesize"

def saved (p : Package) : Upstream where
  server := p.get (dnsmasqSection p) "gl_agh_server_backup"
  noresolv := p.get (dnsmasqSection p) "gl_agh_noresolv_backup"
  cachesize := p.get (dnsmasqSection p) "gl_agh_cachesize_backup"

def backedUp (p : Package) : Bool := isOn (p.get (dnsmasqSection p) "gl_agh_backed_up")

def listed (ts : List Text) : Upstream := ⟨some (.list ts), some (.text ['1']), none⟩

def prescribed (p : Package) : Option Upstream :=
  if (storedMode p).isText "auto" then some ⟨none, none, none⟩
  else if (storedMode p).isText "manual" then
    some ⟨p.get (glDnsName p) "manual_list", some (.text ['1']), none⟩
  else if (storedMode p).isText "secure" then some (listed ["127.0.0.1#5453"])
  else none

/-- AdGuard is the only server, and those of the WAN are not read. -/
def Forwards (p : Package) : Prop :=
  (upstream p).server = some adguard ∧ (upstream p).noresolv = some (.text ['1'])

/-- AdGuard is the only upstream while it is enabled, and otherwise the upstream is what the stored
mode prescribes. -/
structure Owned (r : Router) : Prop where
  on : isEnabled r.adguardhome = true → Forwards r.dhcp
  off : isEnabled r.adguardhome = false → prescribed r.glDns = some (upstream r.dhcp)

structure Inv (r : Router) : Prop where
  configured : (r.adguardhome.typeOf agh).isSome = true
  dnsmasq : (r.dhcp.first "dnsmasq").isSome = true
  manual : (storedMode r.glDns).isText "manual" = true →
    ∃ ts, ts ≠ [] ∧ r.glDns.get (glDnsName r.glDns) "manual_list" = some (.list ts)
  on : isEnabled r.adguardhome = true → Forwards r.dhcp ∧
    backedUp r.dhcp = true ∧ ∃ ts, ts ≠ [] ∧ saved r.dhcp = listed ts ∧
      prescribed r.glDns = some (listed ts)
  off : isEnabled r.adguardhome = false → backedUp r.dhcp = false ∧
    prescribed r.glDns = some (upstream r.dhcp)

/-- AdGuard is enabled while the stored mode is not automatic; `dns.set_config` is called while it is
disabled, or is kept out by it, and asks for secure mode only if there is a proxy. -/
def Sound (r : Router) (e : Event) : Prop :=
  match e.call with
  | .adguardhome args => (arg args "enabled").bind Json.asBool = some true →
    isEnabled r.adguardhome = true ∨ (storedMode r.glDns).isText "auto" = false
  | .dns args =>
    (isEnabled r.adguardhome = true →
      isOccupied r.adguardhome = true ∧ (requestedMode args r.glDns).isText "auto" = false) ∧
    ((requestedMode args r.glDns).isText "secure" = true →
      e.env.command = true ∧ e.env.service = true ∧ e.env.writable = true)

section
variable {env : Env} {r : Router} {p q : Package} {args : Json}

theorem prescribed_listed (h : prescribed p = some u) (hauto : (storedMode p).isText "auto" = false)
    (hmanual : (storedMode p).isText "manual" = true →
      ∃ ts, ts ≠ [] ∧ p.get (glDnsName p) "manual_list" = some (.list ts)) :
    ∃ ts, ts ≠ [] ∧ u = listed ts := by
  unfold prescribed at h
  rw [if_neg (Bool.eq_false_iff.1 hauto)] at h
  split_ifs at h with hm hs
  · obtain ⟨ts, hts, hlist⟩ := hmanual hm
    rw [hlist] at h
    exact ⟨ts, hts, (Option.some.inj h).symm⟩
  · exact ⟨_, List.cons_ne_nil _ _, (Option.some.inj h).symm⟩

/-! ## AdGuard -/

theorem dnsmasqSection_congr (h : q.headers = p.headers) : dnsmasqSection q = dnsmasqSection p := by
  rw [dnsmasqSection, Package.first_congr h, dnsmasqSection]

theorem typeOf_dnsmasqSection (h : (p.first "dnsmasq").isSome = true) :
    (p.typeOf (dnsmasqSection p)).isSome = true := by
  obtain ⟨n, hn⟩ := Option.isSome_iff_exists.1 h
  rw [dnsmasqSection, hn, Option.getD_some, Package.typeOf_of_first hn]
  rfl

theorem upstream_adguard (h : (p.first "dnsmasq").isSome = true) :
    let q := p.setAll (dnsmasqSection p) [("server", adguard), ("noresolv", .text ['1'])]
    Forwards q ∧ backedUp q = backedUp p ∧ saved q = saved p := by
  intro q
  have hn : dnsmasqSection q = dnsmasqSection p := dnsmasqSection_congr Package.headers_setAll
  have hget : ∀ o : String, o ∉ ["server", "noresolv"] →
      q.get (dnsmasqSection p) o.toList = p.get (dnsmasqSection p) o.toList := by
    intro o ho
    exact Package.get_setAll_of_not_mem (Section.toList_ne_of_not_mem ho)
  have hset : ∀ {o : String} {v : Value}, (o, v) ∈ [("server", adguard), ("noresolv", .text ['1'])] →
      q.get (dnsmasqSection p) o.toList = v.stored :=
    Package.get_setAll_of_mem (typeOf_dnsmasqSection h) (by simp)
  refine ⟨⟨?_, ?_⟩, ?_, ?_⟩
  · rw [upstream, hn]
    exact hset (o := "server") (v := adguard) (by simp)
  · rw [upstream, hn]
    exact hset (o := "noresolv") (v := .text ['1']) (by simp)
  · rw [backedUp, hn, hget _ (by simp), backedUp]
  · rw [saved, hn, hget _ (by simp), hget _ (by simp), hget _ (by simp), saved]

theorem enableDnsmasqUpstream_first (h : (p.first "dnsmasq").isSome = true)
    (hnew : backedUp p = false) (hts : ts ≠ []) (hup : upstream p = listed ts) :
    ∃ q, enableDnsmasqUpstream env p (dnsmasqSection p) = .ok q ∧ q.headers = p.headers ∧
      Forwards q ∧ backedUp q = true ∧ saved q = listed ts := by
  have hds := typeOf_dnsmasqSection h
  have hserver : p.get (dnsmasqSection p) "server" = some (.list ts) := congrArg Upstream.server hup
  have hnoresolv : p.get (dnsmasqSection p) "noresolv" = some (.text ['1']) :=
    congrArg Upstream.noresolv hup
  have hcachesize : p.get (dnsmasqSection p) "cachesize" = none := congrArg Upstream.cachesize hup
  generalize hopts : [("gl_agh_server_backup", Value.list ts),
    ("gl_agh_noresolv_backup", .text ['1']), ("gl_agh_cachesize_backup", .text []),
    ("gl_agh_backed_up", .text ['1'])] = options
  have hbackup : backupDnsmasq env p (dnsmasqSection p) =
      .ok (p.setAll (dnsmasqSection p) options) := by
    have hnot : ¬isOn (p.get (dnsmasqSection p) "gl_agh_backed_up") = true :=
      Bool.eq_false_iff.1 hnew
    unfold backupDnsmasq backup
    rw [if_neg hnot, hserver, hnoresolv, hcachesize]
    change (env.optionValue (.arr (ts.map Json.str)) >>= _) = _
    rw [env.optionValue_texts hts, ← hopts]
    rfl
  generalize hb : p.setAll (dnsmasqSection p) options = b at hbackup
  have hheaders : b.headers = p.headers := by rw [← hb, Package.headers_setAll]
  have hn : dnsmasqSection b = dnsmasqSection p := dnsmasqSection_congr hheaders
  have hget : ∀ {o : String} {v : Value}, (o, v) ∈ options →
      b.get (dnsmasqSection p) o.toList = v.stored := by
    intro o v hmem
    rw [← hb]
    refine Package.get_setAll_of_mem hds ?_ hmem
    rw [← hopts]
    simp
  have hbfirst : (b.first "dnsmasq").isSome = true := by
    rw [Package.first_congr hheaders]
    exact h
  obtain ⟨hserver', hflag, hsaved⟩ := upstream_adguard hbfirst
  refine ⟨b.setAll (dnsmasqSection b) [("server", adguard), ("noresolv", .text ['1'])], ?_, ?_,
    hserver', ?_, ?_⟩
  · rw [enableDnsmasqUpstream, hbackup, hn]
    rfl
  · rw [Package.headers_setAll, hheaders]
  · rw [hflag, backedUp, hn, hget (v := .text ['1']) (by simp [← hopts])]
    rfl
  · rw [hsaved, saved, hn, hget (v := .list ts) (by simp [← hopts]),
      hget (v := .text ['1']) (by simp [← hopts]), hget (v := .text []) (by simp [← hopts])]
    cases ts with
    | nil => exact absurd rfl hts
    | cons t ts => rfl

theorem enableDnsmasqUpstream_again (h : (p.first "dnsmasq").isSome = true)
    (hold : backedUp p = true) : ∃ q, enableDnsmasqUpstream env p (dnsmasqSection p) = .ok q ∧
      q.headers = p.headers ∧ Forwards q ∧ backedUp q = true ∧
      saved q = saved p := by
  obtain ⟨hserver, hflag, hsaved⟩ := upstream_adguard h
  refine ⟨_, ?_, Package.headers_setAll, hserver, hflag.trans hold, hsaved⟩
  have hon : isOn (p.get (dnsmasqSection p) "gl_agh_backed_up") = true := hold
  rw [enableDnsmasqUpstream, backupDnsmasq, if_pos hon]
  rfl

theorem restoreDnsmasq_saved (h : (p.first "dnsmasq").isSome = true)
    (hold : backedUp p = true) (hts : ts ≠ []) (hsaved : saved p = listed ts) :
    ∃ q, restoreDnsmasq env p (dnsmasqSection p) = .ok q ∧ q.headers = p.headers ∧
      backedUp q = false ∧ upstream q = listed ts := by
  have hds := typeOf_dnsmasqSection h
  generalize hn : dnsmasqSection p = ds at hds
  have hflag : p.get ds "gl_agh_backed_up" = some (.text ['1']) := by
    rw [← hn]
    exact of_decide_eq_true hold
  have hserver : p.get ds "gl_agh_server_backup" = some (.list ts) :=
    hn ▸ congrArg Upstream.server hsaved
  have hnoresolv : p.get ds "gl_agh_noresolv_backup" = some (.text ['1']) :=
    hn ▸ congrArg Upstream.noresolv hsaved
  have hcachesize : p.get ds "gl_agh_cachesize_backup" = none :=
    hn ▸ congrArg Upstream.cachesize hsaved
  have hset₁ : restoreOption (p.set ds "server" (.list ts)) ds "noresolv"
      "gl_agh_noresolv_backup" =
      (p.set ds "server" (.list ts)).set ds "noresolv" (.text ['1']) := by
    rw [restoreOption, Package.get_set_of_ne (.inr (by decide)), hnoresolv]
  have hset₂ : restoreOption ((p.set ds "server" (.list ts)).set ds "noresolv"
      (.text ['1'])) ds "cachesize" "gl_agh_cachesize_backup" =
      ((p.set ds "server" (.list ts)).set ds "noresolv" (.text ['1'])).unset ds
        "cachesize" := by
    rw [restoreOption, Package.get_set_of_ne (.inr (by decide)),
      Package.get_set_of_ne (.inr (by decide)), hcachesize]
  generalize hq : (((p.set ds "server" (.list ts)).set ds "noresolv"
    (.text ['1'])).unset ds "cachesize").unsetAll ds ["gl_agh_server_backup",
      "gl_agh_noresolv_backup", "gl_agh_cachesize_backup", "gl_agh_backed_up"] = q
  have hok : restoreDnsmasq env p ds = .ok q := by
    unfold restoreDnsmasq
    rw [hflag, if_neg (by decide), hserver]
    change (env.optionValue (.arr (ts.map Json.str)) >>= _) = _
    rw [env.optionValue_texts hts]
    change Except.ok ((restoreOption (restoreOption _ ds "noresolv" "gl_agh_noresolv_backup") ds
      "cachesize" "gl_agh_cachesize_backup").unsetAll ds _) = _
    rw [hset₁, hset₂, hq]
  have hheaders : q.headers = p.headers := by
    rw [← hq, Package.headers_unsetAll, Package.headers_unset, Package.headers_set,
      Package.headers_set]
  have hnq : dnsmasqSection q = ds := (dnsmasqSection_congr hheaders).trans hn
  refine ⟨q, hok, hheaders, ?_, ?_⟩
  · rw [backedUp, hnq, ← hq, Package.get_unsetAll_of_mem (by simp)]
    rfl
  · have hkept : ∀ o : String, o ∉ ["gl_agh_server_backup", "gl_agh_noresolv_backup",
        "gl_agh_cachesize_backup", "gl_agh_backed_up"] → q.get ds o.toList =
        (((p.set ds "server" (.list ts)).set ds "noresolv"
          (.text ['1'])).unset ds "cachesize").get ds o.toList := by
      intro o ho
      rw [← hq, Package.get_unsetAll_of_not_mem (.inr ho)]
    have hserver' : q.get ds "server" = some (.list ts) := by
      rw [hkept _ (by simp), Package.get_unset_of_ne (.inr (by decide)),
        Package.get_set_of_ne (.inr (by decide)), Package.get_set_self hds]
      cases ts with
      | nil => exact absurd rfl hts
      | cons t ts => rfl
    have hnoresolv' : q.get ds "noresolv" = some (.text ['1']) := by
      rw [hkept _ (by simp), Package.get_unset_of_ne (.inr (by decide)), Package.get_set_self]
      · rfl
      · rw [Package.typeOf_set]
        exact hds
    have hcachesize' : q.get ds "cachesize" = none := by
      rw [hkept _ (by simp), Package.get_unset_self]
    rw [upstream, hnq, hserver', hnoresolv', hcachesize', listed]

theorem aghSetConfig_inv (h : Inv r)
    (hguard : (arg args "enabled").bind Json.asBool = some true →
      isEnabled r.adguardhome = true ∨ (storedMode r.glDns).isText "auto" = false) :
    Inv (aghSetConfig env r args).2 := by
  unfold aghSetConfig
  cases hreq : aghRequest r args with
  | error e => exact h
  | ok req =>
    obtain ⟨enabled, direct, ds⟩ := req
    simp only [aghRequest, bind_eq_ok, elim_eq_ok] at hreq
    obtain ⟨en, hen, _, -, ds', hds, heq⟩ := hreq
    cases heq
    have hsection : dnsmasqSection r.dhcp = ds := by rw [dnsmasqSection, hds, Option.getD_some]
    dsimp only
    generalize hp : r.adguardhome.setAll agh [("enabled", flagValue enabled),
      ("dns_enabled", flagValue (enabled && ((arg args "dns_enabled").bind Json.asBool).getD false))]
        = p
    have htype : (p.typeOf agh).isSome = true := by
      rw [← hp, Package.typeOf_setAll]
      exact h.configured
    have hon : isEnabled p = enabled := by
      rw [isEnabled, ← hp, Package.get_setAll_of_mem (v := flagValue enabled) h.configured (by simp)
        (by simp), isOn_flagValue]
    rw [← hsection]
    cases enabled with
    | true =>
      obtain ⟨q, hq, hheaders, hserver, hflag, ts, hts, hsaved, hmode⟩ : ∃ q,
          enableDnsmasqUpstream env r.dhcp (dnsmasqSection r.dhcp) = .ok q ∧
          q.headers = r.dhcp.headers ∧ Forwards q ∧ backedUp q = true ∧
          ∃ ts, ts ≠ [] ∧ saved q = listed ts ∧ prescribed r.glDns = some (listed ts) := by
        cases hwas : isEnabled r.adguardhome with
        | true =>
          obtain ⟨-, hflag, ts, hts, hsaved, hmode⟩ := h.on hwas
          obtain ⟨q, hq, hheaders, hserver, hflag', hsaved'⟩ :=
            enableDnsmasqUpstream_again h.dnsmasq hflag
          exact ⟨q, hq, hheaders, hserver, hflag', ts, hts, hsaved'.trans hsaved, hmode⟩
        | false =>
          obtain ⟨hflag, hmode⟩ := h.off hwas
          have hauto : (storedMode r.glDns).isText "auto" = false := by
            obtain hon | hauto := hguard hen
            · rw [hwas] at hon
              cases hon
            · exact hauto
          obtain ⟨ts, hts, hup⟩ := prescribed_listed hmode hauto h.manual
          obtain ⟨q, hq, hheaders, hserver, hflag', hsaved⟩ :=
            enableDnsmasqUpstream_first h.dnsmasq hflag hts hup
          exact ⟨q, hq, hheaders, hserver, hflag', ts, hts, hsaved, hup ▸ hmode⟩
      rw [if_pos rfl, hq]
      refine ⟨htype, ?_, h.manual, fun _ => ⟨hserver, hflag, ts, hts, hsaved, hmode⟩, fun hoff => ?_⟩
      · rw [Package.first_congr hheaders]
        exact h.dnsmasq
      · rw [hon] at hoff
        cases hoff
    | false =>
      obtain ⟨q, hq, hheaders, hflag, hmode⟩ : ∃ q,
          restoreDnsmasq env r.dhcp (dnsmasqSection r.dhcp) = .ok q ∧
          q.headers = r.dhcp.headers ∧ backedUp q = false ∧
          prescribed r.glDns = some (upstream q) := by
        cases hwas : isEnabled r.adguardhome with
        | true =>
          obtain ⟨-, hflag, ts, hts, hsaved, hmode⟩ := h.on hwas
          obtain ⟨q, hq, hheaders, hflag', hup⟩ := restoreDnsmasq_saved h.dnsmasq hflag hts hsaved
          exact ⟨q, hq, hheaders, hflag', hup ▸ hmode⟩
        | false =>
          obtain ⟨hflag, hmode⟩ := h.off hwas
          have hnot : isOn (r.dhcp.get (dnsmasqSection r.dhcp) "gl_agh_backed_up") = false := hflag
          refine ⟨r.dhcp, ?_, rfl, hflag, hmode⟩
          rw [restoreDnsmasq, hnot]
          rfl
      rw [if_neg Bool.false_ne_true, hq]
      refine ⟨htype, ?_, h.manual, fun hen => ?_, fun _ => ⟨hflag, hmode⟩⟩
      · rw [Package.first_congr hheaders]
        exact h.dnsmasq
      · rw [hon] at hen
        cases hen

/-! ## DNS modes -/

theorem names_copied {options : List (String × Value)}
    (h : copied env args name = .ok options) : ∀ o ∈ options.map Prod.fst, o = name := by
  intro o ho
  unfold copied at h
  split at h
  · cases h
    cases ho
  · obtain ⟨v, -, heq⟩ := bind_eq_ok.1 h
    cases heq
    exact List.mem_singleton.1 ho

theorem names_requestOptions {options : List (String × Value)}
    (h : requestOptions env r args = .ok options) :
    "mode" ∉ options.map Prod.fst ∧ "manual_list" ∉ options.map Prod.fst := by
  simp only [requestOptions, bind_eq_ok] at h
  obtain ⟨provider, h₁, proto, h₂, protoManual, h₃, nextdnsId, h₄, controldId, h₅, serversList, h₆,
    secureManualList, h₇, heq⟩ := h
  cases heq
  have hnames : ∀ o ∈ (provider ++ proto ++ protoManual ++ nextdnsId ++ controldId ++
      optional "controld_type" ((arg args "controld_type").map fun v => Value.text (env.asString v)) ++
      serversList ++ secureManualList ++ [keptFlag args r.glDns "manual_local_dns",
        keptFlag args r.glDns "override_vpn", keptFlag args r.glDns "force_dns"]).map Prod.fst,
      o ∈ ["provider", "proto", "proto_manual", "nextdns_id", "controld_id", "controld_type",
        "servers_list", "secure_manual_list", "manual_local_dns", "override_vpn", "force_dns"] := by
    intro o ho
    simp only [List.map_append, List.mem_append] at ho
    obtain (((((((ho | ho) | ho) | ho) | ho) | ho) | ho) | ho) | ho := ho
    · rw [names_copied h₁ o ho]
      decide
    · rw [names_copied h₂ o ho]
      decide
    · rw [names_copied h₃ o ho]
      decide
    · rw [names_copied h₄ o ho]
      decide
    · rw [names_copied h₅ o ho]
      decide
    · unfold optional at ho
      cases harg : arg args "controld_type" <;> rw [harg] at ho <;> simp at ho
      rw [ho]
      decide
    · rw [names_copied h₆ o ho]
      decide
    · rw [names_copied h₇ o ho]
      decide
    · simp only [keptFlag, List.map_cons, List.map_nil, List.mem_cons, List.not_mem_nil,
        or_false] at ho
      obtain rfl | rfl | rfl := ho <;> decide
  exact ⟨fun ho => absurd (hnames _ ho) (by decide), fun ho => absurd (hnames _ ho) (by decide)⟩

theorem glDnsName_withGlDns (p : Package) : (withGlDns p).first "dns" = some (glDnsName p) := by
  unfold withGlDns glDnsName
  cases hfirst : p.first "dns" with
  | none => exact Package.first_setType hfirst
  | some n => exact hfirst

theorem nodup_modeOptions (mode : Mode) : ((modeOptions mode).map Prod.fst).Nodup := by
  have hnames : List.Sublist ((modeOptions mode).map Prod.fst)
      ["mode", "manual_enable", "manual_type", "manual_list"] := by
    cases mode with
    | auto => exact List.sublist_append_left ["mode", "manual_enable", "manual_type"] ["manual_list"]
    | manual servers => exact List.Sublist.refl ["mode", "manual_enable", "manual_type", "manual_list"]
    | secure urls =>
      exact List.sublist_append_left ["mode", "manual_enable", "manual_type"] ["manual_list"]
  have hnodup : ["mode", "manual_enable", "manual_type", "manual_list"].Nodup := by decide
  exact hnodup.sublist hnames

theorem stored_written (p : Package) (mode : Mode) (h : requestOptions env r args = .ok options) :
    let q := (withGlDns p).setAll (glDnsName p) (modeOptions mode ++ options)
    glDnsName q = glDnsName p ∧ storedMode q = .str mode.name.toList ∧
      ∀ servers, mode = .manual servers → q.get (glDnsName p) "manual_list" =
        (Value.list servers).stored := by
  intro q
  have hfirst := glDnsName_withGlDns p
  have htype : ((withGlDns p).typeOf (glDnsName p)).isSome = true := by
    rw [Package.typeOf_of_first hfirst]
    rfl
  have hname : glDnsName q = glDnsName p := by
    rw [glDnsName, Package.first_congr Package.headers_setAll, hfirst, Option.getD_some]
  obtain ⟨hmode, hlist⟩ := names_requestOptions h
  have hget : ∀ {o : String} {v : Value}, o ∉ options.map Prod.fst → (o, v) ∈ modeOptions mode →
      q.get (glDnsName p) o.toList = v.stored := by
    intro o v ho hmem
    have happend : q = ((withGlDns p).setAll (glDnsName p) (modeOptions mode)).setAll (glDnsName p)
        options := Package.setAll_append
    rw [happend, Package.get_setAll_of_not_mem (Section.toList_ne_of_not_mem ho)]
    exact Package.get_setAll_of_mem htype (nodup_modeOptions mode) hmem
  refine ⟨hname, ?_, ?_⟩
  · have hstored : q.get (glDnsName p) "mode" = (Value.text mode.name.toList).stored :=
      hget hmode (List.mem_append_left _ List.mem_cons_self)
    have hne : mode.name.toList ≠ [] := by cases mode <;> simp [Mode.name]
    rw [storedMode, hname, hstored, Value.stored_text hne]
    rfl
  · rintro servers rfl
    exact hget hlist (List.mem_append_right _ List.mem_cons_self)

theorem checkedMode_ok {mode : Mode} (h : checkedMode env r args = .ok mode) :
    (requestedMode args r.glDns).isText mode.name.toList = true ∧
      ((requestedMode args r.glDns).isText "auto" = true ∨ isOccupied r.adguardhome = false) ∧
      ∀ servers, mode = .manual servers → servers ≠ [] := by
  simp only [checkedMode, bind_eq_ok, check_eq_ok] at h
  obtain ⟨_, -, _, hmode, _, hbusy, h⟩ := h
  have hbusy' : (requestedMode args r.glDns).isText "auto" = true ∨
      isOccupied r.adguardhome = false := by
    simpa using hbusy
  split_ifs at h with hauto hmanual
  · cases h
    exact ⟨hauto, hbusy', nofun⟩
  · obtain ⟨servers, hservers, heq⟩ := bind_eq_ok.1 h
    cases heq
    refine ⟨hmanual, hbusy', ?_⟩
    rintro _ ⟨⟩
    simp only [manualServers, bind_eq_ok, check_eq_ok] at hservers
    obtain ⟨ts, -, _, hne, heq⟩ := hservers
    cases heq
    simpa using hne
  · obtain ⟨urls, -, heq⟩ := bind_eq_ok.1 h
    cases heq
    simp only [Bool.or_eq_true] at hmode
    exact ⟨(hmode.resolve_left fun h => h.elim hauto hmanual), hbusy', nofun⟩

section
variable {ds : Text}

theorem headers_editDnsmasq : (editDnsmasq args p ds).headers = p.headers := by
  have hrebind : (setRebind args p ds).headers = p.headers := by
    unfold setRebind
    split
    · rfl
    · exact Package.headers_set
  have hlocaluse : (editDnsmasq args p ds).headers = (setRebind args p ds).headers := by
    unfold editDnsmasq setLocaluse
    split
    · rfl
    · split_ifs
      · exact Package.headers_set
      · exact Package.headers_unset
  exact hlocaluse.trans hrebind

theorem get_editDnsmasq {o : String} (ho : o ∉ ["rebind_protection", "localuse"]) :
    (editDnsmasq args p ds).get ds o.toList = p.get ds o.toList := by
  rw [List.mem_cons, List.mem_singleton, not_or] at ho
  have hrebind : (setRebind args p ds).get ds o.toList = p.get ds o.toList := by
    unfold setRebind
    split
    · rfl
    · exact Package.get_set_of_ne (.inr fun heq => ho.1 (String.toList_injective heq))
  have hlocaluse : (editDnsmasq args p ds).get ds o.toList =
      (setRebind args p ds).get ds o.toList := by
    unfold editDnsmasq setLocaluse
    split
    · rfl
    · split_ifs
      · exact Package.get_set_of_ne (.inr fun heq => ho.2 (String.toList_injective heq))
      · exact Package.get_unset_of_ne (.inr fun heq => ho.2 (String.toList_injective heq))
  exact hlocaluse.trans hrebind

end

theorem applyAuto_upstream (p : Package) : upstream (applyAuto p (dnsmasqSection p)) =
    ⟨none, none, none⟩ := by
  have hn : dnsmasqSection (applyAuto p (dnsmasqSection p)) = dnsmasqSection p :=
    dnsmasqSection_congr Package.headers_unsetAll
  have hget : ∀ o ∈ ["server", "noresolv", "boguspriv", "cachesize"],
      (applyAuto p (dnsmasqSection p)).get (dnsmasqSection p) o.toList = none :=
    fun o ho => Package.get_unsetAll_of_mem ho
  rw [upstream, hn, hget _ (by simp), hget _ (by simp), hget _ (by simp)]

theorem upstream_listed (h : (p.first "dnsmasq").isSome = true) (hos : "cachesize" ∈ os) (hts : ts ≠ []) :
    upstream ((p.unsetAll (dnsmasqSection p) os).setAll (dnsmasqSection p)
      [("server", .list ts), ("noresolv", .text ['1'])]) = listed ts := by
  have hds : ((p.unsetAll (dnsmasqSection p) os).typeOf (dnsmasqSection p)).isSome = true := by
    obtain ⟨n, hn⟩ := Option.isSome_iff_exists.1 h
    have hfirst : (p.unsetAll (dnsmasqSection p) os).first "dnsmasq" = some n := by
      rw [Package.first_congr Package.headers_unsetAll, hn]
    rw [dnsmasqSection, hn, Option.getD_some] at hfirst ⊢
    rw [Package.typeOf_of_first hfirst]
    rfl
  generalize hq : (p.unsetAll (dnsmasqSection p) os).setAll (dnsmasqSection p)
    [("server", .list ts), ("noresolv", .text ['1'])] = q
  have hn : dnsmasqSection q = dnsmasqSection p := by
    refine dnsmasqSection_congr ?_
    rw [← hq, Package.headers_setAll, Package.headers_unsetAll]
  have hserver : q.get (dnsmasqSection p) "server" = some (.list ts) := by
    rw [← hq, Package.get_setAll_of_mem (v := .list ts) hds (by simp) (by simp),
      Value.stored_list hts]
  have hnoresolv : q.get (dnsmasqSection p) "noresolv" = some (.text ['1']) := by
    rw [← hq, Package.get_setAll_of_mem (v := .text ['1']) hds (by simp) (by simp)]
    rfl
  have hcachesize : q.get (dnsmasqSection p) "cachesize" = none := by
    rw [← hq, Package.get_setAll_of_not_mem (Section.toList_ne_of_not_mem (by simp)),
      Package.get_unsetAll_of_mem hos]
  rw [upstream, hn, hserver, hnoresolv, hcachesize, listed]

theorem Inv.disabled {glDns dhcp dnsproxy : Package} (h : Inv r)
    (hoff : isEnabled r.adguardhome = false) (hheaders : dhcp.headers = r.dhcp.headers)
    (hflag : dhcp.get (dnsmasqSection r.dhcp) "gl_agh_backed_up" =
      r.dhcp.get (dnsmasqSection r.dhcp) "gl_agh_backed_up")
    (hmanual : (storedMode glDns).isText "manual" = true →
      ∃ ts, ts ≠ [] ∧ glDns.get (glDnsName glDns) "manual_list" = some (.list ts))
    (hmode : prescribed glDns = some (upstream dhcp)) :
    Inv { r with glDns := glDns, dhcp := dhcp, dnsproxy := dnsproxy } := by
  refine ⟨h.configured, ?_, hmanual, fun hon => ?_, fun _ => ⟨?_, hmode⟩⟩
  · rw [Package.first_congr hheaders]
    exact h.dnsmasq
  · rw [hoff] at hon
    cases hon
  · rw [backedUp, dnsmasqSection_congr hheaders, hflag]
    exact (h.off hoff).1

theorem dnsSetConfig_inv (h : Inv r)
    (hbusy : isEnabled r.adguardhome = true → isOccupied r.adguardhome = true ∧
      (requestedMode args r.glDns).isText "auto" = false)
    (hproxy : (requestedMode args r.glDns).isText "secure" = true →
      env.command = true ∧ env.service = true ∧ env.writable = true) :
    Inv (dnsSetConfig env r args).2 := by
  unfold dnsSetConfig
  split
  · exact h
  · exact h
  · next mode options hmode hoptions =>
    obtain ⟨hrequest, hfree, hservers⟩ := checkedMode_ok hmode
    have hoff : isEnabled r.adguardhome = false := by
      refine Bool.eq_false_of_not_eq_true fun hon => ?_
      obtain ⟨hocc, hauto⟩ := hbusy hon
      obtain h | h := hfree
      · rw [hauto] at h
        cases h
      · rw [hocc] at h
        cases h
    obtain ⟨hname, hstored, hlist⟩ := stored_written r.glDns mode hoptions
    dsimp only
    generalize (withGlDns r.glDns).setAll (glDnsName r.glDns) (modeOptions mode ++ options) = glDns
      at hname hstored hlist
    generalize hedit : editDnsmasq args r.dhcp (dnsmasqSection r.dhcp) = dhcp
    have hheaders : dhcp.headers = r.dhcp.headers := hedit ▸ headers_editDnsmasq
    have hsection : dnsmasqSection dhcp = dnsmasqSection r.dhcp := dnsmasqSection_congr hheaders
    have hfirst : (dhcp.first "dnsmasq").isSome = true := by
      rw [Package.first_congr hheaders]
      exact h.dnsmasq
    have hflag : dhcp.get (dnsmasqSection r.dhcp) "gl_agh_backed_up" =
        r.dhcp.get (dnsmasqSection r.dhcp) "gl_agh_backed_up" := by
      rw [← hedit]
      exact get_editDnsmasq (by simp)
    rw [← hsection] at hflag ⊢
    cases mode with
    | auto =>
      have hnot : (storedMode glDns).isText "manual" = false := by
        rw [hstored]
        decide
      refine h.disabled hoff ?_ ?_ (fun hm => ?_) ?_
      · rw [applyAuto, Package.headers_unsetAll, hheaders]
      · rw [applyAuto, ← hsection, Package.get_unsetAll_of_not_mem (.inr (by simp)), hflag]
      · rw [hnot] at hm
        cases hm
      · rw [applyAuto_upstream, prescribed, hstored]
        exact if_pos (by decide)
    | manual servers =>
      have hstored : storedMode glDns = .str "manual" := hstored
      have hne := hservers servers rfl
      have hget : glDns.get (glDnsName glDns) "manual_list" = some (.list servers) := by
        rw [hname, hlist servers rfl, Value.stored_list hne]
      refine h.disabled hoff ?_ ?_ (fun _ => ⟨servers, hne, hget⟩) ?_
      · rw [applyManual, Package.headers_setAll, Package.headers_unsetAll, hheaders]
      · rw [applyManual, ← hsection,
          Package.get_setAll_of_not_mem (Section.toList_ne_of_not_mem (by simp)),
          Package.get_unsetAll_of_not_mem (.inr (by simp)), hflag]
      · rw [applyManual, upstream_listed hfirst (by simp) hne, prescribed, hstored, hget,
          if_neg (by decide)]
        exact if_pos (by decide)
    | secure urls =>
      have hstored : storedMode glDns = .str "secure" := hstored
      obtain ⟨hcommand, hservice, hwritable⟩ := hproxy hrequest
      have hnot : (storedMode glDns).isText "manual" = false := by
        rw [hstored]
        decide
      dsimp only
      rw [hcommand, hservice, hwritable, if_neg (by decide)]
      split
      · exact h
      · rw [if_neg (by decide)]
        refine h.disabled hoff ?_ ?_ (fun hm => ?_) ?_
        · rw [applySecure, Package.headers_setAll, Package.headers_unsetAll, hheaders]
        · rw [applySecure, ← hsection,
            Package.get_setAll_of_not_mem (Section.toList_ne_of_not_mem (by simp)),
            Package.get_unsetAll_of_not_mem (.inr (by simp)), hflag]
        · rw [hnot] at hm
          cases hm
        · rw [applySecure, secureServer, upstream_listed hfirst (by simp) (List.cons_ne_nil _ _),
            prescribed, hstored, if_neg (by decide), if_neg (by decide)]
          exact if_pos (by decide)

theorem step_inv (h : Inv r) (hguard : Sound r e) : Inv (machine.step r e) := by
  obtain ⟨env, call⟩ := e
  cases call with
  | adguardhome args => exact aghSetConfig_inv h hguard
  | dns args => exact dnsSetConfig_inv h hguard.1 hguard.2

end

/-- If the modes are left alone while AdGuard is enabled, AdGuard is the upstream while it is enabled,
and the stored mode decides while it is not. -/
theorem upstream_follows_owner {r : Router} {es : List Event} (hr : Inv r)
    (hes : machine.Admits Sound r es) : Owned (machine.run r es) := by
  have h := Machine.invariant (I := Inv) (fun _ _ hguard h => step_inv h hguard) hes hr
  exact ⟨fun hon => (h.on hon).1, fun hoff => (h.off hoff).2⟩

def automatic : Router where
  adguardhome := Package.empty.newSection agh "adguardhome"
    [("enabled", .text ['0']), ("dns_enabled", .text ['0'])]
  dhcp := Package.empty.newSection "cfg01411c" "dnsmasq" [("domain", .text "lan")]
  glDns := Package.empty.newSection "dns" "dns" [("mode", .text "auto")]
  dnsproxy := .empty
  firewall := .empty
  network := .empty

def someEnv : Env where
  toLua := .decimal
  readProvider := fun _ => none
  command := false
  service := false
  writable := false

def setAdguard (on : Bool) : Event :=
  ⟨someEnv, .adguardhome (.obj [("enabled", .bool on), ("dns_enabled", .bool false)])⟩

def setManual (server : String) : Event :=
  ⟨someEnv, .dns (.obj [("mode", .str "manual"),
    ("manual_list", .arr [.str server.toList])])⟩

def setAuto : Event := ⟨someEnv, .dns (.obj [("mode", .str "auto")])⟩

theorem automatic_inv : Inv automatic where
  configured := rfl
  dnsmasq := rfl
  manual := fun h => absurd h (by decide)
  on := fun h => absurd h (by decide)
  off := fun _ => ⟨by decide, rfl⟩

/-- Servers are set, AdGuard is enabled and disabled again. -/
theorem upstream_follows_owner_restored :
    let es := [setManual "1.1.1.1", setAdguard true, setAdguard false]
    machine.Admits Sound automatic es ∧ Owned (machine.run automatic es) := by
  have hadmits : machine.Admits Sound automatic
      [setManual "1.1.1.1", setAdguard true, setAdguard false] := by
    refine ⟨⟨fun h => absurd h (by decide), fun h => absurd h (by decide)⟩, fun _ => .inr (by decide),
      fun h => absurd h (by decide), trivial⟩
  exact ⟨hadmits, upstream_follows_owner automatic_inv hadmits⟩

/-- Automatic mode takes the upstream from AdGuard, and when AdGuard is disabled, the servers that
were set before come back. -/
theorem mode_changed_under_adguard :
    Inv automatic ∧
      ¬Owned (machine.run automatic [setManual "1.1.1.1", setAdguard true, setAuto]) ∧
      ¬Owned (machine.run automatic [setManual "1.1.1.1", setAdguard true, setAuto,
        setAdguard false]) := by
  refine ⟨automatic_inv, fun h => ?_, fun h => ?_⟩
  · have hserver := (h.on (by decide)).1
    exact absurd hserver (by decide)
  · have hmode := congrArg (Option.bind · Upstream.server) (h.off (by decide))
    exact absurd hmode (by decide)

end GlXe3000.Oui.Dns
