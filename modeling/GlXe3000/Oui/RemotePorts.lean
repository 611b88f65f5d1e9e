import GlXe3000.Oui.RemoteAccess

/-! # The rules for remote access open the ports that are configured

`firewall.set_wan_access` writes the rules anew from the ports, the flags and the whitelist, so what it
leaves agrees. `local-access.set_config` changes the ports, starts and stops `dropbear` and does not
write the rules: they agree afterwards if a service whose rule is there has kept its port and still
runs. -/

namespace GlXe3000.Oui.RemoteAccess
open Text

/-- If the rule is there, its access is enabled, it opens the port, and with the whitelist on it is for
the addresses of the whitelist. -/
def Opens (env : Env) (r : Router) (rule : Text) (o : String) (port : Rat) : Prop :=
  ∀ s, r.firewall.find rule = some s →
    isOn (r.oui.get wanAccess o.toList) = true ∧
      s.options "dest_port" = some (.text (env.showNumber port)) ∧
      (isOn (r.oui.get wanAccess "enable_whitelist") = true →
        s.options "src_ip" = some (.list (whitelist r)))

/-- The listener file of `nginx` has the configured port. -/
def Listens (env : Env) (r : Router) : Prop :=
  ∃ t ∈ r.listen, "listen ".toList ++ env.showNumber (httpsPort env r) ++ " ssl;\n".toList <:+: t

structure InStep (env : Env) (r : Router) : Prop where
  https : Opens env r httpsRule "enable_https" (httpsPort env r)
  ssh : Opens env r sshRule "enable_ssh" (sshPort env r)
  listens : Listens env r
  running : (r.firewall.find sshRule).isSome → sshRunning r = true

/-- The section `main` is there, and the section for the settings is of its own type. -/
structure Inv (env : Env) (r : Router) : Prop where
  main : r.oui.typeOf main = some main
  wanAccess : r.oui.typeOf wanAccess = none ∨ r.oui.typeOf wanAccess = some wanAccess
  inStep : InStep env r

/-- A service whose rule is there keeps its port, and SSH is not stopped; and if `nginx` refuses the
ports, the listener file can be put back. -/
def KeepsPorts (env : Env) (r : Router) : Call → Prop
  | .setWanAccess _ => True
  | .setConfig args files =>
    ((r.firewall.find httpsRule).isSome →
        askedPort env args "https_port" 443 = httpsPort env r) ∧
      ((r.firewall.find sshRule).isSome → askedPort env args "ssh_port" 22 = sshPort env r ∧
        Json.truthy (arg args "ssh_enabled") = true) ∧
      (files.accepted = true ∨ files.restorable = true)

section
variable {env : Env} {r : Router} {args : Json}

/-! ## Rules -/

section
variable {p : Package} {n m : Text} {on : Bool} {options : List (String × Value)}

theorem find_writeRule_self (h : p.find n = none) : (writeRule p n on options).find n =
    if on then some (.make "rule" options) else none := by
  unfold writeRule
  split
  · exact Package.find_newSection_self h
  · exact h

theorem find_writeRule_of_ne (h : m ≠ n) : (writeRule p n on options).find m = p.find m := by
  unfold writeRule
  split
  · exact Package.find_newSection_of_ne h
  · rfl

theorem find_enableRules (h : p.find n = none) : (enableRules p names on).find n = none := by
  unfold enableRules
  induction names generalizing p with
  | nil => exact h
  | cons name names ih =>
    refine ih ?_
    have htype : (p.set name "enabled" (flagValue on)).typeOf n = p.typeOf n :=
      Package.typeOf_modify fun _ => rfl
    simpa [Package.typeOf, h] using htype

theorem find_writePing (h : p.find n = none) (hallow : n ≠ pingAllow)
    (hblock : n ≠ pingBlock) : (writePing p a).find n = none := by
  unfold writePing
  rw [find_writeRule_of_ne hblock, find_writeRule_of_ne hallow]
  exact find_enableRules h

end

section
variable {name : String} {port : Rat} {sources : List Text}

theorem nodup_remoteRule : ((remoteRule env name port sources).map Prod.fst).Nodup := by
  have hnames : ["name", "src", "proto", "dest_port", "target", "src_ip"].Nodup := by decide
  refine List.Sublist.nodup ?_ hnames
  unfold remoteRule sourceOptions
  split
  · exact List.sublist_append_left ["name", "src", "proto", "dest_port", "target"] ["src_ip"]
  · exact List.Sublist.refl _

theorem remoteRule_dest_port :
    (Section.make "rule" (remoteRule env name port sources)).options "dest_port" =
      some (.text (env.showNumber port)) := by
  have hmem : ("dest_port", Value.text (env.showNumber port)) ∈ remoteRule env name port sources :=
    List.mem_append_left _ (by simp)
  rw [Section.make, Section.options_setAll_of_mem nodup_remoteRule hmem]
  exact Value.stored_text (env.tostring_ne_nil port)

theorem remoteRule_src_ip (h : sources ≠ []) :
    (Section.make "rule" (remoteRule env name port sources)).options "src_ip" =
      some (.list sources) := by
  have hmem : ("src_ip", Value.list sources) ∈ remoteRule env name port sources := by
    refine List.mem_append_right _ ?_
    simp [sourceOptions, optional, h]
  rw [Section.make, Section.options_setAll_of_mem nodup_remoteRule hmem]
  exact Value.stored_list h

end

/-! ## What `set_wan_access` stores -/

section
variable {p : Package} {a : Access} {n : Text} {s : Section}

theorem validIp_ne_nil (h : validIp t = true) : t ≠ [] := by
  rintro rfl
  cases h

theorem nodup_entryOptions : ((entryOptions e).map Prod.fst).Nodup :=
  show ["name", "ipaddr"].Nodup by decide

theorem addressOf_make {e : Text × Text} (h : validIp e.2 = true) :
    addressOf (.make "wan_whitelist" (entryOptions e)) = some e.2 := by
  have hmem : ("ipaddr", Value.text e.2) ∈ entryOptions e := by simp [entryOptions]
  rw [addressOf, Section.make, Section.options_setAll_of_mem nodup_entryOptions hmem,
    Value.stored_text (validIp_ne_nil h)]
  exact Option.filter_some_pos h

theorem addresses_addEntries {entries : List (Text × Text)}
    (h : ∀ e ∈ entries, validIp e.2 = true) :
    ((addEntries p entries).ofType "wan_whitelist").filterMap (fun e => addressOf e.2) =
      (p.ofType "wan_whitelist").filterMap (fun e => addressOf e.2) ++
        entries.map Prod.snd := by
  unfold addEntries
  induction entries generalizing p with
  | nil => simp
  | cons e entries ih =>
    rw [List.foldl_cons, ih fun e he => h e (List.mem_cons_of_mem _ he), Package.ofType_add,
      List.filterMap_append, List.append_assoc, List.filterMap_cons]
    dsimp only
    rw [addressOf_make (h e List.mem_cons_self)]
    rfl

theorem find_addEntries (h : p.find n = some s) : (addEntries p entries).find n = some s := by
  induction entries generalizing p with
  | nil => exact h
  | cons e entries ih => exact ih (p := p.add _ (entryOptions e)) (Package.find_add h)

theorem find_stored (h : p.find n = some s) (htype : s.type ≠ "wan_whitelist") :
    (addEntries (p.deleteType "wan_whitelist") a.entries).find n = some s :=
  find_addEntries (Package.find_deleteType h htype)

theorem typeOf_withWanAccess
    (h : p.typeOf wanAccess = none ∨ p.typeOf wanAccess = some wanAccess) :
    (withWanAccess p).typeOf wanAccess = some wanAccess := by
  unfold withWanAccess
  obtain h | h := h
  · rw [h, if_neg (by simp), Package.typeOf, Package.find_setType_self]
    have hfind : p.find wanAccess = none := by simpa [Package.typeOf] using h
    rw [hfind]
    rfl
  · rw [h, if_pos (by rfl), h]

theorem find_withWanAccess (hn : n ≠ wanAccess) : (withWanAccess p).find n = p.find n := by
  unfold withWanAccess
  split
  · rfl
  · exact Package.find_setType_of_ne hn

end

theorem request_spec {a : Access} (h : request r args = .ok a) :
    (∀ e ∈ a.entries, validIp e.2 = true) ∧ (a.whitelisted = true → a.entries ≠ []) := by
  unfold request at h
  obtain ⟨_, _, h⟩ := bind_eq_ok.1 h
  obtain ⟨entries, hentries, h⟩ := bind_eq_ok.1 h
  obtain ⟨_, hsome, h⟩ := bind_eq_ok.1 h
  cases h
  refine ⟨?_, ?_⟩
  · intro e he
    obtain ⟨item, -, hitem⟩ := exists_of_mapM_eq_ok hentries he
    obtain ⟨ipaddr, hip, heq⟩ := bind_eq_ok.1 hitem
    cases heq
    exact (Option.filter_eq_some_iff.1 (elim_eq_ok.1 hip)).2
  · intro hon hnil
    have hentries := check_eq_ok.1 hsome
    dsimp only at hon hnil hentries
    rw [hon, hnil] at hentries
    cases hentries

section
variable {p : Package} {a : Access}

theorem nodup_accessOptions : ((accessOptions a).map Prod.fst).Nodup :=
  show ["enable_ping", "enable_https", "enable_ssh", "enable_whitelist"].Nodup by decide

theorem storeAccess_flag {o : String} (h : p.typeOf wanAccess = some wanAccess)
    (ho : (o, flagValue on) ∈ accessOptions a) :
    isOn ((storeAccess p a).get wanAccess o.toList) = on := by
  obtain ⟨s, hfind, htype⟩ := Option.map_eq_some_iff.1 h
  have hstored := find_stored (a := a) hfind (by rw [htype]; decide)
  have hthere : ((addEntries (p.deleteType "wan_whitelist") a.entries).typeOf
      wanAccess).isSome := by rw [Package.typeOf, hstored]; rfl
  rw [storeAccess, Package.get_setAll_of_mem hthere nodup_accessOptions ho]
  exact isOn_flagValue on

theorem typeOf_storeAccess (h : p.typeOf wanAccess = some wanAccess) :
    (storeAccess p a).typeOf wanAccess = some wanAccess := by
  obtain ⟨s, hfind, htype⟩ := Option.map_eq_some_iff.1 h
  have hstored := find_stored (a := a) hfind (by rw [htype]; decide)
  rw [storeAccess, Package.typeOf_setAll, Package.typeOf, hstored]
  exact congrArg some htype

theorem find_main_storeAccess {s : Section} (h : p.find main = some s) (htype : s.type = main) :
    (storeAccess p a).find main = some s := by
  rw [storeAccess, Package.find_setAll_of_ne (by decide)]
  exact find_stored h (by rw [htype]; decide)

theorem addresses_storeAccess (h : p.typeOf wanAccess = some wanAccess)
    (hvalid : ∀ e ∈ a.entries, validIp e.2 = true) :
    ((storeAccess p a).ofType "wan_whitelist").filterMap (fun e => addressOf e.2) =
      a.entries.map Prod.snd := by
  have htype := typeOf_storeAccess (a := a) h
  rw [storeAccess, Package.typeOf_setAll] at htype
  rw [storeAccess, Package.ofType_setAll, addresses_addEntries hvalid, Package.ofType_deleteType]
  · rfl
  · rw [htype]
    decide

end

/-! ## Steps -/

theorem opens_of_written {r' : Router} {a : Access} {o : String}
    (hvalid : a.whitelisted = true → a.entries ≠ [])
    (hrule : r'.firewall.find rule =
      if on then some (.make "rule" (remoteRule env name port a.sources)) else none)
    (hflag : on = true → isOn (r'.oui.get wanAccess o.toList) = true)
    (hwhite : isOn (r'.oui.get wanAccess "enable_whitelist") = a.whitelisted)
    (haddresses : whitelist r' = a.entries.map Prod.snd) : Opens env r' rule o port := by
  intro s hs
  cases on with
  | false =>
    rw [hrule] at hs
    cases hs
  | true =>
    rw [hrule, if_pos rfl] at hs
    cases hs
    refine ⟨hflag rfl, remoteRule_dest_port, fun hon => ?_⟩
    rw [hwhite] at hon
    have hsources : a.sources = whitelist r' := by rw [Access.sources, if_pos hon, haddresses]
    rw [← hsources]
    refine remoteRule_src_ip ?_
    rw [Access.sources, if_pos hon]
    exact fun hnil => hvalid hon (List.map_eq_nil_iff.1 hnil)

theorem httpsPort_congr {r' : Router} (h : r'.oui.find main = r.oui.find main) :
    httpsPort env r' = httpsPort env r := by
  rw [httpsPort, httpsPort, portOf, portOf, Package.get, Package.get, h]

theorem find_httpsRule {a : Access} :
    (writeRemote env r (writePing (r.firewall.deleteAll ownRules) a) a).find httpsRule =
      if a.https then
        some (.make "rule" (remoteRule env "GL Remote HTTPS" (httpsPort env r) a.sources))
      else none := by
  have hdeleted : (r.firewall.deleteAll ownRules).find httpsRule = none :=
    Package.find_deleteAll_of_mem (by decide)
  rw [writeRemote, find_writeRule_of_ne (by decide)]
  exact find_writeRule_self (find_writePing hdeleted (by decide) (by decide))

theorem find_sshRule {a : Access} :
    (writeRemote env r (writePing (r.firewall.deleteAll ownRules) a) a).find sshRule =
      if a.ssh && sshRunning r then
        some (.make "rule" (remoteRule env "GL Remote SSH" (sshPort env r) a.sources))
      else none := by
  have hdeleted : (r.firewall.deleteAll ownRules).find sshRule = none :=
    Package.find_deleteAll_of_mem (by decide)
  refine find_writeRule_self ?_
  rw [find_writeRule_of_ne (by decide)]
  exact find_writePing hdeleted (by decide) (by decide)

theorem setWanAccess_inv (h : Inv env r) : Inv env (setWanAccess env r args).2 := by
  unfold setWanAccess
  split
  · exact h
  · next a hreq =>
    obtain ⟨hvalid, hsome⟩ := request_spec hreq
    have hwan := typeOf_withWanAccess h.wanAccess
    obtain ⟨s, hmain, htype⟩ := Option.map_eq_some_iff.1 h.main
    have hmain' : (withWanAccess r.oui).find main = some s :=
      (find_withWanAccess (by decide)).trans hmain
    have hfind := find_main_storeAccess (a := a) hmain' htype
    have haddresses := addresses_storeAccess hwan hvalid
    have hflag : ∀ o on, (o, flagValue on) ∈ accessOptions a →
        isOn ((storeAccess (withWanAccess r.oui) a).get wanAccess o.toList) = on :=
      fun _ _ => storeAccess_flag hwan
    have hwhite := hflag "enable_whitelist" a.whitelisted (by simp [accessOptions])
    refine ⟨?_, .inr (typeOf_storeAccess hwan), ?_, ?_, ?_, fun hrule => ?_⟩
    · exact (congrArg (Option.map Section.type) hfind).trans (congrArg some htype)
    · have hhttps := hflag "enable_https" a.https (by simp [accessOptions])
      rw [httpsPort_congr (r := r) (hfind.trans hmain.symm)]
      exact opens_of_written hsome find_httpsRule hhttps.trans hwhite haddresses
    · have hssh := hflag "enable_ssh" a.ssh (by simp [accessOptions])
      exact opens_of_written hsome find_sshRule
        (fun hon => hssh.trans (Bool.and_eq_true_iff.1 hon).1) hwhite haddresses
    · rw [Listens, httpsPort_congr (r := r) (hfind.trans hmain.symm)]
      exact h.inStep.listens
    · rw [find_sshRule] at hrule
      by_contra hnot
      have hoff : ¬(a.ssh && sshRunning r) = true := fun hon => hnot (Bool.and_eq_true_iff.1 hon).2
      rw [if_neg hoff] at hrule
      cases hrule

/-! ## Changes of ports -/

theorem validPort_eq_natCast (h : validPort port = true) :
    ∃ n : Nat, port = n ∧ 1 ≤ n ∧ n ≤ 65535 := by
  simp only [validPort, Bool.and_eq_true, decide_eq_true_eq] at h
  obtain ⟨⟨hlow, hhigh⟩, hint⟩ := h
  have hnum : (port.num : Rat) = port := Rat.den_eq_one_iff port |>.1 hint
  have hlow' : 1 ≤ port.num := by
    rw [← hnum] at hlow
    exact_mod_cast hlow
  have hhigh' : port.num ≤ 65535 := by
    rw [← hnum] at hhigh
    exact_mod_cast hhigh
  refine ⟨port.num.toNat, ?_, by omega, by omega⟩
  have hcast : (port.num.toNat : Int) = port.num := Int.toNat_of_nonneg (by omega)
  calc port = (port.num : Rat) := hnum.symm
    _ = ((port.num.toNat : Int) : Rat) := by rw [hcast]
    _ = port.num.toNat := Int.cast_natCast _

theorem numberOf_stored (h : validPort port = true) :
    env.numberOf (Value.text (env.showNumber port)).stored = some port := by
  obtain ⟨n, rfl, hlow, hhigh⟩ := validPort_eq_natCast h
  have hne : env.showNumber n ≠ [] := env.tostring_ne_nil n
  rw [Value.stored_text hne]
  exact env.tonumber_tostring n hlow hhigh

theorem checkPorts_valid (h : checkPorts seen ports = true) :
    ∀ port ∈ ports, validPort port = true := by
  induction ports generalizing seen with
  | nil => simp
  | cons port ports ih =>
    simp only [checkPorts, Bool.and_eq_true] at h
    intro port' hmem
    obtain rfl | hmem := List.mem_cons.1 hmem
    · exact h.1.1
    · exact ih h.2 port' hmem

theorem portOf_setAll {p : Package} {options : List (String × Value)}
    (hmain : (p.typeOf main).isSome) (hnodup : (options.map Prod.fst).Nodup)
    (hmem : (o, .text (env.showNumber port)) ∈ options) (hport : validPort port = true) :
    portOf env (p.setAll main options) o d = port := by
  rw [portOf, Package.get_setAll_of_mem hmain hnodup hmem, numberOf_stored hport]
  rfl

section
variable {ports : Ports}

theorem nodup_ouiOptions : ((ouiOptions env args ports).map Prod.fst).Nodup := by
  have hnames : ["http_port", "https_port", "redirect_https", "luci_http_port", "luci_https_port",
    "session_timeout"].Nodup := by decide
  refine List.Sublist.nodup ?_ hnames
  unfold ouiOptions sessionTimeout
  split
  · exact List.Sublist.refl _
  · exact List.sublist_append_left ["http_port", "https_port", "redirect_https", "luci_http_port",
      "luci_https_port"] ["session_timeout"]

theorem nodup_dropbearOptions : ((dropbearOptions env args ports).map Prod.fst).Nodup :=
  show ["Port", "enable"].Nodup by decide

theorem withPorts_oui :
    (withPorts env r args ports).oui = r.oui.setAll main (ouiOptions env args ports) := by
  rw [withPorts]

theorem withPorts_dropbear :
    (withPorts env r args ports).dropbear =
      r.dropbear.setAll main (dropbearOptions env args ports) := by
  rw [withPorts]

theorem httpsPort_withPorts (hmain : r.oui.typeOf main = some main)
    (hport : validPort ports.https = true) :
    httpsPort env (withPorts env r args ports) = ports.https := by
  have hthere : (r.oui.typeOf main).isSome := by rw [hmain]; rfl
  rw [httpsPort, withPorts_oui]
  exact portOf_setAll hthere nodup_ouiOptions (by simp [ouiOptions]) hport

theorem sshPort_withPorts (hport : validPort ports.ssh = true) (h : ports.ssh = sshPort env r) :
    sshPort env (withPorts env r args ports) = sshPort env r := by
  by_cases hmain : (r.dropbear.typeOf main).isSome = true
  · rw [← h, sshPort, withPorts_dropbear]
    exact portOf_setAll hmain nodup_dropbearOptions (by simp [dropbearOptions]) hport
  · have hnone : r.dropbear.typeOf main = none := by simpa using hmain
    have hnone' : (withPorts env r args ports).dropbear.typeOf main = none := by
      rw [withPorts_dropbear, Package.typeOf_setAll, hnone]
    rw [sshPort, sshPort, portOf, portOf, Package.get_of_typeOf_eq_none hnone,
      Package.get_of_typeOf_eq_none hnone']

theorem sshRunning_withPorts (h : Json.truthy (arg args "ssh_enabled") = true) :
    sshRunning (withPorts env r args ports) = true := by
  refine decide_eq_true fun hoff => ?_
  rw [withPorts_dropbear] at hoff
  by_cases hmain : (r.dropbear.typeOf main).isSome = true
  · rw [Package.get_setAll_of_mem (v := flag (arg args "ssh_enabled")) hmain nodup_dropbearOptions
      (by simp [dropbearOptions]), flag, h] at hoff
    exact absurd hoff (by decide)
  · have hnone : (r.dropbear.setAll main (dropbearOptions env args ports)).typeOf main = none := by
      rw [Package.typeOf_setAll]
      simpa using hmain
    rw [Package.get_of_typeOf_eq_none hnone] at hoff
    cases hoff

theorem listens_listeners (hlisten : r.listen = some (listeners env ports redirect))
    (hport : httpsPort env r = ports.https) : Listens env r := by
  refine ⟨_, hlisten, ?_⟩
  have hline : ∀ {x a b c d e f g h i : Text},
      a ++ b ++ c <:+: x ++ a ++ b ++ c ++ d ++ e ++ f ++ g ++ h ++ i :=
    fun {x _ _ _ d e f g h i} => ⟨x, d ++ e ++ f ++ g ++ h ++ i, by simp⟩
  rw [hport]
  exact hline

theorem whitelist_withPorts (hmain : r.oui.typeOf main = some main) :
    whitelist (withPorts env r args ports) = whitelist r := by
  have hne : r.oui.typeOf main ≠ some "wan_whitelist" := by
    rw [hmain]
    decide
  rw [whitelist, whitelistSections, withPorts_oui, Package.ofType_setAll hne]
  rfl

theorem Opens.withPorts (h : Opens env r rule o port) (hmain : r.oui.typeOf main = some main)
    (hport : (r.firewall.find rule).isSome → port' = port) :
    Opens env (withPorts env r args ports) rule o port' := by
  intro s hs
  obtain ⟨hflag, hdest, hsources⟩ := h s hs
  have hne : wanAccess ≠ RemoteAccess.main := by decide
  rw [withPorts_oui, Package.get_setAll_of_ne hne, Package.get_setAll_of_ne hne,
    whitelist_withPorts hmain, hport (Option.isSome_of_eq_some hs)]
  exact ⟨hflag, hdest, hsources⟩

theorem withPorts_inv (h : Inv env r) (hhttps : validPort ports.https = true)
    (hssh : validPort ports.ssh = true)
    (hkeepsHttps : (r.firewall.find httpsRule).isSome → ports.https = httpsPort env r)
    (hkeepsSsh : (r.firewall.find sshRule).isSome → ports.ssh = sshPort env r ∧
      Json.truthy (arg args "ssh_enabled") = true) :
    Inv env (withPorts env { r with listen := some (listeners env ports redirect) } args ports) := by
  generalize hr : { r with listen := some (listeners env ports redirect) } = r'
  have hopens : InStep env { r' with listen := r.listen } := hr ▸ h.inStep
  have hmain : r'.oui.typeOf main = some main := hr ▸ h.main
  have hport : httpsPort env (withPorts env r' args ports) = ports.https :=
    httpsPort_withPorts hmain hhttps
  have hlisten : (withPorts env r' args ports).listen = some (listeners env ports redirect) := by
    rw [withPorts, ← hr]
  refine ⟨?_, ?_, ?_, ?_, listens_listeners hlisten hport, fun hrule => ?_⟩
  · rw [withPorts_oui, Package.typeOf_setAll, hmain]
  · rw [withPorts_oui, Package.typeOf_setAll, ← hr]
    exact h.wanAccess
  · refine Opens.withPorts (r := r') hopens.https hmain fun hrule => hport.trans ?_
    subst hr
    exact hkeepsHttps hrule
  · refine Opens.withPorts (r := r') hopens.ssh hmain fun hrule => sshPort_withPorts hssh ?_
    subst hr
    exact (hkeepsSsh hrule).1
  · subst hr
    exact sshRunning_withPorts (hkeepsSsh hrule).2

end

theorem setConfig_inv (h : Inv env r) (hkeeps : KeepsPorts env r (.setConfig args files)) :
    Inv env (setConfig env r args files).2 := by
  obtain ⟨hkeepsHttps, hkeepsSsh, hfile⟩ := hkeeps
  unfold setConfig
  dsimp only
  split
  · exact h
  · next hports =>
    have hvalid := checkPorts_valid (by simpa using hports)
    have hhttps := hvalid (askedPorts env args).https (by simp [Ports.all])
    have hssh := hvalid (askedPorts env args).ssh (by simp [Ports.all])
    split
    · exact h
    split
    · next hrefused =>
      have hrestored : files.restorable = true := hfile.resolve_left (by simpa using hrefused)
      obtain ⟨t, ht, hlistens⟩ := h.inStep.listens
      have hsame : { r with listen := some (r.listen.getD defaultListeners) } = r := by
        rw [Option.mem_def.1 ht, Option.getD_some, ← Option.mem_def.1 ht]
      rw [hrestored, if_pos rfl, hsame]
      exact h
    · exact withPorts_inv h hhttps hssh hkeepsHttps hkeepsSsh

theorem step_inv (h : Inv env r) (hkeeps : KeepsPorts env r c) :
    Inv env ((machine env).step r c) := by
  cases c with
  | setWanAccess args => exact setWanAccess_inv h
  | setConfig args files => exact setConfig_inv h hkeeps

end

/-- If no call moves or stops a service whose rule is there, the rules stay in step with the
settings. -/
theorem remote_rules_in_step {env : Env} {r : Router} {cs : List Call} (hr : Inv env r)
    (hcs : (machine env).Admits (KeepsPorts env) r cs) : InStep env ((machine env).run r cs) :=
  (Machine.invariant (I := Inv env) (fun _ _ hkeeps h => step_inv h hkeeps) hcs hr).inStep

def decimal : Env where
  tonumber t := if isNumber t then some (toNumber t) else none
  tostring
    | .num n => Nat.toDigits 10 n.num.toNat
    | _ => []
  tostring_ne_nil _ := Nat.toDigits_ne_nil
  tonumber_tostring n _ _ := by
    simp [isNumber_toDigits, toNumber_toDigits]

/-- No rule is there, and nothing but the section `main` and the listener file as shipped. -/
def fresh : Router where
  oui := Package.empty.newSection main main [("session_timeout", .text "300")]
  firewall := .empty
  dropbear := Package.empty.newSection main "dropbear" [("Port", .text "22")]
  uhttpd := Package.empty.newSection main "uhttpd" []
  listen := some (listeners decimal (askedPorts decimal (.obj [])) false)

def openHttps : Call :=
  .setWanAccess (.obj [("enable_https", .bool true), ("enable_ssh", .bool true),
    ("enable_whitelist", .bool true),
    ("whitelist", .arr [.obj [("ipaddr", .str "203.0.113.7")]])])

def setPorts (https : Nat) (ssh : Bool) : Call :=
  .setConfig (.obj [("https_port", .num https), ("ssh_enabled", .bool ssh)]) ⟨true, true, true⟩

theorem fresh_inv : Inv decimal fresh where
  main := rfl
  wanAccess := .inl rfl
  inStep := ⟨(fun _ h => nomatch h), (fun _ h => nomatch h), listens_listeners rfl (by decide), nofun⟩

/-- Both services are opened for one address, and the ports stay. -/
theorem remote_rules_in_step_whitelisted :
    (machine decimal).Admits (KeepsPorts decimal) fresh [openHttps, setPorts 443 true] ∧
      InStep decimal ((machine decimal).run fresh [openHttps, setPorts 443 true]) := by
  have hadmits : (machine decimal).Admits (KeepsPorts decimal) fresh [openHttps, setPorts 443 true] :=
    ⟨trivial, ⟨fun _ => by decide, fun _ => ⟨by decide, rfl⟩, .inl rfl⟩, trivial⟩
  exact ⟨hadmits, remote_rules_in_step fresh_inv hadmits⟩

/-- The admin UI moves to another port, and the rule still opens the old one. SSH is stopped, and its
rule stays. -/
theorem port_changed_under_rule :
    Inv decimal fresh ∧
      ¬InStep decimal ((machine decimal).run fresh [openHttps, setPorts 8444 true]) ∧
      ¬InStep decimal ((machine decimal).run fresh [openHttps, setPorts 443 false]) := by
  refine ⟨fresh_inv, fun h => ?_, fun h => ?_⟩
  · have hdest : (((machine decimal).run fresh [openHttps, setPorts 8444 true]).firewall.find
        httpsRule).bind (fun s => s.options "dest_port") = some (.text "443") := by
      decide
    obtain ⟨s, hs, hport⟩ := Option.bind_eq_some_iff.1 hdest
    have hconfigured := hport.symm.trans (h.https s hs).2.1
    exact absurd hconfigured (by decide)
  · exact absurd (h.running (by decide)) (by decide)

end GlXe3000.Oui.RemoteAccess
