import GlXe3000.Oui.Vpn.Client

/-! # One tunnel at a time

Bringing a tunnel up takes the sections of all others away, but leaves their options `enabled` as
they are; and a tunnel is marked as enabled before it is known whether it can be brought up. As long
as a tunnel is enabled only while no other is, and only with a complete peer, the tunnels that are
marked as enabled are those that have their sections, and there is at most one. -/

namespace GlXe3000.Oui.Vpn.Client
open Text

/-! ## Tunnels and their sections -/

def IsTunnel (p : Package) (n : Text) (s : Section) : Prop := (n, s) ∈ p.ofType "tunnel"

def tunnelId (s : Section) : Text :=
  ((s.options "tunnel_id").bind Value.asText).getD []

def iface (s : Section) : Text := "vpnc".toList ++ (tunnelId s).take 8

def enabled (s : Section) : Bool := isOn (s.options "enabled")

def firewallNames (i : Text) : List Text := [zoneName i, fwdName i, lanFwdName i]

/-- The section of `network` belongs to the tunnel with the interface `i`. -/
def InNetwork (i : Text) (e : Text × Section) : Prop := e.1 = i ∨ e.2.type = peerType i

/-- The tunnel with the interface `i` has no sections. -/
structure Down (c : Configs) (i : Text) : Prop where
  network : ∀ e ∈ c.network.sections, ¬InNetwork i e
  firewall : ∀ e ∈ c.firewall.sections, e.1 ∉ firewallNames i

/-- The tunnel with the interface `i` has an interface, a peer without a name and a zone. -/
structure Up (c : Configs) (i : Text) : Prop where
  interface : ∃ e ∈ c.network.sections, e.1 = i ∧ e.2.type = "interface"
  peer : ∃ e ∈ c.network.sections, e.2.type = peerType i ∧ "cfg" <+: e.1
  zone : ∃ e ∈ c.firewall.sections, e.1 = zoneName i

structure Truthful (c : Configs) : Prop where
  single : ∀ n s n' s', IsTunnel c.vpnclient n s → IsTunnel c.vpnclient n' s' →
    enabled s = true → enabled s' = true → n = n'
  up : ∀ n s, IsTunnel c.vpnclient n s → enabled s = true → Up c (iface s)
  down : ∀ n s, IsTunnel c.vpnclient n s → enabled s = false → Down c (iface s)

/-- The sections of tunnels are named after their ids, which differ in their first 8 characters. -/
structure Named (p : Package) : Prop where
  name : ∀ n s, IsTunnel p n s → n = sectionName (tunnelId s)
  id : ∀ n s, IsTunnel p n s → s.options "tunnel_id" = some (.text (tunnelId s))
  length : ∀ n s, IsTunnel p n s → 8 ≤ (tunnelId s).length
  distinct : ∀ n s n' s', IsTunnel p n s → IsTunnel p n' s' → iface s = iface s' → n = n'

section
variable {c c' : Configs} {i j : Text}

structure IsIface (i : Text) : Prop where
  start : ∃ t, i = "vpnc".toList ++ t
  length : i.length = 12

theorem Named.isIface (h : Named p) (hs : IsTunnel p n s) : IsIface (iface s) := by
  refine ⟨⟨_, rfl⟩, ?_⟩
  have hlength := h.length n s hs
  have hvpnc : "vpnc".toList.length = 4 := rfl
  simp only [iface, List.length_append, List.length_take]
  omega

theorem peerType_injective (h : peerType i = peerType j) : i = j := by
  unfold peerType at h
  exact List.append_cancel_left h

theorem interface_ne_peerType : "interface" ≠ peerType i := by
  unfold peerType
  simp

/-- The sections of two tunnels in `firewall` have different names, because the names of interfaces
have one length. -/
theorem firewallNames_disjoint (hi : IsIface i) (hj : IsIface j) (hne : i ≠ j)
    (hx : x ∈ firewallNames i) : x ∉ firewallNames j := by
  intro hx'
  simp only [firewallNames, List.mem_cons, List.not_mem_nil, or_false] at hx hx'
  have hlength : ∀ k, IsIface k → (zoneName k).length = 20 ∧ (fwdName k).length = 24 ∧
      (lanFwdName k).length = 28 := by
    intro k hk
    unfold lanFwdName fwdName zoneName
    simp [hk.length]
  have hli := hlength i hi
  have hlj := hlength j hj
  have hzone : zoneName i ≠ zoneName j := by
    intro h
    unfold zoneName at h
    exact hne (List.append_cancel_left h)
  obtain rfl | rfl | rfl := hx
  · obtain h | h | h := hx'
    · exact hzone h
    · have := congrArg List.length h
      omega
    · have := congrArg List.length h
      omega
  · obtain h | h | h := hx'
    · have := congrArg List.length h
      omega
    · unfold fwdName at h
      exact hzone (List.append_cancel_right h)
    · have := congrArg List.length h
      omega
  · obtain h | h | h := hx'
    · have := congrArg List.length h
      omega
    · have := congrArg List.length h
      omega
    · unfold lanFwdName at h
      exact hzone (List.append_cancel_right h)

end

/-! ## Teardown -/

section
variable {env : Env} {c : Configs} {id : Option Value} {i : Text}

theorem mem_teardown_network : e ∈ (teardown env c id).network.sections ↔
    e ∈ c.network.sections ∧ ¬InNetwork (ifaceName env id) e := by
  simp only [teardown, Package.sections_deleteType, Package.delete, List.mem_filter, InNetwork,
    decide_eq_true_eq, not_or, and_assoc]

theorem mem_teardown_firewall {e : Text × Section} : e ∈ (teardown env c id).firewall.sections ↔
    e ∈ c.firewall.sections ∧ e.1 ∉ firewallNames (ifaceName env id) := by
  simp only [teardown, Package.delete, List.mem_filter, firewallNames, List.mem_cons,
    List.not_mem_nil, or_false, decide_eq_true_eq, not_or, and_assoc]

theorem teardown_down : Down (teardown env c id) (ifaceName env id) :=
  ⟨fun _ he => (mem_teardown_network.1 he).2, fun _ he => (mem_teardown_firewall.1 he).2⟩

theorem Down.teardown (h : Down c i) : Down (teardown env c id) i :=
  ⟨fun e he => h.network e (mem_teardown_network.1 he).1,
    fun e he => h.firewall e (mem_teardown_firewall.1 he).1⟩

theorem Up.teardown (h : Up c i) (hi : IsIface i) (hid : IsIface (ifaceName env id))
    (hne : i ≠ ifaceName env id) : Up (teardown env c id) i := by
  constructor
  case interface =>
    obtain ⟨e, he, rfl, htype⟩ := h.interface
    refine ⟨e, mem_teardown_network.2 ⟨he, ?_⟩, rfl, htype⟩
    rintro (heq | heq)
    · exact hne heq
    · exact interface_ne_peerType (htype.symm.trans heq)
  case peer =>
    obtain ⟨e, he, htype, hcfg⟩ := h.peer
    refine ⟨e, mem_teardown_network.2 ⟨he, ?_⟩, htype, hcfg⟩
    rintro (heq | heq)
    · obtain ⟨t, ht⟩ := hid.start
      rw [heq, ht] at hcfg
      simp at hcfg
    · exact hne (peerType_injective (htype.symm.trans heq))
  case zone =>
    obtain ⟨e, he, hname⟩ := h.zone
    refine ⟨e, mem_teardown_firewall.2 ⟨he, ?_⟩, hname⟩
    rw [hname]
    exact firewallNames_disjoint hi hid hne List.mem_cons_self

theorem teardownAllExcept_vpnclient : (teardownAllExcept env c keep).vpnclient = c.vpnclient := by
  unfold teardownAllExcept
  generalize tunnelSections env c.vpnclient = l
  induction l generalizing c with
  | nil => rfl
  | cons e l ih =>
    rw [List.foldl_cons, ih]
    split_ifs
    · rfl
    · rfl

theorem Down.teardownAllExcept (h : Down c i) : Down (teardownAllExcept env c keep) i := by
  unfold Client.teardownAllExcept
  generalize tunnelSections env c.vpnclient = l
  induction l generalizing c with
  | nil => exact h
  | cons e l ih =>
    rw [List.foldl_cons]
    split_ifs
    · exact ih h
    · exact ih h.teardown

end

/-! ## Bringing a tunnel up -/

section
variable {env : Env} {c : Configs} {i j : Text} {tunnel : Section}
  (interface peer : List (String × Value))

theorem Down.sections_addInterface (h : Down c i) :
    ∃ n, "cfg" <+: n ∧ (addInterface c.network i interface peer).sections =
      c.network.sections ++ [(i, .make "interface" interface), (n, .make (peerType i) peer)] := by
  have hnew : i ∉ c.network.names := Package.not_mem_names fun e he heq => h.network e he (.inl heq)
  refine ⟨(c.network.newSection i "interface" interface).anonName,
    List.prefix_append .., ?_⟩
  rw [addInterface, Package.sections_add, Package.sections_newSection hnew, List.append_assoc]
  rfl

theorem zoneSections_names : ((zoneSections tunnel i).map Package.Draft.name).Nodup ∧
    ∀ d ∈ zoneSections tunnel i, d.name ∈ firewallNames i := by
  have hfwd : zoneName i ≠ fwdName i := by
    unfold fwdName
    simp
  have hlan : zoneName i ≠ lanFwdName i := by
    unfold lanFwdName
    simp
  have hboth : fwdName i ≠ lanFwdName i := by
    unfold fwdName lanFwdName
    simp
  unfold zoneSections firewallNames
  cases isOn (tunnel.options "local_access") with
  | true => simp [hfwd, hlan, hboth]
  | false => simp [hfwd]

theorem Down.sections_zone (h : Down c i) (tunnel : Section) :
    (c.firewall.newSections (zoneSections tunnel i)).sections =
    c.firewall.sections ++ (zoneSections tunnel i).map Package.Draft.entry := by
  refine Package.sections_newSections zoneSections_names.1 fun d hd e he heq => ?_
  exact h.firewall e he (heq ▸ zoneSections_names.2 d hd)

theorem Down.raise (h : Down c i) (tunnel : Section) (hi : IsIface i) :
    let c' := { c with
      network := addInterface c.network i interface peer
      firewall := c.firewall.newSections (zoneSections tunnel i) }
    Up c' i ∧ ∀ j, IsIface j → j ≠ i → Down c j → Down c' j := by
  intro c'
  obtain ⟨n, hcfg, hnetwork⟩ := h.sections_addInterface interface peer
  have hfirewall := h.sections_zone tunnel
  constructor
  · constructor
    case interface =>
      refine ⟨(i, .make "interface" interface), ?_, rfl, Section.type_make⟩
      rw [hnetwork]
      exact List.mem_append_right _ List.mem_cons_self
    case peer =>
      refine ⟨(n, .make (peerType i) peer), ?_, Section.type_make, hcfg⟩
      rw [hnetwork]
      exact List.mem_append_right _ (List.mem_cons_of_mem _ List.mem_cons_self)
    case zone =>
      obtain ⟨d, hd, hname⟩ : ∃ d ∈ zoneSections tunnel i, d.name = zoneName i :=
        ⟨_, List.mem_cons_self, rfl⟩
      refine ⟨d.entry, ?_, hname⟩
      rw [hfirewall]
      exact List.mem_append_right _ (List.mem_map_of_mem hd)
  · intro j hj hne hdown
    constructor
    case network =>
      intro e he hin
      rw [hnetwork] at he
      simp only [List.mem_append, List.mem_cons, List.not_mem_nil, or_false] at he
      obtain he | rfl | rfl := he
      · exact hdown.network e he hin
      · obtain heq | heq := hin
        · exact hne heq.symm
        · exact interface_ne_peerType (Section.type_make.symm.trans heq)
      · obtain heq | heq := hin
        · obtain ⟨t, ht⟩ := hj.start
          rw [show n = j from heq, ht] at hcfg
          simp at hcfg
        · exact hne (peerType_injective (Section.type_make.symm.trans heq)).symm
    case firewall =>
      intro e he hin
      rw [hfirewall] at he
      obtain he | he := List.mem_append.1 he
      · exact hdown.firewall e he hin
      · obtain ⟨d, hd, rfl⟩ := List.mem_map.1 he
        exact firewallNames_disjoint hi hj (Ne.symm hne) (zoneSections_names.2 d hd) hin

/-- Nothing is wrong with a peer: its endpoint can be read, it has an address, and addresses that it
is allowed to send. -/
structure Complete (env : Env) (peer : Section) : Prop where
  endPoint : ∃ host port, endPoint env peer = some (host, port) ∧ 1 ≤ port ∧ port ≤ 65535
  addresses : ∃ v, addresses env peer = .ok v
  allowedIps : ∃ v, allowedIps env peer = .ok v

theorem Complete.generate {peer : Section} (h : Complete env peer) (tunnel : Section) :
    ∃ v, generate env tunnel peer = .ok v := by
  obtain ⟨host, port, hend, hport⟩ := h.endPoint
  obtain ⟨addresses, haddresses⟩ := h.addresses
  obtain ⟨allowedIps, hallowed⟩ := h.allowedIps
  simp only [Client.generate, interfaceValues, peerValues, bind_eq_ok, check_eq_ok]
  exact ⟨_, (host, port), by rw [hend]; rfl, (), decide_eq_true hport, _,
    ⟨addresses, haddresses, rfl⟩, _, ⟨allowedIps, hallowed, rfl⟩, rfl⟩

/-- The tunnel `s` has the type that can be brought up, and a complete peer. -/
structure Ready (env : Env) (wgclient : Package) (s : Section) : Prop where
  type : s.options "tunnel_type" = some (.text "wireguard")
  peer : ∃ peer, peerOf env wgclient s = some peer ∧ Complete env peer

theorem applyRuntime_spec {s : Section} (h : Ready env c.wgclient s) (hi : IsIface (iface s))
    (hid : s.options "tunnel_id" = some (.text (tunnelId s))) :
    (applyRuntime env c s).2.vpnclient = c.vpnclient ∧ Up (applyRuntime env c s).2 (iface s) ∧
      ∀ j, IsIface j → j ≠ iface s → Down c j → Down (applyRuntime env c s).2 j := by
  obtain ⟨peer, hpeer, hcomplete⟩ := h.peer
  obtain ⟨⟨interface, values⟩, hgen⟩ := hcomplete.generate s
  have hname : ifaceName env (s.options "tunnel_id") = iface s := by
    rw [hid]
    rfl
  unfold applyRuntime
  rw [if_pos h.type, hpeer]
  dsimp only
  rw [hgen]
  dsimp only
  generalize hc₁ : teardownAllExcept env (teardown env c (s.options "tunnel_id"))
    (s.options "tunnel_id") = c₁
  have hvpnclient : c₁.vpnclient = c.vpnclient := by
    rw [← hc₁, teardownAllExcept_vpnclient]
    rfl
  have hdown : Down c₁ (iface s) := by
    rw [← hc₁, ← hname]
    exact teardown_down.teardownAllExcept
  have hkept : ∀ j, Down c j → Down c₁ j := by
    intro j hj
    rw [← hc₁]
    exact hj.teardown.teardownAllExcept
  rw [hname]
  obtain ⟨hup, hothers⟩ := hdown.raise interface values s hi
  exact ⟨hvpnclient, hup, fun j hj hne h => hothers j hj hne (hkept j h)⟩

end

/-! ## The invariant -/

/-- The interfaces of enabled tunnels have their sections, and no other interface has. -/
structure Inv (c : Configs) : Prop where
  named : Named c.vpnclient
  single : ∀ n s n' s', IsTunnel c.vpnclient n s → IsTunnel c.vpnclient n' s' →
    enabled s = true → enabled s' = true → n = n'
  up : ∀ n s, IsTunnel c.vpnclient n s → enabled s = true → Up c (iface s)
  down : ∀ i, IsIface i → (∀ n s, IsTunnel c.vpnclient n s → iface s = i → enabled s = false) →
    Down c i

section
variable {env : Env} {c c' : Configs} {p p' : Package} {n m : Text} {s s' : Section}

theorem Named.eq_of_isTunnel (hs : IsTunnel p n s) (hs' : IsTunnel p n s') : s = s' := by
  have h := (Package.mem_ofType_iff.1 hs).1.symm.trans (Package.mem_ofType_iff.1 hs').1
  exact Option.some.inj h

theorem Inv.truthful (h : Inv c) : Truthful c := by
  refine ⟨h.single, h.up, fun n s hs hoff => h.down _ (h.named.isIface hs) ?_⟩
  intro n' s' hs' heq
  obtain rfl := h.named.distinct n' s' n s hs' hs heq
  rw [Named.eq_of_isTunnel hs' hs]
  exact hoff

theorem iface_congr (h : s'.options "tunnel_id" = s.options "tunnel_id") :
    tunnelId s' = tunnelId s ∧ iface s' = iface s := by
  unfold iface tunnelId
  rw [h]
  exact ⟨rfl, rfl⟩

theorem Named.of_tracks (h : Named p) (ht : ∀ n s', IsTunnel p' n s' → ∃ s, IsTunnel p n s ∧
    s'.options "tunnel_id" = s.options "tunnel_id") : Named p' := by
  constructor
  case name =>
    intro n s' hs'
    obtain ⟨s, hs, hid⟩ := ht n s' hs'
    rw [(iface_congr hid).1]
    exact h.name n s hs
  case id =>
    intro n s' hs'
    obtain ⟨s, hs, hid⟩ := ht n s' hs'
    rw [(iface_congr hid).1, hid]
    exact h.id n s hs
  case length =>
    intro n s' hs'
    obtain ⟨s, hs, hid⟩ := ht n s' hs'
    rw [(iface_congr hid).1]
    exact h.length n s hs
  case distinct =>
    intro n s n' s' hs hs' heq
    obtain ⟨s₀, hs₀, hid₀⟩ := ht n s hs
    obtain ⟨s₁, hs₁, hid₁⟩ := ht n' s' hs'
    rw [(iface_congr hid₀).2, (iface_congr hid₁).2] at heq
    exact h.distinct n s₀ n' s₁ hs₀ hs₁ heq

/-- In `p'` the section `n` may have changed or be gone, and if it is a tunnel then one with the id
that `s` has. -/
structure Changed (p p' : Package) (n : Text) (s : Section) : Prop where
  isTunnel : IsTunnel p n s
  others : ∀ m s', m ≠ n → (IsTunnel p' m s' ↔ IsTunnel p m s')
  id : ∀ s', IsTunnel p' n s' → s'.options "tunnel_id" = s.options "tunnel_id"

theorem Changed.named (h : Changed p p' n s) (hp : Named p) : Named p' := by
  refine hp.of_tracks fun m s' hs' => ?_
  by_cases hm : m = n
  · subst hm
    exact ⟨s, h.isTunnel, h.id s' hs'⟩
  · exact ⟨s', (h.others m s' hm).1 hs', rfl⟩

theorem Inv.stopped (h : Inv c) (hp : Changed c.vpnclient p' n s)
    (hoff : ∀ s', IsTunnel p' n s' → enabled s' = false) :
    Inv { teardown env c (s.options "tunnel_id") with vpnclient := p' } := by
  have hname : ifaceName env (s.options "tunnel_id") = iface s := by
    rw [h.named.id n s hp.isTunnel]
    rfl
  have hi : IsIface (iface s) := h.named.isIface hp.isTunnel
  have hother : ∀ m s', IsTunnel p' m s' → enabled s' = true → m ≠ n ∧ IsTunnel c.vpnclient m s' := by
    intro m s' hs' hen
    have hm : m ≠ n := by
      rintro rfl
      rw [hoff s' hs'] at hen
      cases hen
    exact ⟨hm, (hp.others m s' hm).1 hs'⟩
  constructor
  case named => exact hp.named h.named
  case single =>
    intro m s₁ m' s₂ h₁ h₂ hen₁ hen₂
    exact h.single m s₁ m' s₂ (hother m s₁ h₁ hen₁).2 (hother m' s₂ h₂ hen₂).2 hen₁ hen₂
  case up =>
    intro m s' hs' hen
    obtain ⟨hm, hs'⟩ := hother m s' hs' hen
    have hne : iface s' ≠ iface s := fun heq => hm (h.named.distinct m s' n s hs' hp.isTunnel heq)
    have hup := (h.up m s' hs' hen).teardown (h.named.isIface hs') (hname.symm ▸ hi)
      (hname.symm ▸ hne)
    exact ⟨hup.interface, hup.peer, hup.zone⟩
  case down =>
    intro i hiface hoff'
    by_cases hi' : i = iface s
    · have hdown : Down (teardown env c (s.options "tunnel_id")) i := by
        rw [hi', ← hname]
        exact teardown_down
      exact ⟨hdown.network, hdown.firewall⟩
    · have hdown : Down c i := by
        refine h.down i hiface fun m s' hs' heq => ?_
        have hm : m ≠ n := by
          rintro rfl
          rw [Named.eq_of_isTunnel hs' hp.isTunnel] at heq
          exact hi' heq.symm
        exact hoff' m s' ((hp.others m s' hm).2 hs') heq
      exact ⟨hdown.teardown.network, hdown.teardown.firewall⟩

theorem Inv.started (h : Inv c) (hnamed : Named c'.vpnclient) (hs : IsTunnel c'.vpnclient n s)
    (hen : enabled s = true)
    (hother : ∀ m s', m ≠ n → (IsTunnel c'.vpnclient m s' ↔ IsTunnel c.vpnclient m s'))
    (hself : ∀ s', IsTunnel c.vpnclient n s' → iface s' = iface s)
    (hoff : ∀ m s', m ≠ n → IsTunnel c.vpnclient m s' → enabled s' = false) (hup : Up c' (iface s))
    (hdown : ∀ j, IsIface j → j ≠ iface s → Down c j → Down c' j) : Inv c' := by
  have honly : ∀ m s', IsTunnel c'.vpnclient m s' → enabled s' = true → m = n := by
    intro m s' hs' hen'
    by_contra hm
    rw [hoff m s' hm ((hother m s' hm).1 hs')] at hen'
    cases hen'
  constructor
  case named => exact hnamed
  case single =>
    intro m s₁ m' s₂ h₁ h₂ hen₁ hen₂
    exact (honly m s₁ h₁ hen₁).trans (honly m' s₂ h₂ hen₂).symm
  case up =>
    intro m s' hs' hen'
    obtain rfl := honly m s' hs' hen'
    rw [Named.eq_of_isTunnel hs' hs]
    exact hup
  case down =>
    intro i hi hoff'
    have hne : i ≠ iface s := by
      rintro rfl
      rw [hoff' n s hs rfl] at hen
      cases hen
    refine hdown i hi hne (h.down i hi fun m s' hs' heq => ?_)
    by_cases hm : m = n
    · subst hm
      exact absurd ((hself s' hs').symm.trans heq).symm hne
    · exact hoff m s' hm hs'

theorem Inv.same (h : Inv c) (hnetwork : c'.network = c.network) (hfirewall : c'.firewall = c.firewall)
    (ht : ∀ m s', IsTunnel c'.vpnclient m s' → ∃ s, IsTunnel c.vpnclient m s ∧
      s'.options "tunnel_id" = s.options "tunnel_id" ∧ enabled s' = enabled s)
    (ht' : ∀ m s, IsTunnel c.vpnclient m s → ∃ s', IsTunnel c'.vpnclient m s' ∧
      s'.options "tunnel_id" = s.options "tunnel_id" ∧ enabled s' = enabled s) :
    Inv c' := by
  constructor
  case named =>
    refine h.named.of_tracks fun m s' hs' => ?_
    obtain ⟨s, hs, hid, -⟩ := ht m s' hs'
    exact ⟨s, hs, hid⟩
  case single =>
    intro m s₁ m' s₂ h₁ h₂ hen₁ hen₂
    obtain ⟨s₁', h₁, -, heq₁⟩ := ht m s₁ h₁
    obtain ⟨s₂', h₂, -, heq₂⟩ := ht m' s₂ h₂
    exact h.single m s₁' m' s₂' h₁ h₂ (heq₁ ▸ hen₁) (heq₂ ▸ hen₂)
  case up =>
    intro m s' hs' hen
    obtain ⟨s, hs, hid, heq⟩ := ht m s' hs'
    rw [(iface_congr hid).2]
    have hup := h.up m s hs (heq ▸ hen)
    exact ⟨hnetwork ▸ hup.interface, hnetwork ▸ hup.peer, hfirewall ▸ hup.zone⟩
  case down =>
    intro i hi hoff
    have hdown : Down c i := by
      refine h.down i hi fun m s hs heq => ?_
      obtain ⟨s', hs', hid, hflag⟩ := ht' m s hs
      exact hflag.symm.trans (hoff m s' hs' ((iface_congr hid).2.trans heq))
    exact ⟨hnetwork ▸ hdown.network, hfirewall ▸ hdown.firewall⟩

/-! ## Edits of a tunnel -/

theorem isTunnel_iff : IsTunnel p n s ↔ p.find n = some s ∧ s.type = "tunnel" :=
  Package.mem_ofType_iff

theorem isTunnel_setAll (hs : IsTunnel p n s) (options : List (String × Value)) :
    IsTunnel (p.setAll n options) n (s.setAll options) := by
  obtain ⟨hfind, htype⟩ := isTunnel_iff.1 hs
  refine isTunnel_iff.2 ⟨?_, Section.type_setAll.trans htype⟩
  rw [Package.find_setAll_self, hfind, Option.map_some]

theorem changed_setAll (hs : IsTunnel p n s)
    (hid : ∀ e ∈ options, "tunnel_id".toList ≠ e.1.toList) :
    Changed p (p.setAll n options) n s := by
  refine ⟨hs, fun m s' hm => ?_, fun s' hs' => ?_⟩
  · rw [isTunnel_iff, isTunnel_iff, Package.find_setAll_of_ne hm]
  · rw [Named.eq_of_isTunnel hs' (isTunnel_setAll hs options)]
    exact Section.options_setAll_of_not_mem hid

theorem Inv.setAll (h : Inv c) (hs : IsTunnel c.vpnclient n s)
    (hid : ∀ e ∈ options, "tunnel_id".toList ≠ e.1.toList)
    (hen : ∀ e ∈ options, "enabled".toList ≠ e.1.toList) :
    Inv { c with vpnclient := c.vpnclient.setAll n options } := by
  have hp := changed_setAll hs hid
  have hflag : enabled (s.setAll options) = enabled s := by
    unfold enabled
    rw [Section.options_setAll_of_not_mem hen]
  refine h.same rfl rfl (fun m s' hs' => ?_) fun m s' hs' => ?_
  · by_cases hm : m = n
    · subst hm
      refine ⟨s, hs, hp.id s' hs', ?_⟩
      rw [Named.eq_of_isTunnel hs' (isTunnel_setAll hs options)]
      exact hflag
    · exact ⟨s', (hp.others m s' hm).1 hs', rfl, rfl⟩
  · by_cases hm : m = n
    · subst hm
      obtain rfl := Named.eq_of_isTunnel hs hs'
      have hs' := isTunnel_setAll hs options
      exact ⟨_, hs', hp.id _ hs', hflag⟩
    · exact ⟨s', (hp.others m s' hm).2 hs', rfl, rfl⟩

/-! ## Lookups -/

theorem mem_tunnelSections {e : Text × Section} :
    e ∈ tunnelSections env p ↔ IsTunnel p e.1 e.2 := (env.sort_perm _).mem_iff

theorem isTunnel_of_tunnelById {id : Option Json} (h : tunnelById env p id = some (n, s)) :
    IsTunnel p n s ∧ env.textOf (s.options "tunnel_id") =
      env.asString (Json.orElse id (.str [])) := by
  have hid := List.find?_some h
  exact ⟨mem_tunnelSections.1 (List.mem_of_find?_eq_some h), of_decide_eq_true hid⟩

theorem Named.tunnelById_eq {id : Option Json} (h : Named p) (hs : IsTunnel p n s)
    (hid : env.asString (Json.orElse id (.str [])) = tunnelId s) :
    tunnelById env p id = some (n, s) := by
  have htext : ∀ m s', IsTunnel p m s' →
      env.textOf (s'.options "tunnel_id") = tunnelId s' := by
    intro m s' hs'
    rw [h.id m s' hs']
    rfl
  cases hfind : tunnelById env p id with
  | none =>
    have hnone := List.find?_eq_none.1 hfind (n, s) (mem_tunnelSections.2 hs)
    exact absurd (decide_eq_true ((htext n s hs).trans hid.symm)) hnone
  | some e =>
    obtain ⟨m, s'⟩ := e
    obtain ⟨hs', heq⟩ := isTunnel_of_tunnelById hfind
    rw [htext m s' hs', hid] at heq
    have hm : m = n := by rw [h.name m s' hs', h.name n s hs, heq]
    subst hm
    rw [Named.eq_of_isTunnel hs' hs]

end

/-! ## The methods -/

/-- No tunnel other than `n` is marked as enabled. -/
def OthersOff (p : Package) (n : Text) : Prop :=
  ∀ m s, m ≠ n → IsTunnel p m s → enabled s = false

def Suitable (env : Env) (wgclient : Package) (r : Reference) : Prop :=
  ∃ peer, wgPeer env wgclient r.groupId r.refId = some peer ∧ Complete env peer

/-- The tunnel is to be enabled: the arguments say so, or they say nothing and it is. -/
def wanted (args : Json) (s : Section) : Bool :=
  (arg args "enabled").elim (enabled s) fun v => Json.truthy (some v)

/-- A new id is new also in its first 8 characters. A tunnel is to be enabled only if no other one is,
if it has the type `wireguard` and if the peer that it refers to, or that the arguments give, is
complete. -/
def Sound (c : Configs) : Event → Prop
  | .call (.addTunnel id) args env =>
    id.length = 16 ∧ c.vpnclient.find (sectionName id) = none ∧
      (∀ n s, IsTunnel c.vpnclient n s → (tunnelId s).take 8 ≠ id.take 8) ∧
      (Json.truthy (arg args "enabled") = true → OthersOff c.vpnclient (sectionName id) ∧
        ∀ r, reference (arg args "via") = .ok (some r) → Suitable env c.wgclient r)
  | .call .setTunnel args env =>
    ∀ n s, tunnelById env c.vpnclient (arg args "tunnel_id") = some (n, s) →
      wanted args s = true → OthersOff c.vpnclient n ∧
        s.options "tunnel_type" = some (.text "wireguard") ∧
        if Json.truthy (arg args "via") then
          ∀ r, reference (arg args "via") = .ok (some r) → Suitable env c.wgclient r
        else Ready env c.wgclient s
  | .call .setOptions args env =>
    ∀ n s, tunnelById env c.vpnclient (arg args "tunnel_id") = some (n, s) → enabled s = true →
      Ready env c.wgclient s
  | _ => True

section
variable {env : Env} {c : Configs} {args : Json} {n : Text} {s : Section}

theorem stop_inv (h : Inv c) : Inv (stop env c args).2 := by
  unfold stop
  cases hfind : tunnelById env c.vpnclient (arg args "tunnel_id") with
  | none => exact h
  | some e =>
    obtain ⟨n, s⟩ := e
    have hs := (isTunnel_of_tunnelById hfind).1
    have hp : Changed c.vpnclient (c.vpnclient.setAll n [("enabled", .text ['0'])]) n s :=
      changed_setAll hs (by simp)
    have hnew : IsTunnel (c.vpnclient.setAll n [("enabled", .text ['0'])]) n
        (s.setAll [("enabled", .text ['0'])]) := isTunnel_setAll hs _
    refine h.stopped hp fun s' hs' => ?_
    rw [Named.eq_of_isTunnel hs' hnew]
    exact (congrArg isOn Section.options_set_self).trans rfl

theorem removeTunnel_inv (h : Inv c) : Inv (removeTunnel env c args).2 := by
  unfold removeTunnel
  cases hfind : tunnelById env c.vpnclient (arg args "tunnel_id") with
  | none => exact h
  | some e =>
    obtain ⟨n, s⟩ := e
    have hgone : ∀ s', ¬IsTunnel (c.vpnclient.delete n) n s' := by
      intro s' hs'
      have hfind' := (isTunnel_iff.1 hs').1
      rw [Package.find_delete_self] at hfind'
      cases hfind'
    have hp : Changed c.vpnclient (c.vpnclient.delete n) n s := by
      refine ⟨(isTunnel_of_tunnelById hfind).1, fun m s' hm => ?_, fun s' hs' => ?_⟩
      · rw [isTunnel_iff, isTunnel_iff, Package.find_delete_of_ne hm]
      · exact absurd hs' (hgone s')
    exact h.stopped hp fun s' hs' => absurd hs' (hgone s')

theorem orderTunnel_inv (h : Inv c) : Inv (orderTunnel env c args).2 := by
  unfold orderTunnel
  dsimp only
  split_ifs
  · generalize (Json.orElse (arg args "id_list") (.obj [])).items.zipIdx = ids
    induction ids generalizing c with
    | nil => exact h
    | cons i ids ih =>
      rw [List.foldl_cons]
      cases hfind : tunnelById env c.vpnclient (some i.1) with
      | none => exact ih h
      | some e =>
        obtain ⟨n, s⟩ := e
        have hset : Inv { c with
            vpnclient := c.vpnclient.setAll n [("order", .text (env.showNumber (i.2 + 1)))] } :=
          h.setAll (isTunnel_of_tunnelById hfind).1 (by simp) (by simp)
        exact ih hset
  · exact h

theorem setDefaultTunnel_inv (h : Inv c) : Inv (setDefaultTunnel c args).2 := by
  have hiff : ∀ m s, IsTunnel (setDefaultTunnel c args).2.vpnclient m s ↔
      IsTunnel c.vpnclient m s := by
    intro m s
    by_cases hm : m = "settings"
    · subst hm
      constructor
      · intro hs
        have htype := Package.typeOf_eq_some_iff.2 ⟨s, hs⟩
        rw [setDefaultTunnel, Package.newSection, Package.typeOf_setAll,
          Package.typeOf_setType_self] at htype
        exact absurd htype (by decide)
      · intro hs
        have hname := h.named.name _ s hs
        unfold sectionName at hname
        simp at hname
    · rw [isTunnel_iff, isTunnel_iff, setDefaultTunnel, Package.newSection,
        Package.find_setAll_of_ne hm, Package.find_setType_of_ne hm]
  exact h.same rfl rfl (fun m s hs => ⟨s, (hiff m s).1 hs, rfl, rfl⟩)
    fun m s hs => ⟨s, (hiff m s).2 hs, rfl, rfl⟩

theorem Inv.applied (h : Inv c) (hnamed : Named p') (hs : IsTunnel p' n s)
    (hother : ∀ m s', m ≠ n → (IsTunnel p' m s' ↔ IsTunnel c.vpnclient m s'))
    (hself : ∀ s', IsTunnel c.vpnclient n s' → iface s' = iface s) (hen : enabled s = true)
    (hready : Ready env c.wgclient s) (hoff : OthersOff c.vpnclient n) :
    Inv (applyRuntime env { c with vpnclient := p' } s).2 := by
  obtain ⟨hvpnclient, hup, hdown⟩ := applyRuntime_spec (c := { c with vpnclient := p' }) hready
    (hnamed.isIface hs) (hnamed.id n s hs)
  refine h.started (hvpnclient.symm ▸ hnamed) (hvpnclient.symm ▸ hs) hen ?_ hself hoff hup ?_
  · rw [hvpnclient]
    exact hother
  · exact fun j hj hne hdown' => hdown j hj hne ⟨hdown'.network, hdown'.firewall⟩

theorem name_of_mem_tunnelOptions {e : String × Value}
    (h : e ∈ tunnelOptions args ref) : e.1 = "group_id" ∨ e.1 = "ref_id" ∨ e.1 = "enabled" := by
  unfold tunnelOptions at h
  obtain h | h := List.mem_append.1 h
  · cases ref with
    | none => cases h
    | some r =>
      simp only [Option.elim, List.mem_cons, List.not_mem_nil, or_false] at h
      obtain rfl | rfl := h
      · exact .inl rfl
      · exact .inr (.inl rfl)
  · unfold optional at h
    obtain ⟨v, -, rfl⟩ := Option.map_eq_some_iff.1 (Option.mem_toList.1 h)
    exact .inr (.inr rfl)

theorem options_tunnelOptions (hg : o ≠ "group_id".toList) (hr : o ≠ "ref_id".toList) (he : o ≠ "enabled".toList) :
    (s.setAll (tunnelOptions args ref)).options o = s.options o := by
  refine Section.options_setAll_of_not_mem fun e hmem => ?_
  obtain h | h | h := name_of_mem_tunnelOptions hmem
  · rwa [h]
  · rwa [h]
  · rwa [h]

theorem enabled_tunnelOptions (ref : Option Reference) :
    enabled (s.setAll (tunnelOptions args ref)) = wanted args s := by
  unfold tunnelOptions wanted enabled
  rw [Section.setAll_append]
  cases arg args "enabled" with
  | none =>
    have hsame : ∀ o, o ≠ "group_id".toList → o ≠ "ref_id".toList →
        (s.setAll (ref.elim [] fun r =>
          [("group_id", .text r.groupId), ("ref_id", .text r.refId)])).options o = s.options o := by
      intro o hg hr
      cases ref with
      | none => rfl
      | some r => exact (Section.options_set_of_ne hr).trans (Section.options_set_of_ne hg)
    exact congrArg isOn (hsame _ (by decide) (by decide))
  | some v => exact (congrArg isOn Section.options_set_self).trans (isOn_flag _)

theorem peerOf_tunnelOptions (ref : Option Reference) (wgclient : Package) :
    peerOf env wgclient (s.setAll (tunnelOptions args ref)) =
      ref.elim (peerOf env wgclient s) fun r => wgPeer env wgclient r.groupId r.refId := by
  have henabled : ∀ (s : Section) o, o ≠ "enabled".toList → (s.setAll (optional "enabled"
      ((arg args "enabled").map fun v => flag (some v)))).options o = s.options o := by
    intro s o ho
    cases arg args "enabled" with
    | none => rfl
    | some v => exact Section.options_set_of_ne ho
  unfold tunnelOptions peerOf
  rw [Section.setAll_append, henabled _ _ (by decide), henabled _ _ (by decide)]
  cases ref with
  | none => rfl
  | some r =>
    have hne : "group_id".toList ≠ "ref_id".toList := by decide
    have hgroup : (s.setAll [("group_id", .text r.groupId), ("ref_id", .text r.refId)]).options
        "group_id".toList = (Value.text r.groupId).stored :=
      (Section.options_set_of_ne hne).trans Section.options_set_self
    have hpeer : (s.setAll [("group_id", .text r.groupId), ("ref_id", .text r.refId)]).options
        "ref_id".toList = (Value.text r.refId).stored := Section.options_set_self
    dsimp only [Option.elim]
    rw [hgroup, hpeer, Lua.textOf_stored, Lua.textOf_stored]

theorem newReference_spec (h : newReference env c args = .ok ref) :
    (Json.truthy (arg args "via") = false ∧ ref = none) ∨
      ∃ r, Json.truthy (arg args "via") = true ∧ reference (arg args "via") = .ok (some r) ∧
        ref = some r := by
  unfold newReference at h
  split_ifs at h with hvia
  · simp only [bind_eq_ok] at h
    obtain ⟨_, -, found, hfound, r, hr, heq⟩ := h
    cases heq
    refine .inr ⟨r, hvia, ?_, rfl⟩
    cases found with
    | none => cases hr
    | some r' =>
      rw [Option.filter_some] at hr
      split_ifs at hr
      · cases hr
        exact hfound
      · cases hr
  · cases h
    exact .inl ⟨Bool.eq_false_of_not_eq_true hvia, rfl⟩

theorem Inv.edited {id : Option Json} {options : List (String × Value)} {other : Section → Configs}
    (h : Inv c) (hfind : tunnelById env c.vpnclient id = some (n, s))
    (hid : ∀ e ∈ options, "tunnel_id" ≠ e.1.toList)
    (hon : enabled (s.setAll options) = true →
      Ready env c.wgclient (s.setAll options) ∧ OthersOff c.vpnclient n)
    (hoff : enabled (s.setAll options) = false → Inv (other (s.setAll options))) :
    Inv (applyIf env { c with vpnclient := c.vpnclient.setAll n options } id other).2 := by
  obtain ⟨hs, htext⟩ := isTunnel_of_tunnelById hfind
  have hp := changed_setAll hs hid
  have hnew := isTunnel_setAll hs options
  have hnamed := hp.named h.named
  have hsame := hp.id _ hnew
  -- The tunnel that is read anew is the one that was edited.
  have hlookup : tunnelById env (c.vpnclient.setAll n options) id = some (n, s.setAll options) := by
    refine hnamed.tunnelById_eq hnew (htext.symm.trans ?_)
    rw [h.named.id n s hs, (iface_congr hsame).1]
    rfl
  unfold applyIf
  rw [hlookup]
  dsimp only
  split_ifs with hen
  · obtain ⟨hready, hothers⟩ := hon hen
    refine h.applied hnamed hnew hp.others (fun s₀ hs₀ => ?_) hen hready hothers
    rw [Named.eq_of_isTunnel hs₀ hs]
    exact (iface_congr hsame).2.symm
  · exact hoff (Bool.eq_false_of_not_eq_true hen)

theorem setTunnel_inv (h : Inv c) (hguard : Sound c (.call .setTunnel args env)) :
    Inv (setTunnel env c args).2 := by
  unfold setTunnel
  cases hfind : tunnelById env c.vpnclient (arg args "tunnel_id") with
  | none => exact h
  | some e =>
    obtain ⟨n, s⟩ := e
    dsimp only
    cases href : newReference env c args with
    | error e => exact h
    | ok ref =>
      have hs := (isTunnel_of_tunnelById hfind).1
      have hid : ∀ e ∈ tunnelOptions args ref, "tunnel_id" ≠ e.1.toList := by
        intro e he
        obtain h | h | h := name_of_mem_tunnelOptions he <;> rw [h] <;> decide
      refine h.edited hfind hid (fun hen => ?_) fun hen => ?_
      · obtain ⟨hoff, htype, hvia⟩ := hguard n s hfind ((enabled_tunnelOptions ref).symm.trans hen)
        refine ⟨⟨?_, ?_⟩, hoff⟩
        · rw [options_tunnelOptions (by decide) (by decide) (by decide)]
          exact htype
        · rw [peerOf_tunnelOptions]
          obtain ⟨hnone, rfl⟩ | ⟨r, hsome, hr, rfl⟩ := newReference_spec href
          · rw [hnone] at hvia
            exact hvia.peer
          · rw [hsome] at hvia
            exact hvia r hr
      · have hp := changed_setAll hs hid
        have hnew := isTunnel_setAll hs (tunnelOptions args ref)
        rw [hp.id _ hnew]
        refine h.stopped hp fun s₀ hs₀ => ?_
        rw [Named.eq_of_isTunnel hs₀ hnew]
        exact hen

theorem setOptions_inv (h : Inv c) (hguard : Sound c (.call .setOptions args env)) :
    Inv (setOptions env c args).2 := by
  unfold setOptions
  cases hfind : tunnelById env c.vpnclient (arg args "tunnel_id") with
  | none => exact h
  | some e =>
    obtain ⟨n, s⟩ := e
    dsimp only
    cases hmtu : checkedMtu env args with
    | error e => exact h
    | ok mtu =>
      have hs := (isTunnel_of_tunnelById hfind).1
      have hname : ∀ e ∈ optionValues env args mtu,
          e.1 ∈ ["mtu", "local_access", "masq", "service_policy", "killswitch"] := by
        intro e he
        have := List.mem_map_of_mem (f := Prod.fst) he
        exact this
      have hnot : ∀ o : String, o ∉ ["mtu", "local_access", "masq", "service_policy", "killswitch"] →
          ∀ e ∈ optionValues env args mtu, o.toList ≠ e.1.toList := by
        intro o ho e he heq
        exact ho (String.toList_injective heq ▸ hname e he)
      have hsame : ∀ o : String, o ∉ ["mtu", "local_access", "masq", "service_policy", "killswitch"] →
          (s.setAll (optionValues env args mtu)).options o.toList = s.options o.toList :=
        fun o ho => Section.options_setAll_of_not_mem (hnot o ho)
      have hflag : enabled (s.setAll (optionValues env args mtu)) = enabled s :=
        congrArg isOn (hsame "enabled" (by decide))
      refine h.edited hfind (hnot "tunnel_id" (by decide)) (fun hen => ?_) fun _ => ?_
      · obtain ⟨htype, hpeer⟩ := hguard n s hfind (hflag.symm.trans hen)
        refine ⟨⟨(hsame "tunnel_type" (by decide)).trans htype, ?_⟩, fun m s' hm hs' => ?_⟩
        · unfold peerOf
          rw [hsame "group_id" (by decide), hsame "ref_id" (by decide)]
          exact hpeer
        · by_contra hon
          exact hm (h.single m s' n s hs' hs (Bool.eq_true_of_not_eq_false hon)
            (hflag.symm.trans hen))
      · exact h.setAll hs (hnot "tunnel_id" (by decide)) (hnot "enabled" (by decide))

theorem isTunnel_newSection {p : Package}
     (hnew : p.find n = none) :
    IsTunnel (p.newSection n "tunnel" options) m s' ↔
      (m = n ∧ s' = .make "tunnel" options) ∨ IsTunnel p m s' := by
  have hnames : n ∉ p.names := by
    intro hmem
    obtain ⟨s, hs⟩ := Package.mem_names_iff.1 hmem
    rw [hnew] at hs
    cases hs
  unfold IsTunnel Package.ofType
  rw [Package.sections_newSection hnames, List.filter_append, List.mem_append,
    List.filter_cons_of_pos (by simp), List.filter_nil, List.mem_singleton, Prod.mk.injEq, or_comm]

/-- The tunnel that `add_tunnel` writes. -/
structure Added (env : Env) (args : Json) (id : Text) (ref : Reference) (s : Section) : Prop where
  id : s.options "tunnel_id" = some (.text id)
  enabled : enabled s = Json.truthy (arg args "enabled")
  type : s.options "tunnel_type" = some (.text "wireguard")
  peer : ∀ wgclient, peerOf env wgclient s = wgPeer env wgclient ref.groupId ref.refId

theorem addedOptions_spec {id : Text} (ref : Reference) (hid : id ≠ []) :
    Added env args id ref (.make "tunnel" (addedOptions env c args ref id)) := by
  have hnodup : ((addedOptions env c args ref id).map Prod.fst).Nodup := by
    have hnames : (addedOptions env c args ref id).map Prod.fst = ["tunnel_id", "name", "tunnel_type",
      "group_id", "ref_id", "enabled", "masq", "order"] := rfl
    rw [hnames]
    decide
  have hget : ∀ (o : String) (v : Value), (o, v) ∈ addedOptions env c args ref id →
      (Section.make "tunnel" (addedOptions env c args ref id)).options o.toList = v.stored :=
    fun o v => Section.options_setAll_of_mem hnodup
  constructor
  case id =>
    rw [hget "tunnel_id" (.text id) (by simp [addedOptions])]
    cases id with
    | nil => exact absurd rfl hid
    | cons ch id => rfl
  case enabled =>
    unfold Client.enabled
    rw [hget "enabled" (flag (arg args "enabled")) (by simp [addedOptions])]
    exact isOn_flag _
  case type =>
    rw [hget "tunnel_type" (.text "wireguard") (by simp [addedOptions])]
    rfl
  case peer =>
    intro wgclient
    unfold peerOf
    rw [hget "group_id" (.text ref.groupId) (by simp [addedOptions]),
      hget "ref_id" (.text ref.refId) (by simp [addedOptions]), Lua.textOf_stored, Lua.textOf_stored]

theorem reference_of_addedReference (h : addedReference env c args = .ok ref) :
    reference (arg args "via") = .ok (some ref) := by
  simp only [addedReference, bind_eq_ok] at h
  obtain ⟨_, -, found, hfound, r, hr, _, -, heq⟩ := h
  cases heq
  cases found with
  | none => cases hr
  | some r' =>
    cases hr
    exact hfound

theorem Named.insert (h : Named p)
    (hp : ∀ m s', IsTunnel p' m s' ↔ (m = n ∧ s' = s) ∨ IsTunnel p m s')
    (hname : n = sectionName (tunnelId s))
    (hid : s.options "tunnel_id" = some (.text (tunnelId s)))
    (hlength : 8 ≤ (tunnelId s).length) (hnew : ∀ m s', IsTunnel p m s' → iface s' ≠ iface s) :
    Named p' := by
  constructor
  case name =>
    intro m s' hs'
    obtain ⟨rfl, rfl⟩ | hs' := (hp m s').1 hs'
    · exact hname
    · exact h.name m s' hs'
  case id =>
    intro m s' hs'
    obtain ⟨rfl, rfl⟩ | hs' := (hp m s').1 hs'
    · exact hid
    · exact h.id m s' hs'
  case length =>
    intro m s' hs'
    obtain ⟨rfl, rfl⟩ | hs' := (hp m s').1 hs'
    · exact hlength
    · exact h.length m s' hs'
  case distinct =>
    intro m s₁ m' s₂ h₁ h₂ heq
    obtain ⟨rfl, rfl⟩ | h₁ := (hp m s₁).1 h₁
    · obtain ⟨rfl, rfl⟩ | h₂ := (hp m' s₂).1 h₂
      · rfl
      · exact absurd heq.symm (hnew m' s₂ h₂)
    · obtain ⟨rfl, rfl⟩ | h₂ := (hp m' s₂).1 h₂
      · exact absurd heq (hnew m s₁ h₁)
      · exact h.distinct m s₁ m' s₂ h₁ h₂ heq

theorem Inv.added (h : Inv c) (hnamed : Named p')
    (hp : ∀ m s', IsTunnel p' m s' ↔ (m = n ∧ s' = s) ∨ IsTunnel c.vpnclient m s')
    (hoff : enabled s = false) : Inv { c with vpnclient := p' } := by
  have hold : ∀ m s', IsTunnel p' m s' → enabled s' = true → IsTunnel c.vpnclient m s' := by
    intro m s' hs' hen
    refine ((hp m s').1 hs').resolve_left ?_
    rintro ⟨-, rfl⟩
    rw [hoff] at hen
    cases hen
  constructor
  case named => exact hnamed
  case single =>
    intro m s₁ m' s₂ h₁ h₂ hen₁ hen₂
    exact h.single m s₁ m' s₂ (hold m s₁ h₁ hen₁) (hold m' s₂ h₂ hen₂) hen₁ hen₂
  case up =>
    intro m s' hs' hen
    have hup := h.up m s' (hold m s' hs' hen) hen
    exact ⟨hup.interface, hup.peer, hup.zone⟩
  case down =>
    intro i hi hall
    have hdown := h.down i hi fun m s' hs' => hall m s' ((hp m s').2 (.inr hs'))
    exact ⟨hdown.network, hdown.firewall⟩

theorem addTunnel_inv {id : Text} (h : Inv c) (hguard : Sound c (.call (.addTunnel id) args env)) :
    Inv (addTunnel env c args id).2 := by
  obtain ⟨hlength, hfind, hshort, hon⟩ := hguard
  unfold addTunnel
  cases href : addedReference env c args with
  | error e => exact h
  | ok ref =>
    dsimp only
    have hne : id ≠ [] := by
      rintro rfl
      cases hlength
    have hadded : Added env args id ref (.make "tunnel" (addedOptions env c args ref id)) :=
      addedOptions_spec ref hne
    have hp : ∀ m s', IsTunnel (c.vpnclient.newSection (sectionName id) "tunnel"
        (addedOptions env c args ref id)) m s' ↔ (m = sectionName id ∧
          s' = .make "tunnel" (addedOptions env c args ref id)) ∨ IsTunnel c.vpnclient m s' :=
      fun m s' => isTunnel_newSection hfind
    generalize Section.make "tunnel" (addedOptions env c args ref id) = s at hadded hp
    generalize c.vpnclient.newSection (sectionName id) "tunnel"
      (addedOptions env c args ref id) = p' at hp ⊢
    have hid : tunnelId s = id := by
      unfold tunnelId
      rw [hadded.id]
      rfl
    have hnamed : Named p' := by
      refine h.named.insert hp (hid.symm ▸ rfl) (hid.symm ▸ hadded.id) (by rw [hid]; omega) ?_
      intro m s' hs' heq
      unfold iface at heq
      rw [hid] at heq
      exact hshort m s' hs' (List.append_cancel_left heq)
    split_ifs with hen
    · obtain ⟨hoff, hsuit⟩ := hon hen
      have hs : IsTunnel p' (sectionName id) s := (hp _ _).2 (.inl ⟨rfl, rfl⟩)
      have hlookup : tunnelById env p' (some (.str id)) = some (sectionName id, s) :=
        hnamed.tunnelById_eq hs hid.symm
      have hnot : ∀ s', ¬IsTunnel c.vpnclient (sectionName id) s' := by
        intro s' hs'
        have hfind' := (isTunnel_iff.1 hs').1
        rw [hfind] at hfind'
        cases hfind'
      rw [hlookup]
      refine h.applied hnamed hs (fun m s' hm => ?_) (fun s' hs' => absurd hs' (hnot s'))
        (hadded.enabled.trans hen) ⟨hadded.type, ?_⟩ hoff
      · exact (hp m s').trans (or_iff_right fun h => hm h.1)
      · rw [hadded.peer]
        exact hsuit ref (reference_of_addedReference href)
    · exact h.added hnamed hp (hadded.enabled.trans (Bool.eq_false_of_not_eq_true hen))

theorem step_inv {e : Event} (h : Inv c) (hguard : Sound c e) : Inv (machine.step c e) := by
  cases e with
  | configure wgclient =>
    exact h.same rfl rfl (fun m s hs => ⟨s, hs, rfl, rfl⟩) fun m s hs => ⟨s, hs, rfl, rfl⟩
  | call method args env =>
    cases method with
    | addTunnel id => exact addTunnel_inv h hguard
    | setTunnel => exact setTunnel_inv h hguard
    | stop => exact stop_inv h
    | removeTunnel => exact removeTunnel_inv h
    | setOptions => exact setOptions_inv h hguard
    | orderTunnel => exact orderTunnel_inv h
    | setDefaultTunnel => exact setDefaultTunnel_inv h

end

/-- If a tunnel is enabled only while no other one is, and only with a complete peer, then at most one
is marked as enabled, and those that are marked are those that have their sections. -/
theorem one_tunnel_at_a_time {c : Configs} {es : List Event} (hc : Inv c)
    (hes : machine.Admits Sound c es) : Truthful (machine.run c es) :=
  (Machine.invariant (I := Inv) (fun _ _ hguard h => step_inv h hguard) hes hc).truthful

def onePeer (endPoint : String) : Configs where
  vpnclient := .empty
  wgclient := Package.empty.newSection "peer1" "peer"
    [("group_id", .text "g"), ("peer_id", .text "p"),
      ("end_point", .text endPoint.toList), ("address_v4", .text "10.0.0.2/32"),
      ("allowed_ips_json", .text "[\"0.0.0.0/0\"]")]
  network := .empty
  firewall := .empty

def addEnabled (id : String) : Event :=
  .call (.addTunnel id.toList)
    (.obj [("enabled", .bool true), ("via", .obj [("type", .str "wireguard"),
      ("configs", .arr [.obj [("group_id", .str "g"),
        ("id_list", .arr [.str "p"])]])])])
    { tonumber := fun _ => none
      tostring := fun _ => ['0']
      decode := fun _ => some (.arr [.str "0.0.0.0/0"])
      sort := fun l => l
      sort_perm := fun _ => .rfl }

theorem onePeer_inv (endPoint : String) : Inv (onePeer endPoint) where
  named := ⟨nofun, nofun, nofun, nofun⟩
  single := nofun
  up := nofun
  down := fun _ _ _ => ⟨nofun, nofun⟩

/-- The first tunnel is brought up. -/
theorem one_tunnel_at_a_time_first :
    let es := [addEnabled "0123456789abcdef"]
    (machine.run (onePeer "192.0.2.1:51820") es).vpnclient.get "t_0123456789abcdef"
        "enabled" = some (.text ['1']) ∧
      Truthful (machine.run (onePeer "192.0.2.1:51820") es) := by
  refine ⟨by decide, one_tunnel_at_a_time (onePeer_inv _) ⟨⟨rfl, rfl, nofun, fun _ => ⟨nofun, ?_⟩⟩,
    trivial⟩⟩
  rintro r ⟨⟩
  exact ⟨_, rfl, ⟨_, _, rfl, by decide, by decide⟩, ⟨_, rfl⟩, ⟨_, rfl⟩⟩

theorem exists_isTunnel {p : Package} (h : p.typeOf n = some "tunnel".toList) :
    ∃ s, IsTunnel p n s ∧ ∀ o, s.options o = p.get n o := by
  obtain ⟨s, hs⟩ := Package.typeOf_eq_some_iff.1 h
  refine ⟨s, hs, fun o => ?_⟩
  rw [Package.get, (isTunnel_iff.1 hs).1, Option.bind_some]

/-- A second tunnel that is enabled leaves the first one marked as enabled, and a tunnel whose peer
has no proper endpoint is marked as enabled without being brought up. -/
theorem two_tunnels_enabled :
    Inv (onePeer "192.0.2.1:51820") ∧ ¬Truthful (machine.run (onePeer "192.0.2.1:51820")
        [addEnabled "0123456789abcdef", addEnabled "fedcba9876543210"]) ∧
      Inv (onePeer "192.0.2.1") ∧
      ¬Truthful (machine.run (onePeer "192.0.2.1") [addEnabled "0123456789abcdef"]) := by
  refine ⟨onePeer_inv _, fun h => ?_, onePeer_inv _, fun h => ?_⟩
  · obtain ⟨s, hs, hget⟩ := exists_isTunnel (n := "t_0123456789abcdef")
      (p := (machine.run (onePeer "192.0.2.1:51820")
        [addEnabled "0123456789abcdef", addEnabled "fedcba9876543210"]).vpnclient) (by decide)
    obtain ⟨s', hs', hget'⟩ := exists_isTunnel (n := "t_fedcba9876543210")
      (p := (machine.run (onePeer "192.0.2.1:51820")
        [addEnabled "0123456789abcdef", addEnabled "fedcba9876543210"]).vpnclient) (by decide)
    have hon : enabled s = true := by
      unfold enabled
      rw [hget]
      decide
    have hon' : enabled s' = true := by
      unfold enabled
      rw [hget']
      decide
    exact absurd (h.single _ s _ s' hs hs' hon hon') (by decide)
  · obtain ⟨s, hs, hget⟩ := exists_isTunnel (n := "t_0123456789abcdef")
      (p := (machine.run (onePeer "192.0.2.1") [addEnabled "0123456789abcdef"]).vpnclient)
      (by decide)
    have hon : enabled s = true := by
      unfold enabled
      rw [hget]
      decide
    obtain ⟨e, ⟨⟩, -⟩ := (h.up _ s hs hon).zone

end GlXe3000.Oui.Vpn.Client
