import GlXe3000.Oui.Vpn.WgServer

/-! # What is generated for the WireGuard server

Every method that changes the configuration of an enabled server generates its sections anew, except
`generate_key`, which leaves a running interface with the old key. Apart from that, an enabled server
has the sections that its configuration prescribes, and one that is not enabled has none. -/

namespace GlXe3000.Oui.Vpn.WgServer
open Text

/-! ## Agreement -/

def ownsNetwork (e : Text × Section) : Bool :=
  e.1 = iface || e.2.type = peerType || (strip routeStart e.1).isSome

def ownsFirewall (e : Text × Section) : Bool := e.1 ∈ firewallNames

/-- A section of `network`; the name of a peer, which is made up by the library, is left out. -/
def shape (e : Text × Section) : Option Text × Section :=
  (if e.2.type = peerType then none else some e.1, e.2)

/-- The sections of `network` that the configuration prescribes. -/
def networkSections (env : Env) (p : Package) : Except Result (List (Option Text × Section)) := do
  let interface ← interfaceDraft env p
  let peers ← allPeerOptions env (peerSections env p)
  return shape interface.entry :: peers.map (fun o => (none, .make peerType o)) ++
    (p.ofType "route").map fun e => shape (routeDraft env e).entry

/-- What was generated for the server is there while it is enabled, and as it is stored. -/
structure Agrees (env : Env) (c : Configs) : Prop where
  network : isEnabled c.wgserver = true →
    networkSections env c.wgserver = .ok ((c.network.owned ownsNetwork).map shape)
  firewall : isEnabled c.wgserver = true →
    c.firewall.owned ownsFirewall = (firewallDrafts env c.wgserver).map Package.Draft.entry
  noNetwork : isEnabled c.wgserver = false → c.network.owned ownsNetwork = []
  noFirewall : isEnabled c.wgserver = false → c.firewall.owned ownsFirewall = []

def Tidy (p : Package) : Prop :=
  ∀ e ∈ p.sections, (strip routeStart e.1).isSome = true →
    e.2.type = "route" ∨ e.2.type = "route6"

/-! ## Generating the sections -/

section
variable {env : Env} {p : Package}

theorem sections_clearNetwork (h : Tidy p) :
    (clearNetwork p).sections = p.sections.filter fun e => !ownsNetwork e := by
  generalize hq : (p.delete iface).deleteType peerType = q
  have hsections : q.sections =
      p.sections.filter fun e => decide (e.1 ≠ iface) && decide (e.2.type ≠ peerType) := by
    rw [← hq, Package.sections_deleteType, Package.delete, List.filter_filter]
    refine List.filter_congr fun e _ => ?_
    exact Bool.and_comm ..
  unfold clearNetwork
  dsimp only
  rw [hq, Package.sections_deleteAll]
  have hroute : ∀ e ∈ q.sections, e.1 ∈ ((q.ofType "route".toList ++
      q.ofType "route6").map Prod.fst).filter (fun n => (strip routeStart n).isSome) ↔
      (strip routeStart e.1).isSome = true := by
    intro e he
    rw [List.mem_filter, List.map_append, List.mem_append, Package.mem_map_ofType_iff he,
      Package.mem_map_ofType_iff he]
    rw [hsections] at he
    exact ⟨And.right, fun hstart => ⟨h e (List.mem_filter.1 he).1 hstart, hstart⟩⟩
  have hrest : (q.sections.filter fun e => e.1 ∉ ((q.ofType "route".toList ++
      q.ofType "route6").map Prod.fst).filter (fun n => (strip routeStart n).isSome)) =
      q.sections.filter fun e => !(strip routeStart e.1).isSome := by
    refine List.filter_congr fun e he => ?_
    rw [decide_not, Bool.not_inj_iff, Bool.eq_iff_iff, decide_eq_true_iff]
    exact hroute e he
  rw [hrest, hsections, List.filter_filter]
  refine List.filter_congr fun e _ => ?_
  unfold ownsNetwork
  by_cases h₁ : e.1 = iface <;> by_cases h₂ : e.2.type = peerType <;>
    cases (strip routeStart e.1).isSome <;> simp [h₁, h₂]

theorem sections_addPeers (os : List (List (String × Value))) : ∃ es : List (Text × Section),
    (addPeers p os).sections = p.sections ++ es ∧
      es.map shape = os.map (fun o => (none, .make peerType o)) ∧
      (∀ e ∈ es, e.2.type = peerType) ∧ ∀ e ∈ es, "cfg" <+: e.1 := by
  unfold addPeers
  induction os generalizing p with
  | nil => exact ⟨[], by simp, rfl, nofun, nofun⟩
  | cons o os ih =>
    obtain ⟨es, hes, hshape, htype, hcfg⟩ := ih (p := p.add peerType o)
    refine ⟨(p.anonName, .make peerType o) :: es, ?_, ?_, ?_, ?_⟩
    · rw [List.foldl_cons, hes, Package.sections_add, List.append_assoc]
      rfl
    · rw [List.map_cons, hshape, List.map_cons, shape, if_pos Section.type_make]
    · intro e he
      obtain rfl | he := List.mem_cons.1 he
      · exact Section.type_make
      · exact htype e he
    · intro e he
      obtain rfl | he := List.mem_cons.1 he
      · exact List.prefix_append ..
      · exact hcfg e he

theorem strip_routeName (e : Text × Section) :
    (strip routeStart (routeName env e)).isSome = true := by
  rw [routeName, strip_append]
  rfl

theorem strip_of_cfg (h : "cfg" <+: n) : (strip routeStart n).isSome = false := by
  obtain ⟨t, rfl⟩ := h
  cases hs : strip routeStart ("cfg".toList ++ t) with
  | none => rfl
  | some r =>
    have hc : "cfg".toList.head? = some 'c' := by decide
    have hg : routeStart.head? = some 'g' := by decide
    exact absurd (strip_eq_some.1 hs) (append_ne_of_head hc hg (by decide))

theorem strip_iface : (strip routeStart iface).isSome = false := by decide

theorem ownsNetwork_of_route {e : Text × Section} (h : (strip routeStart e.1).isSome = true) :
    ownsNetwork e = true := by
  unfold ownsNetwork
  rw [h, Bool.or_true]

theorem ownsNetwork_of_iface {e : Text × Section} (h : e.1 = iface) : ownsNetwork e = true := by
  unfold ownsNetwork
  rw [decide_eq_true h, Bool.true_or, Bool.true_or]

theorem ownsNetwork_of_peer {e : Text × Section} (h : e.2.type = peerType) :
    ownsNetwork e = true := by
  unfold ownsNetwork
  rw [decide_eq_true h, Bool.or_true, Bool.true_or]

theorem type_routeDraft (e : Text × Section) : (routeDraft env e).type = "route" ∨
    (routeDraft env e).type = "route6" := by
  unfold routeDraft
  dsimp only
  split_ifs
  · exact .inr rfl
  · exact .inl rfl

theorem network_regenerated {interface : Package.Draft} {peers : List (List (String × Value))}
    {routes : List (Text × Section)} (htidy : Tidy p) (hname : interface.name = iface)
    (hroutes : (routes.map (routeName env)).Nodup) :
    let q := (addPeers ((clearNetwork p).newSections [interface]) peers).newSections
      (routes.map (routeDraft env))
    (q.owned ownsNetwork).map shape =
        shape interface.entry :: peers.map (fun o => (none, .make peerType o)) ++
          routes.map (fun e => shape (routeDraft env e).entry) ∧ Tidy q := by
  intro q
  have hclear := sections_clearNetwork htidy
  have hkept : ∀ e ∈ p.sections.filter (fun e => !ownsNetwork e), ownsNetwork e = false := by
    intro e he
    simpa using (List.mem_filter.1 he).2
  generalize hp : p.sections.filter (fun e => !ownsNetwork e) = kept at hclear hkept
  have hinterface : ((clearNetwork p).newSections [interface]).sections =
      kept ++ [interface.entry] := by
    rw [← hclear]
    refine Package.sections_newSection (Package.not_mem_names fun e he heq => ?_)
    have hown := ownsNetwork_of_iface (heq.trans hname)
    rw [hkept e (hclear ▸ he)] at hown
    cases hown
  obtain ⟨es, hes, hshape, htype, hcfg⟩ :=
    sections_addPeers (p := (clearNetwork p).newSections [interface]) peers
  rw [hinterface, List.append_assoc] at hes
  have hstart : ∀ e ∈ kept ++ ([interface.entry] ++ es), (strip routeStart e.1).isSome = false := by
    intro e he
    obtain he | he := List.mem_append.1 he
    · by_contra hstart
      have hown := ownsNetwork_of_route (Bool.eq_true_of_not_eq_false hstart)
      rw [hkept e he] at hown
      cases hown
    · obtain he | he := List.mem_append.1 he
      · obtain rfl := List.mem_singleton.1 he
        exact (congrArg (fun n => (strip routeStart n).isSome) hname).trans strip_iface
      · exact strip_of_cfg (hcfg e he)
  have hq : q.sections = kept ++ ([interface.entry] ++ es ++
      (routes.map (routeDraft env)).map Package.Draft.entry) := by
    rw [Package.sections_newSections, hes, List.append_assoc, List.append_assoc]
    · rw [List.map_map]
      exact hroutes
    · intro d hd e he heq
      obtain ⟨r, -, rfl⟩ := List.mem_map.1 hd
      rw [hes] at he
      have hroute : (strip routeStart e.1).isSome = true := heq ▸ strip_routeName r
      rw [hstart e he] at hroute
      cases hroute
  constructor
  · have hnew : ∀ e ∈ [interface.entry] ++ es ++
        (routes.map (routeDraft env)).map Package.Draft.entry, ownsNetwork e = true := by
      intro e he
      simp only [List.mem_append, List.mem_singleton, List.mem_map] at he
      obtain (rfl | he) | ⟨d, ⟨r, -, rfl⟩, rfl⟩ := he
      · exact ownsNetwork_of_iface hname
      · exact ownsNetwork_of_peer (htype e he)
      · exact ownsNetwork_of_route (strip_routeName r)
    rw [Package.owned_of_replaced (hp ▸ hq) hnew, List.map_append, List.map_append, hshape,
      List.map_map, List.map_map]
    rfl
  · intro e he hroute
    rw [hq, ← List.append_assoc] at he
    obtain he | he := List.mem_append.1 he
    · rw [hstart e he] at hroute
      cases hroute
    · simp only [List.mem_map] at he
      obtain ⟨d, ⟨r, -, rfl⟩, rfl⟩ := he
      rw [Package.Draft.entry, Section.type_make]
      exact type_routeDraft r

theorem names_firewallDrafts : ((firewallDrafts env p).map Package.Draft.name).Nodup ∧
    ∀ d ∈ firewallDrafts env p, d.name ∈ firewallNames := by
  have hnames : (firewallDrafts env p).map Package.Draft.name = zoneName ::
      (if cursorGet p "local_access" "1" = .text ['1'] then [toLanName] else []) ++
        [toWanName, inputName] := by
    unfold firewallDrafts
    rw [List.map_append, List.map_append]
    by_cases h : cursorGet p "local_access" "1" = .text ['1']
    · rw [if_pos h, if_pos h]
      rfl
    · rw [if_neg h, if_neg h]
      rfl
  have hmem : ∀ d ∈ firewallDrafts env p, d.name ∈ (firewallDrafts env p).map Package.Draft.name :=
    fun d hd => List.mem_map_of_mem hd
  rw [hnames] at hmem ⊢
  split_ifs at hmem ⊢
  · exact ⟨by decide, hmem⟩
  · refine ⟨by decide, fun d hd => ?_⟩
    have hsub : zoneName :: [] ++ [toWanName, inputName] ⊆ firewallNames := by decide
    exact hsub (hmem d hd)

theorem sections_clearFirewall {q : Package} :
    (q.deleteAll firewallNames).sections = q.sections.filter fun e => !ownsFirewall e := by
  rw [Package.sections_deleteAll]
  refine List.filter_congr fun e _ => ?_
  rw [decide_not]
  rfl

theorem firewall_regenerated {q : Package} :
    ((q.deleteAll firewallNames).newSections (firewallDrafts env p)).owned ownsFirewall =
      (firewallDrafts env p).map Package.Draft.entry := by
  refine Package.owned_of_replaced (p := q) ?_ ?_
  · rw [Package.sections_newSections names_firewallDrafts.1, sections_clearFirewall]
    intro d hd e he heq
    rw [sections_clearFirewall, List.mem_filter] at he
    simp [ownsFirewall, heq, names_firewallDrafts.2 d hd] at he
  · intro e he
    obtain ⟨d, hd, rfl⟩ := List.mem_map.1 he
    exact decide_eq_true (names_firewallDrafts.2 d hd)

end

/-! ## What is stored -/

/-- A peer has no list for an address, and if it has a key then it has an address. -/
structure Addressed (s : Section) : Prop where
  plain4 : ∀ ts, filled s "client_ip_v4" ≠ some (.list ts)
  plain6 : ∀ ts, filled s "client_ip_v6" ≠ some (.list ts)
  address : (filled s "public_key").isSome = true →
    (filled s "client_ip_v4").isSome = true ∨ (filled s "client_ip_v6").isSome = true

/-- The configuration can be applied if the server is enabled: it is initialized, its addresses are
texts, that for IPv4 with four numbers, its peers have addresses and its routes have different names. -/
structure Stored (env : Env) (p : Package) : Prop where
  main : ∀ s, p.find server = some s → s.type = "server"
  ready : isEnabled p = true → isInitialized p = true
  address4 : ∃ t, cursorGet p "address_v4" "10.0.0.1/24" = .text t ∧ (octets t).isSome = true
  address6 : ∃ t, cursorGet p "address_v6" "" = .text t
  peers : ∀ n s, p.find n = some s → s.type = "peer" → Addressed s
  routes : ∀ n s n' s', p.find n = some s → s.type = "route" → p.find n' = some s' →
    s'.type = "route" → routeName env (n, s) = routeName env (n', s') → n = n'

section
variable {env : Env} {p p' : Package} {n : Text} {s : Section}

theorem arrayValue_ok (hplain : ∀ ts, some (.list ts) ∉ vs)
    (hsome : ∃ v ∈ vs, v.isSome = true) : ∃ v, arrayValue env vs = .ok v := by
  have htexts : ∃ ts : List Text, (vs.filterMap id).map Value.toJson = ts.map Json.str := by
    clear hsome
    induction vs with
    | nil => exact ⟨[], rfl⟩
    | cons v vs ih =>
      obtain ⟨ts, hts⟩ := ih fun ts h => hplain ts (List.mem_cons_of_mem _ h)
      cases v with
      | none => exact ⟨ts, hts⟩
      | some v =>
        cases v with
        | list l => exact absurd List.mem_cons_self (hplain l)
        | text t => exact ⟨t :: ts, congrArg (Json.str t :: ·) hts⟩
  obtain ⟨ts, hts⟩ := htexts
  have hne : ts ≠ [] := by
    rintro rfl
    obtain ⟨v, hv, hsome⟩ := hsome
    obtain ⟨w, rfl⟩ := Option.isSome_iff_exists.1 hsome
    have hmem : w ∈ vs.filterMap id := List.mem_filterMap.2 ⟨some w, hv, rfl⟩
    rw [List.map_eq_nil_iff.1 hts] at hmem
    cases hmem
  unfold arrayValue
  rw [hts]
  exact ⟨_, env.optionValue_texts hne⟩

theorem Addressed.peerOptions (h : Addressed s) (hlive : isLive s = true) :
    ∃ os, peerOptions env s = .ok os := by
  obtain ⟨allowed, hallowed⟩ : ∃ v, arrayValue env [filled s "client_ip_v4",
      filled s "client_ip_v6"] = .ok v := by
    refine arrayValue_ok (fun ts hmem => ?_) ?_
    · simp only [List.mem_cons, List.not_mem_nil, or_false] at hmem
      obtain heq | heq := hmem
      · exact h.plain4 ts heq.symm
      · exact h.plain6 ts heq.symm
    · have hkey : (filled s "public_key").isSome = true := (Bool.and_eq_true_iff.1 hlive).2
      obtain hsome | hsome := h.address hkey
      · exact ⟨_, List.mem_cons_self, hsome⟩
      · exact ⟨_, List.mem_cons_of_mem _ List.mem_cons_self, hsome⟩
  simp only [WgServer.peerOptions, bind_eq_ok]
  exact ⟨_, allowed, hallowed, rfl⟩

theorem allPeerOptions_ok (h : ∀ e ∈ es, Addressed e.2) : ∃ os, allPeerOptions env es = .ok os := by
  induction es with
  | nil => exact ⟨[], rfl⟩
  | cons e es ih =>
    obtain ⟨os, hos⟩ := ih fun e' he => h e' (List.mem_cons_of_mem _ he)
    unfold allPeerOptions
    split_ifs with hlive
    · obtain ⟨o, ho⟩ := @Addressed.peerOptions env _ (h e List.mem_cons_self) hlive
      exact ⟨o :: os, by rw [ho, hos]; rfl⟩
    · exact ⟨os, hos⟩

theorem Stored.generated (h : Stored env p) : ∃ interface peers,
    interfaceDraft env p = .ok interface ∧ interface.name = iface ∧
      allPeerOptions env (peerSections env p) = .ok peers := by
  obtain ⟨t4, h4, -⟩ := h.address4
  obtain ⟨t6, h6⟩ := h.address6
  obtain ⟨addresses, haddresses⟩ : ∃ v, arrayValue env [some (cursorGet p "address_v4" "10.0.0.1/24"),
      some (cursorGet p "address_v6" "") |>.filter fun v => v ≠ .text []] = .ok v := by
    rw [h4, h6]
    refine arrayValue_ok (fun ts hmem => ?_) ⟨_, List.mem_cons_self, rfl⟩
    simp only [List.mem_cons, List.not_mem_nil, or_false] at hmem
    obtain heq | heq := hmem
    · cases heq
    · have hsome := (Option.filter_eq_some_iff.1 heq.symm).1
      cases hsome
  obtain ⟨peers, hpeers⟩ : ∃ os, allPeerOptions env (peerSections env p) = .ok os := by
    refine allPeerOptions_ok fun e he => ?_
    obtain ⟨n, s⟩ := e
    have hmem : (n, s) ∈ p.ofType "peer" := (env.sort_perm _).mem_iff.1 he
    obtain ⟨hfind, htype⟩ := Package.mem_ofType_iff.1 hmem
    exact h.peers n s hfind htype
  have hinterface : ∃ interface, interfaceDraft env p = .ok interface ∧ interface.name = iface := by
    unfold interfaceDraft
    rw [haddresses]
    exact ⟨_, rfl, rfl⟩
  obtain ⟨interface, hok, hname⟩ := hinterface
  exact ⟨interface, peers, hok, hname, hpeers⟩

theorem Stored.nodup_routes (h : Stored env p) :
    ((p.ofType "route").map (routeName env)).Nodup := by
  have hnodup : (p.ofType "route").Nodup := (List.Nodup.of_map _ p.nodup).filter _
  refine hnodup.map_on ?_
  rintro ⟨n, s⟩ hs ⟨n', s'⟩ hs' heq
  obtain ⟨hfind, htype⟩ := Package.mem_ofType_iff.1 hs
  obtain ⟨hfind', htype'⟩ := Package.mem_ofType_iff.1 hs'
  obtain rfl := h.routes n s n' s' hfind htype hfind' htype' heq
  rw [hfind] at hfind'
  cases hfind'
  rfl

/-! ## Addresses for new peers -/

theorem span_digits {n t : Text} (hn : n.all isDigit = true) (ht : ∀ ch ∈ t.head?, isDigit ch = false) :
    (n ++ t).takeWhile isDigit = n ∧ (n ++ t).dropWhile isDigit = t := by
  have hall : ∀ ch ∈ n, isDigit ch = true := List.all_eq_true.1 hn
  rw [List.takeWhile_append_of_pos hall, List.dropWhile_append_of_pos hall]
  cases t with
  | nil => simp
  | cons ch t =>
    have hch : isDigit ch = false := ht ch rfl
    simp [hch]

theorem digitsAndDot_append (hn : isNumber n = true) :
    digitsAndDot (n ++ '.' :: t) = some (n, t) := by
  obtain ⟨hne, hall⟩ := Bool.and_eq_true_iff.1 hn
  obtain ⟨htake, hdrop⟩ := span_digits (t := '.' :: t) hall (by rintro ch ⟨⟩; decide)
  unfold digitsAndDot
  rw [hdrop, htake]
  exact if_neg (by simpa using hne)

theorem octets_of_isCidr (h : isCidr t = true) : (octets t).isSome = true := by
  unfold isCidr at h
  obtain ⟨⟨ip, bits⟩, hcut, h⟩ := (Option.any_eq_true ..).1 h
  simp only [Bool.and_eq_true, decide_eq_true_eq] at h
  obtain ⟨⟨-, hlength⟩, hall⟩ := h
  obtain ⟨rfl, -⟩ := cut_eq_some.1 hcut
  have hip := intercalate_pieces '.' ip
  obtain ⟨w, x, y, z, hp⟩ := List.length_eq_four.1 hlength
  rw [hp] at hip hall
  simp only [List.all_cons, List.all_nil, Bool.and_true, Bool.and_eq_true] at hall
  obtain ⟨hw, hx, hy, hz⟩ := hall
  have ht : ip ++ '/' :: bits = w ++ '.' :: (x ++ '.' :: (y ++ '.' :: (z ++ '/' :: bits))) := by
    rw [← hip]
    simp [List.intercalate]
  obtain ⟨hne, hdigits⟩ := Bool.and_eq_true_iff.1 hz
  have hlast := (span_digits (t := '/' :: bits) hdigits (by rintro ch ⟨⟩; decide)).1
  rw [ht, octets, digitsAndDot_append hw, Option.bind_eq_bind, Option.bind_some]
  dsimp only
  rw [digitsAndDot_append hx, Option.bind_some]
  dsimp only
  rw [digitsAndDot_append hy, Option.bind_some, hlast]
  dsimp only
  rw [if_neg (by simpa using hne)]
  rfl

theorem nextClientIpv4_ne_nil (hoctets : (octets address).isSome = true)
    (hroom : (p.ofType "peer").length < 253) : nextClientIpv4 env p address ≠ [] := by
  obtain ⟨⟨a, b, c, d⟩, ho⟩ := Option.isSome_iff_exists.1 hoctets
  unfold nextClientIpv4
  rw [ho]
  dsimp only
  split
  · next hnone =>
    have hsub : List.range' 2 253 ⊆ (p.ofType "peer").filterMap fun e =>
        (octets (env.textOf (e.2.options "client_ip_v4"))).map fun o => toNumber o.2.2.2 := by
      intro host hmem
      simpa only [Bool.not_eq_true, decide_eq_false_iff_not, not_not] using
        List.find?_eq_none.1 hnone host hmem
    have hnodup : (List.range' 2 253).Nodup := List.nodup_range' 1 Nat.one_pos
    have hlength := (List.subperm_of_subset hnodup hsub).length_le
    rw [List.length_range'] at hlength
    have hle := hlength.trans (List.length_filterMap_le ..)
    omega
  · simp

/-! ## Changes of the configuration -/

theorem cursorGet_congr (h : p'.find server = p.find server) (o d : String) :
    cursorGet p' o d = cursorGet p o d := Package.getOr_congr h

theorem isEnabled_congr (h : p'.find server = p.find server) : isEnabled p' = isEnabled p := by
  rw [isEnabled, cursorGet_congr h, isEnabled]

theorem Stored.change (h : Stored env p) (hn : n ≠ server)
    (hfind : ∀ m, m ≠ n → p'.find m = p.find m)
    (hpeer : ∀ s, p'.find n = some s → s.type = "peer" → Addressed s)
    (hroute : ∀ s, p'.find n = some s → s.type = "route" → ∀ m s', m ≠ n →
      p.find m = some s' → s'.type = "route" →
      routeName env (n, s) ≠ routeName env (m, s')) : Stored env p' := by
  have hmain : p'.find server = p.find server := hfind server hn.symm
  refine ⟨?_, ?_, ?_, ?_, ?_, ?_⟩
  · rw [hmain]
    exact h.main
  · unfold isInitialized
    rw [isEnabled_congr hmain, cursorGet_congr hmain, cursorGet_congr hmain]
    exact h.ready
  · rw [cursorGet_congr hmain]
    exact h.address4
  · rw [cursorGet_congr hmain]
    exact h.address6
  · intro m s hs htype
    by_cases hm : m = n
    · subst hm
      exact hpeer s hs htype
    · exact h.peers m s (hfind m hm ▸ hs) htype
  · intro m s m' s' hs htype hs' htype' heq
    by_cases hm : m = n <;> by_cases hm' : m' = n
    · exact hm.trans hm'.symm
    · subst hm
      exact absurd heq (hroute s hs htype m' s' hm' (hfind m' hm' ▸ hs') htype')
    · subst hm'
      exact absurd heq.symm (hroute s' hs' htype' m s hm (hfind m hm ▸ hs) htype)
    · exact h.routes m s m' s' (hfind m hm ▸ hs) htype (hfind m' hm' ▸ hs') htype' heq

theorem Stored.delete (h : Stored env p) (hn : n ≠ server) : Stored env (p.delete n) := by
  have hnone : ∀ s, (p.delete n).find n ≠ some s := by
    intro s hs
    rw [Package.find_delete_self] at hs
    cases hs
  exact h.change hn (fun m hm => Package.find_delete_of_ne hm)
    (fun s hs => absurd hs (hnone s)) (fun s hs => absurd hs (hnone s))

theorem Stored.deleteAll (h : Stored env p) (hns : ∀ n ∈ ns, n ≠ server) :
    Stored env (p.deleteAll ns) ∧ (p.deleteAll ns).find server = p.find server := by
  unfold Package.deleteAll
  induction ns generalizing p with
  | nil => exact ⟨h, rfl⟩
  | cons n ns ih =>
    have hn := hns n List.mem_cons_self
    obtain ⟨hstored, hmain⟩ := ih (h.delete hn) fun m hm => hns m (List.mem_cons_of_mem _ hm)
    exact ⟨hstored, hmain.trans (Package.find_delete_of_ne hn.symm)⟩

theorem Stored.setMain (h : Stored env p)
    (hready : isEnabled (p.setAll server options) = true →
      isInitialized (p.setAll server options) = true)
    (h4 : ∃ t, cursorGet (p.setAll server options) "address_v4" "10.0.0.1/24" = .text t ∧
      (octets t).isSome = true)
    (h6 : ∃ t, cursorGet (p.setAll server options) "address_v6" "" = .text t) :
    Stored env (p.setAll server options) := by
  have hfind : ∀ n s, (p.setAll server options).find n = some s → s.type ≠ "server".toList →
      p.find n = some s := by
    intro n s hs htype
    by_cases hn : n = server
    · subst hn
      rw [Package.find_setAll_self, Option.map_eq_some_iff] at hs
      obtain ⟨s', hs', rfl⟩ := hs
      exact absurd (Section.type_setAll.trans (h.main s' hs')) htype
    · rwa [Package.find_setAll_of_ne hn] at hs
  have hpeer : "peer".toList ≠ "server".toList := by decide
  have hroute : "route".toList ≠ "server".toList := by decide
  refine ⟨?_, hready, h4, h6, ?_, ?_⟩
  · intro s hs
    rw [Package.find_setAll_self, Option.map_eq_some_iff] at hs
    obtain ⟨s', hs', rfl⟩ := hs
    exact Section.type_setAll.trans (h.main s' hs')
  · intro n s hs htype
    exact h.peers n s (hfind n s hs (htype.trans_ne hpeer)) htype
  · intro n s n' s' hs htype hs' htype'
    exact h.routes n s n' s' (hfind n s hs (htype.trans_ne hroute)) htype
      (hfind n' s' hs' (htype'.trans_ne hroute)) htype'

theorem Stored.ne_server (h : Stored env p) (hfind : p.find n = some s)
    (htype : s.type ≠ "server") : n ≠ server := by
  rintro rfl
  exact htype (h.main s hfind)

section
variable {options : List (String × Value)} {o d : String}

theorem cursorGet_setAll_of_not_mem (ho : o ∉ options.map Prod.fst) :
    cursorGet (p.setAll n options) o d = cursorGet p o d := Package.getOr_setAll_of_not_mem ho

theorem cursorGet_setAll_text (hs : p.find server = some s)
    (hnodup : (options.map Prod.fst).Nodup) (ht : (o, .text t) ∈ options) :
    cursorGet (p.setAll server options) o d = .text (if t = [] then d.toList else t) :=
  Package.getOr_setAll_text hs hnodup ht

theorem filled_setAll (ho : o ∉ options.map Prod.fst) :
    filled (s.setAll options) o = filled s o := by
  rw [filled, Section.options_setAll_of_not_mem (Section.toList_ne_of_not_mem ho), filled]

end

theorem exists_find_of_isEnabled (h : isEnabled p = true) : ∃ s, p.find server = some s := by
  cases hs : p.find server with
  | some s => exact ⟨s, rfl⟩
  | none =>
    rw [isEnabled, cursorGet, Package.getOr_of_find_none hs] at h
    exact absurd h (by decide)

theorem exists_find_of_isInitialized (h : isInitialized p = true) :
    ∃ s, p.find server = some s := by
  cases hs : p.find server with
  | some s => exact ⟨s, rfl⟩
  | none =>
    rw [isInitialized, cursorGet, Package.getOr_of_find_none hs] at h
    exact absurd (Bool.and_eq_true_iff.1 h).1 (by decide)

end

/-! ## Methods -/

structure Inv (env : Env) (c : Configs) : Prop where
  agrees : Agrees env c
  stored : Stored env c.wgserver
  tidy : Tidy c.network

/-- `generate_key` is not called while the server is enabled, or has no tools; `address_v6` is no
array; new ids are new, also as parts of names, and there are fewer than 253 peers before one is
added. -/
def Sound (env : Env) (c : Configs) : Call → Prop
  | .generateKey keys => isEnabled c.wgserver = true → keys = none
  | .setConfig args => ∀ items, arg args "address_v6" ≠ some (.arr items)
  | .addPeer id _ _ => c.wgserver.find ("p_".toList ++ id) = none ∧
    (c.wgserver.ofType "peer").length < 253
  | .addRoute id _ => c.wgserver.find ("r_".toList ++ id) = none ∧ id ≠ [] ∧
    ∀ e ∈ c.wgserver.ofType "route",
      routeName env e ≠ routeStart ++ id.filter fun ch => isAlnum ch || ch = '_'
  | _ => True

section
variable {env : Env} {c : Configs} {p : Package} {n : Text} {s : Section} {args : Json}
  {options : List (String × Value)}

theorem applyRuntime_ok (hstored : Stored env c.wgserver) (htidy : Tidy c.network)
    (hinit : isInitialized c.wgserver = true) : ∃ network firewall,
    applyRuntime env c = (.ok, { c with network := network, firewall := firewall }) ∧
      networkSections env c.wgserver = .ok ((network.owned ownsNetwork).map shape) ∧
      firewall.owned ownsFirewall = (firewallDrafts env c.wgserver).map Package.Draft.entry ∧
      Tidy network := by
  obtain ⟨interface, peers, hinterface, hname, hpeers⟩ := hstored.generated
  obtain ⟨hnetwork, htidy'⟩ :=
    @network_regenerated env c.network interface peers _ htidy hname hstored.nodup_routes
  refine ⟨_, _, ?_, ?_, firewall_regenerated (q := c.firewall), htidy'⟩
  · unfold applyRuntime
    rw [if_pos hinit, hinterface, hpeers]
  · unfold networkSections
    rw [hinterface, hpeers, hnetwork]
    rfl

theorem store_inv (h : Inv env c) (hp : Stored env p) (hon : isEnabled p = isEnabled c.wgserver) :
    Inv env (store env c p).2 := by
  unfold store refreshIfRunning
  by_cases hen : isEnabled p = true
  · obtain ⟨network, firewall, happly, hnetwork, hfirewall, htidy⟩ :=
      applyRuntime_ok (c := { c with wgserver := p }) hp h.tidy (hp.ready hen)
    have hoff : isEnabled p ≠ false := ne_false_of_eq_true hen
    rw [if_pos hen, happly]
    exact ⟨⟨fun _ => hnetwork, fun _ => hfirewall, fun h => absurd h hoff, fun h => absurd h hoff⟩,
      hp, htidy⟩
  · rw [if_neg hen]
    have hoff : isEnabled c.wgserver = false := hon ▸ Bool.eq_false_of_not_eq_true hen
    exact ⟨⟨fun h => absurd h hen, fun h => absurd h hen, fun _ => h.agrees.noNetwork hoff,
      fun _ => h.agrees.noFirewall hoff⟩, hp, h.tidy⟩

theorem setMain_inv (h : Inv env c)
    (ho : ∀ o ∈ ["enabled", "initialized", "private_key", "address_v4", "address_v6"],
      o ∉ options.map Prod.fst) :
    Inv env (store env c (c.wgserver.setAll server options)).2 := by
  have hget : ∀ o ∈ ["enabled", "initialized", "private_key", "address_v4", "address_v6"], ∀ d,
      cursorGet (c.wgserver.setAll server options) o d = cursorGet c.wgserver o d :=
    fun o hmem d => cursorGet_setAll_of_not_mem (ho o hmem)
  have hen : isEnabled (c.wgserver.setAll server options) = isEnabled c.wgserver := by
    rw [isEnabled, hget _ (by simp), isEnabled]
  refine store_inv h (h.stored.setMain ?_ ?_ ?_) hen
  · rw [hen, isInitialized, hget _ (by simp), hget _ (by simp)]
    exact h.stored.ready
  · rw [hget _ (by simp)]
    exact h.stored.address4
  · rw [hget _ (by simp)]
    exact h.stored.address6

theorem generateKey_inv (h : Inv env c)
    (hkeys : isEnabled c.wgserver = true → keys = none) : Inv env (generateKey c keys).2 := by
  cases keys with
  | none => exact h
  | some keys =>
    obtain ⟨priv, pub⟩ := keys
    have hoff : isEnabled c.wgserver = false := by
      refine Bool.eq_false_of_not_eq_true fun hen => ?_
      cases hkeys hen
    have hget : ∀ o d, o ∉ ["private_key", "public_key", "initialized"] →
        cursorGet (c.wgserver.setAll server [("private_key", .text priv), ("public_key", .text pub),
          ("initialized", .text ['1'])]) o d = cursorGet c.wgserver o d :=
      fun o d ho => cursorGet_setAll_of_not_mem ho
    have hoff' : isEnabled (c.wgserver.setAll server [("private_key", .text priv),
        ("public_key", .text pub), ("initialized", .text ['1'])]) = false := by
      rw [isEnabled, hget _ _ (by simp)]
      exact hoff
    refine ⟨⟨fun hen => ?_, fun hen => ?_, fun _ => h.agrees.noNetwork hoff,
      fun _ => h.agrees.noFirewall hoff⟩, h.stored.setMain (fun hen => ?_) ?_ ?_, h.tidy⟩
    · exact absurd hen (Bool.eq_false_iff.1 hoff')
    · exact absurd hen (Bool.eq_false_iff.1 hoff')
    · exact absurd hen (Bool.eq_false_iff.1 hoff')
    · rw [hget _ _ (by simp)]
      exact h.stored.address4
    · rw [hget _ _ (by simp)]
      exact h.stored.address6

theorem configOptions_ok (h : configOptions env args = .ok options) :
    ∃ addressV4 addressV6 port priv pub, isCidr addressV4 = true ∧ priv ≠ [] ∧
      env.optionValue (Json.orElse (arg args "address_v6") (.str [])) = .ok addressV6 ∧
      options = [("address_v4", .text addressV4), ("address_v6", addressV6), ("port", port),
        ("private_key", .text priv), ("public_key", .text pub), ("initialized", .text ['1'])] := by
  simp only [configOptions, bind_eq_ok, elim_eq_ok] at h
  obtain ⟨port, -, addressV4, h4, pub, hpub, addressV6, h6, hoptions⟩ := h
  obtain ⟨priv, hpriv, -⟩ := Option.bind_eq_some_iff.1 hpub
  rw [hpriv, Option.getD_some] at hoptions
  refine ⟨addressV4, addressV6, _, priv, pub, (Option.filter_eq_some_iff.1 h4).2, ?_, h6,
    (Except.ok.inj hoptions).symm⟩
  simpa using (Option.filter_eq_some_iff.1 hpriv).2

theorem setConfig_inv (h : Inv env c) (hargs : ∀ items, arg args "address_v6" ≠ some (.arr items)) :
    Inv env (setConfig env c args).2 := by
  unfold setConfig
  cases hok : configOptions env args with
  | error e => exact h
  | ok options =>
    obtain ⟨addressV4, addressV6, port, priv, pub, hcidr, hpriv, h6, rfl⟩ := configOptions_ok hok
    obtain ⟨t6, rfl⟩ : ∃ t, addressV6 = .text t := by
      refine env.optionValue_text (fun items => ?_) h6
      intro heq
      cases harg : arg args "address_v6" with
      | none =>
        rw [harg] at heq
        cases heq
      | some v =>
        rw [harg] at heq
        unfold Json.orElse at heq
        split at heq
        · cases heq
        · cases heq
        · next a _ hsome =>
          cases hsome
          exact hargs items (harg.trans (congrArg some heq))
    dsimp only
    generalize hopts : [("address_v4", Value.text addressV4), ("address_v6", .text t6), ("port", port),
      ("private_key", .text priv), ("public_key", .text pub), ("initialized", .text ['1'])] = options
    have hnames : options.map Prod.fst =
        ["address_v4", "address_v6", "port", "private_key", "public_key", "initialized"] := by
      rw [← hopts]
      rfl
    have hnodup : (options.map Prod.fst).Nodup := by
      rw [hnames]
      decide
    have hen : isEnabled (c.wgserver.setAll server options) = isEnabled c.wgserver := by
      rw [isEnabled, cursorGet_setAll_of_not_mem, isEnabled]
      rw [hnames]
      decide
    refine store_inv h ?_ hen
    cases hs : c.wgserver.find server with
    | none =>
      have hsame : (c.wgserver.setAll server options).find server = c.wgserver.find server := by
        rw [Package.find_setAll_self, hs]
        rfl
      refine h.stored.setMain (fun hon => ?_) ?_ ?_
      · obtain ⟨s, hs'⟩ := exists_find_of_isEnabled (hen ▸ hon)
        rw [hs] at hs'
        cases hs'
      · rw [cursorGet_congr hsame]
        exact h.stored.address4
      · rw [cursorGet_congr hsame]
        exact h.stored.address6
    | some s =>
      refine h.stored.setMain (fun _ => ?_) ?_ ?_
      · rw [isInitialized, cursorGet_setAll_text (t := ['1']) hs hnodup (by simp [← hopts]),
          cursorGet_setAll_text (t := priv) hs hnodup (by simp [← hopts]), if_neg hpriv]
        simpa using hpriv
      · rw [cursorGet_setAll_text (t := addressV4) hs hnodup (by simp [← hopts])]
        have hne : addressV4 ≠ [] := by
          rintro rfl
          exact absurd hcidr (by decide)
        rw [if_neg hne]
        exact ⟨_, rfl, octets_of_isCidr hcidr⟩
      · rw [cursorGet_setAll_text (t := t6) hs hnodup (by simp [← hopts])]
        exact ⟨_, rfl⟩

theorem addSection_inv (h : Inv env c) (hn : n ≠ server) (hnone : c.wgserver.find n = none)
    (hpeer : ∀ options, added = .ok options → type = "peer".toList →
      Addressed ((Section.make type first).setAll options))
    (hroute : ∀ options, added = .ok options → type = "route".toList →
      ∀ e ∈ c.wgserver.ofType "route".toList,
        routeName env (n, (Section.make type first).setAll options) ≠ routeName env e) :
    Inv env (addSection env c n type first added).2 := by
  unfold addSection
  dsimp only
  split
  · next options =>
    generalize hp : (c.wgserver.newSection n type first).setAll n options = p
    have hself : p.find n = some ((Section.make type first).setAll options) := by
      rw [← hp, Package.find_setAll_self, Package.find_newSection_self hnone]
      rfl
    have hother : ∀ m, m ≠ n → p.find m = c.wgserver.find m := by
      intro m hm
      rw [← hp, Package.find_setAll_of_ne hm, Package.find_newSection_of_ne hm]
    refine store_inv h (h.stored.change hn hother ?_ ?_) (isEnabled_congr (hother server hn.symm))
    · intro s hs htype
      rw [hself] at hs
      cases hs
      exact hpeer options rfl (by simpa using htype)
    · intro s hs htype m s' _ hs' htype'
      rw [hself] at hs
      cases hs
      exact hroute options rfl (by simpa using htype) (m, s')
        (Package.mem_ofType_iff.2 ⟨hs', htype'⟩)
  · exact h
  · rw [Package.delete_newSection hnone]
    exact h

theorem names_writtenOptions (h : writtenOptions env args name = .ok options) :
    options.map Prod.fst ⊆ ["name", "allowed_ips", "dns", "mtu", "persistent_keepalive",
      "presharedkey_enable", "presharedkey", "enabled"] := by
  simp only [writtenOptions, bind_eq_ok] at h
  obtain ⟨allowedIps, -, dns, -, hoptions⟩ := h
  cases hoptions
  intro o ho
  simp only [optional, List.map_append, List.mem_append, List.map_cons, List.map_nil] at ho
  obtain (ho | ho) | ho := ho
  · exact List.mem_append_left ["presharedkey", "enabled"] ho
  · obtain ⟨e, he, rfl⟩ := List.mem_map.1 ho
    obtain ⟨v, -, rfl⟩ := Option.map_eq_some_iff.1 (Option.mem_toList.1 he)
    simp
  · obtain ⟨e, he, rfl⟩ := List.mem_map.1 ho
    obtain ⟨v, -, rfl⟩ := Option.map_eq_some_iff.1 (Option.mem_toList.1 he)
    simp

theorem filled_written (h : writtenOptions env args name = .ok options)
    (ho : o ∈ ["public_key", "client_ip_v4", "client_ip_v6"]) :
    filled (s.setAll options) o = filled s o := by
  refine filled_setAll fun hmem => ?_
  have hwritten := names_writtenOptions h hmem
  simp only [List.mem_cons, List.not_mem_nil, or_false] at ho hwritten
  obtain rfl | rfl | rfl := ho <;> simp at hwritten

theorem addressed_written (h : writtenOptions env args name = .ok options)
    (hs : Addressed s) : Addressed (s.setAll options) := by
  have h4 := filled_written (s := s) (o := "client_ip_v4") h (by simp)
  have h6 := filled_written (s := s) (o := "client_ip_v6") h (by simp)
  have hkey := filled_written (s := s) (o := "public_key") h (by simp)
  refine ⟨?_, ?_, ?_⟩
  · rw [h4]
    exact hs.plain4
  · rw [h6]
    exact hs.plain6
  · rw [hkey, h4, h6]
    exact hs.address

theorem filled_setAll_text (hnodup : (options.map Prod.fst).Nodup) (hv : (o, .text v) ∈ options) :
    filled (s.setAll options) o = if v = [] then none else some (.text v) := by
  rw [filled, Section.options_setAll_of_mem hnodup hv]
  cases v with
  | nil => rfl
  | cons ch v => simp [Value.stored, Option.filter]

theorem addressed_new {id : Text} {keys : Option (Text × Text)} (h : Stored env c.wgserver)
    (hroom : (c.wgserver.ofType "peer").length < 253)
    (hok : newPeerOptions env c args id keys = .ok options) : Addressed (s.setAll options) := by
  simp only [newPeerOptions, addressText, bind_eq_ok, elim_eq_ok] at hok
  obtain ⟨name, -, ⟨priv, pub⟩, -, address4, h4, address6, -, written, hwritten, hoptions⟩ := hok
  cases hoptions
  rw [Section.setAll_append]
  refine addressed_written hwritten ?_
  have hne : nextClientIpv4 env c.wgserver address4 ≠ [] := by
    obtain ⟨t, ht, hoctets⟩ := h.address4
    rw [ht] at h4
    cases h4
    exact nextClientIpv4_ne_nil hoctets hroom
  generalize nextClientIpv4 env c.wgserver address4 = ip4 at hne
  generalize nextClientIpv6 env c.wgserver address6 = ip6
  generalize hopts : [("peer_id", Value.text id), ("private_key", .text priv), ("public_key", .text pub),
    ("client_ip_v4", .text ip4), ("client_ip_v6", .text ip6), ("enabled", .text ['1'])] = options
  have hnodup : (options.map Prod.fst).Nodup := by
    have hnames : options.map Prod.fst =
        ["peer_id", "private_key", "public_key", "client_ip_v4", "client_ip_v6", "enabled"] := by
      rw [← hopts]
      rfl
    rw [hnames]
    decide
  have hip4 := filled_setAll_text (s := s) (v := ip4) (o := "client_ip_v4") hnodup (by simp [← hopts])
  have hip6 := filled_setAll_text (s := s) (v := ip6) (o := "client_ip_v6") hnodup (by simp [← hopts])
  rw [if_neg hne] at hip4
  refine ⟨fun ts heq => ?_, fun ts heq => ?_, fun _ => .inl ?_⟩
  · rw [hip4] at heq
    cases heq
  · rw [hip6] at heq
    split_ifs at heq
    cases heq
  · rw [hip4]
    rfl

theorem addPeer_inv {id : Text} {keys : Option (Text × Text)} (h : Inv env c)
    (hnone : c.wgserver.find ("p_".toList ++ id) = none)
    (hroom : (c.wgserver.ofType "peer").length < 253) :
    Inv env (addPeer env c args id keys).2 := by
  have hn : "p_".toList ++ id ≠ server := by
    rw [← List.append_nil server]
    exact append_ne_of_head (x := 'p') (y := 'm') (by decide) (by decide) (by decide)
  refine addSection_inv h hn hnone (fun options hok _ => ?_) (fun _ _ htype => ?_)
  · exact addressed_new h.stored hroom hok
  · exact absurd htype (by decide)

theorem find_of_peerById {id : Option Json} (h : peerById env c id = some (n, s)) :
    c.wgserver.find n = some s ∧ s.type = "peer" := by
  have hmem : (n, s) ∈ peerSections env c.wgserver := List.mem_of_find?_eq_some h
  exact Package.mem_ofType_iff.1 ((env.sort_perm _).mem_iff.1 hmem)

theorem find_of_routeById {id : Option Json} (h : routeById env c id = some (n, s)) :
    c.wgserver.find n = some s ∧ s.type = "route" :=
  Package.mem_ofType_iff.1 (List.mem_of_find?_eq_some h)

theorem setSection_inv (h : Inv env c) (hfind : c.wgserver.find n = some s)
    (htype : s.type ≠ "server")
    (hpeer : s.type = "peer" → Addressed (s.setAll options))
    (hroute : s.type = "route" → routeName env (n, s.setAll options) = routeName env (n, s)) :
    Inv env (store env c (c.wgserver.setAll n options)).2 := by
  have hn := h.stored.ne_server hfind htype
  have hself : (c.wgserver.setAll n options).find n = some (s.setAll options) := by
    rw [Package.find_setAll_self, hfind]
    rfl
  have hother : ∀ m, m ≠ n → (c.wgserver.setAll n options).find m = c.wgserver.find m :=
    fun m hm => Package.find_setAll_of_ne hm
  refine store_inv h (h.stored.change hn hother ?_ ?_) (isEnabled_congr (hother server hn.symm))
  · intro s' hs' htype'
    rw [hself] at hs'
    cases hs'
    exact hpeer (by simpa using htype')
  · intro s' hs' htype' m s'' hm hs'' htype'' heq
    rw [hself] at hs'
    cases hs'
    rw [Section.type_setAll] at htype'
    rw [hroute htype'] at heq
    exact hm (h.stored.routes m s'' n s hs'' htype'' hfind htype' heq.symm)

theorem setPeer_inv (h : Inv env c) : Inv env (setPeer env c args).2 := by
  unfold setPeer
  split
  · exact h
  · next name s hpeer =>
    obtain ⟨hfind, htype⟩ := find_of_peerById hpeer
    split
    · exact h
    · next options hok =>
      obtain ⟨name', -, hwritten⟩ := bind_eq_ok.1 hok
      refine setSection_inv h hfind ?_ (fun _ => ?_) (fun hroute => ?_)
      · rw [htype]
        decide
      · exact addressed_written hwritten (h.stored.peers name s hfind htype)
      · rw [htype] at hroute
        exact absurd hroute (by decide)

theorem removeAll_inv {ns : List Text} (h : Inv env c) (hns : ∀ n ∈ ns, n ≠ server) :
    Inv env (store env c (c.wgserver.deleteAll ns)).2 := by
  obtain ⟨hstored, hmain⟩ := h.stored.deleteAll hns
  exact store_inv h hstored (isEnabled_congr hmain)

theorem removePeer_inv (h : Inv env c) : Inv env (removePeer env c args).2 := by
  have hpeer : "peer".toList ≠ "server".toList := by decide
  unfold removePeer
  split_ifs
  · refine removeAll_inv h fun n hn => ?_
    obtain ⟨⟨m, s⟩, hmem, rfl⟩ := List.mem_map.1 hn
    obtain ⟨hfind, htype⟩ := Package.mem_ofType_iff.1 ((env.sort_perm _).mem_iff.1 hmem)
    exact h.stored.ne_server hfind (htype.trans_ne hpeer)
  · split
    · exact h
    · next name s hfound =>
      obtain ⟨hfind, htype⟩ := find_of_peerById hfound
      refine @removeAll_inv env c [name] h fun n hn => ?_
      obtain rfl := List.mem_singleton.1 hn
      exact h.stored.ne_server hfind (htype.trans_ne hpeer)

theorem setSetting_inv (h : Inv env c) : Inv env (setSetting env c args).2 := by
  unfold setSetting
  dsimp only
  split_ifs
  · exact h
  · exact setMain_inv h (by simp)
  · exact setMain_inv h (by simp)

theorem networkSections_mark (h : Stored env p) (v : Value) :
    networkSections env (p.setAll server [("enabled", v)]) = networkSections env p ∧
      firewallDrafts env (p.setAll server [("enabled", v)]) = firewallDrafts env p := by
  have hget : ∀ o d, o ≠ "enabled" →
      cursorGet (p.setAll server [("enabled", v)]) o d = cursorGet p o d := by
    intro o d ho
    exact cursorGet_setAll_of_not_mem (by simpa using ho)
  have htype : ∀ type, type ≠ "server".toList →
      (p.setAll server [("enabled", v)]).ofType type = p.ofType type := by
    intro type hne
    refine Package.ofType_setAll fun heq => ?_
    obtain ⟨s, hs⟩ := Package.typeOf_eq_some_iff.1 heq
    obtain ⟨hfind, rfl⟩ := Package.mem_ofType_iff.1 hs
    exact hne (h.main s hfind)
  have hpeers := htype "peer".toList (by decide)
  have hroutes := htype "route".toList (by decide)
  constructor
  · unfold networkSections interfaceDraft cursorNumber peerSections
    rw [hpeers, hroutes]
    repeat rw [hget _ _ (by decide)]
  · unfold firewallDrafts cursorNumber
    repeat rw [hget _ _ (by decide)]

theorem start_inv (h : Inv env c) : Inv env (start env c).2 := by
  unfold start
  by_cases hinit : isInitialized c.wgserver = true
  · obtain ⟨network, firewall, happly, hnetwork, hfirewall, htidy⟩ :=
      applyRuntime_ok h.stored h.tidy hinit
    obtain ⟨s, hs⟩ := exists_find_of_isInitialized hinit
    obtain ⟨hsections, hdrafts⟩ := networkSections_mark h.stored (.text ['1'])
    rw [happly]
    change Inv env { c with
      wgserver := c.wgserver.setAll server [("enabled", .text ['1'])]
      network := network
      firewall := firewall }
    generalize hp : c.wgserver.setAll server [("enabled", .text ['1'])] = p at hsections hdrafts
    have hget : ∀ o d, o ≠ "enabled" → cursorGet p o d = cursorGet c.wgserver o d := by
      intro o d ho
      rw [← hp]
      exact cursorGet_setAll_of_not_mem (by simpa using ho)
    have hon : isEnabled p = true := by
      rw [← hp, isEnabled, cursorGet_setAll_text (t := ['1']) hs (by simp) (by simp)]
      rfl
    refine ⟨⟨fun _ => hsections.trans hnetwork, fun _ => ?_, fun hoff => ?_, fun hoff => ?_⟩, ?_, htidy⟩
    · rw [hdrafts]
      exact hfirewall
    · rw [hon] at hoff
      cases hoff
    · rw [hon] at hoff
      cases hoff
    · rw [← hp]
      refine h.stored.setMain (fun _ => ?_) ?_ ?_
      · rw [hp, isInitialized, hget _ _ (by decide), hget _ _ (by decide)]
        exact hinit
      · rw [hp, hget _ _ (by decide)]
        exact h.stored.address4
      · rw [hp, hget _ _ (by decide)]
        exact h.stored.address6
  · unfold applyRuntime
    rw [if_neg hinit]
    exact h

theorem stop_inv (h : Inv env c) : Inv env (stop c).2 := by
  have hget : ∀ o d, o ≠ "enabled" →
      cursorGet (c.wgserver.setAll server [("enabled", .text ['0'])]) o d =
        cursorGet c.wgserver o d := by
    intro o d ho
    exact cursorGet_setAll_of_not_mem (by simpa using ho)
  have hoff : isEnabled (c.wgserver.setAll server [("enabled", .text ['0'])]) ≠ true := by
    intro hon
    obtain ⟨s, hs⟩ := exists_find_of_isEnabled hon
    rw [Package.find_setAll_self, Option.map_eq_some_iff] at hs
    obtain ⟨s, hs, -⟩ := hs
    rw [isEnabled, cursorGet_setAll_text (t := ['0']) hs (by simp) (by simp)] at hon
    exact absurd hon (by decide)
  have hclear := sections_clearNetwork h.tidy
  refine ⟨⟨fun hon => absurd hon hoff, fun hon => absurd hon hoff, fun _ => ?_, fun _ => ?_⟩,
    h.stored.setMain (fun hon => absurd hon hoff) ?_ ?_, ?_⟩
  · refine Package.owned_of_replaced (p := c.network) ?_ (by simp)
    rw [List.append_nil]
    exact hclear
  · refine Package.owned_of_replaced (p := c.firewall) ?_ (by simp)
    rw [List.append_nil]
    exact sections_clearFirewall
  · rw [hget _ _ (by decide)]
    exact h.stored.address4
  · rw [hget _ _ (by decide)]
    exact h.stored.address6
  · intro e he
    exact h.tidy e (List.mem_filter.1 (hclear ▸ he)).1

theorem names_routeOptions (h : routeOptions env args = .ok options) :
    options.map Prod.fst = ["route_flag", "dest", "gateway", "metric", "mtu", "scope"] := by
  simp only [routeOptions, bind_eq_ok, elim_eq_ok] at h
  obtain ⟨flag, -, dest, -, gateway, -, scope, -, hoptions⟩ := h
  cases hoptions
  rfl

theorem routeName_written (h : routeOptions env args = .ok options) :
    routeName env (n, s.setAll options) = routeName env (n, s) := by
  have hid : (s.setAll options).options "rule_id" = s.options "rule_id" := by
    refine Section.options_setAll_of_not_mem (Section.toList_ne_of_not_mem ?_)
    rw [names_routeOptions h]
    decide
  unfold routeName
  dsimp only
  rw [hid]

theorem addRoute_inv {id : Text} (h : Inv env c)
    (hnone : c.wgserver.find ("r_".toList ++ id) = none) (hid : id ≠ [])
    (hname : ∀ e ∈ c.wgserver.ofType "route",
      routeName env e ≠ routeStart ++ id.filter fun ch => isAlnum ch || ch = '_') :
    Inv env (addRoute env c args id).2 := by
  have hn : "r_".toList ++ id ≠ server := by
    rw [← List.append_nil server]
    exact append_ne_of_head (x := 'r') (y := 'm') (by decide) (by decide) (by decide)
  refine addSection_inv h hn hnone (fun _ _ htype => ?_) (fun options hok _ e he heq => ?_)
  · exact absurd htype (by decide)
  · rw [routeName_written hok] at heq
    refine hname e he (heq.symm.trans ?_)
    have hrule : (Section.make "route" [("rule_id", .text id)]).options "rule_id" =
        some (.text id) := by
      rw [Section.make, Section.options_setAll_of_mem (v := .text id) (by simp) (by simp)]
      cases id with
      | nil => exact absurd rfl hid
      | cons ch id => rfl
    unfold routeName
    dsimp only
    rw [hrule]
    rfl

theorem setRoute_inv (h : Inv env c) : Inv env (setRoute env c args).2 := by
  unfold setRoute
  split
  · exact h
  · next name s hroute =>
    obtain ⟨hfind, htype⟩ := find_of_routeById hroute
    split
    · exact h
    · next options hok =>
      refine setSection_inv h hfind ?_ (fun hpeer => ?_) (fun _ => routeName_written hok)
      · rw [htype]
        decide
      · rw [htype] at hpeer
        exact absurd hpeer (by decide)

theorem removeRoute_inv (h : Inv env c) : Inv env (removeRoute env c args).2 := by
  unfold removeRoute
  split
  · exact h
  · next name s hroute =>
    obtain ⟨hfind, htype⟩ := find_of_routeById hroute
    refine @removeAll_inv env c [name] h fun n hn => ?_
    obtain rfl := List.mem_singleton.1 hn
    refine h.stored.ne_server hfind ?_
    rw [htype]
    decide

theorem step_inv {call : Call} (h : Inv env c) (hguard : Sound env c call) :
    Inv env ((machine env).step c call) := by
  cases call with
  | generateKey keys => exact generateKey_inv h hguard
  | setConfig args => exact setConfig_inv h hguard
  | addPeer id keys args => exact addPeer_inv h hguard.1 hguard.2
  | setPeer args => exact setPeer_inv h
  | removePeer args => exact removePeer_inv h
  | setSetting args => exact setSetting_inv h
  | start => exact start_inv h
  | stop => exact stop_inv h
  | addRoute id args => exact addRoute_inv h hguard.1 hguard.2.1 hguard.2.2
  | setRoute args => exact setRoute_inv h
  | removeRoute args => exact removeRoute_inv h

end

/-- If `generate_key` is not called while the server is enabled, then what is generated agrees with
the configuration. -/
theorem generated_sections_agree {env : Env} {c : Configs} {calls : List Call} (hc : Inv env c)
    (hcalls : (machine env).Admits (Sound env) c calls) : Agrees env ((machine env).run c calls) :=
  (Machine.invariant (I := Inv env) (fun _ _ hguard h => step_inv h hguard) hcalls hc).agrees

def shipped : Configs where
  wgserver := Package.empty.newSection server "server"
    [("initialized", .text ['0']), ("enabled", .text ['0']),
      ("address_v4", .text "10.0.0.1/24"), ("address_v6", .text "fd10:0:0:1::1/64"),
      ("port", .text "51820"), ("private_key", .text []), ("public_key", .text []),
      ("mtu", .text "1420"), ("local_access", .text ['1']), ("masq", .text ['1']),
      ("client_to_client", .text ['0'])]
  network := .empty
  firewall := .empty

theorem shipped_inv (env : Env) : Inv env shipped where
  agrees := ⟨fun h => absurd h (by decide), fun h => absurd h (by decide), fun _ => rfl, fun _ => rfl⟩
  stored := by
    have hfind : ∀ n s, shipped.wgserver.find n = some s → s.type = "server" := by
      intro n s hs
      unfold shipped at hs
      by_cases hn : n = server
      · subst hn
        rw [Package.find_newSection_self rfl] at hs
        cases hs
        exact Section.type_make
      · rw [Package.find_newSection_of_ne hn] at hs
        cases hs
    refine ⟨hfind server, fun h => absurd h (by decide), ⟨"10.0.0.1/24", by decide, by decide⟩,
      ⟨"fd10:0:0:1::1/64", by decide⟩, fun n s hs htype => ?_, fun n s _ _ hs htype => ?_⟩
    · exact absurd ((hfind n s hs).symm.trans htype) (by decide)
    · exact absurd ((hfind n s hs).symm.trans htype) (by decide)
  tidy := nofun

theorem sort_id_perm (l : List (Text × Section)) : (id l).Perm l := .rfl

def someEnv : Env where
  toLua := .decimal
  pubkey := some
  sort := fun l => l
  sort_perm := sort_id_perm

/-- A server is set up, started and given a peer. -/
theorem generated_sections_agree_peer :
    let calls : List Call := [.generateKey (some ("k", "K")), .start,
      .addPeer "0123456789abcdef" (some ("p", "P"))
        (.obj [("name", .str "phone")])]
    isEnabled ((machine someEnv).run shipped calls).wgserver = true ∧
      ((machine someEnv).run shipped calls).wgserver.get "p_0123456789abcdef"
        "client_ip_v4" = some (.text "10.0.0.2/32") ∧
      Agrees someEnv ((machine someEnv).run shipped calls) := by
  refine ⟨by decide, by decide, generated_sections_agree (shipped_inv someEnv) ⟨fun h => ?_, trivial,
    ⟨by decide, by decide⟩, trivial⟩⟩
  exact absurd h (by decide)

def firstKey : Except Result (List (Option Text × Section)) → Option Value
  | .ok (e :: _) => e.2.options "private_key"
  | _ => none

/-- A key that is generated while the server is enabled is not that of the interface. -/
theorem generated_key_not_applied :
    Inv someEnv shipped ∧ ¬Agrees someEnv ((machine someEnv).run shipped
      [.generateKey (some ("k", "K")), .start,
        .generateKey (some ("l", "L"))]) := by
  refine ⟨shipped_inv someEnv, fun h => ?_⟩
  have hnetwork := h.network (by decide)
  have hkey := congrArg firstKey hnetwork
  exact absurd hkey (by decide)

end GlXe3000.Oui.Vpn.WgServer
