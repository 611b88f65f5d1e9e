import GlXe3000.Portal.Page

/-! # The names a portal puts into dnsmasq: `portal_domains` of `gl-repeater-portal`

The host of the portal's URL and its parent go into the rules of dnsmasq. The checks of
`portal_domains` leave only letters, digits, dots and hyphens (`isName_of_mem`), so a rule is always
one line and its name cannot leave its place. They do not look at the labels: what comes out are DNS
names of two labels or more exactly when the labels of the host are in order. -/

namespace GlXe3000.Portal
open Text

/-! ## DNS names -/

/-- A label of a DNS name: letters, digits and hyphens, with no hyphen at either end. -/
structure IsLabel (l : Text) : Prop where
  nonempty : l ≠ []
  length : l.length ≤ 63
  chars : ∀ c ∈ l, isAlnum c = true ∨ c = '-'
  starts : l.head? ≠ some '-'
  ends : l.getLast? ≠ some '-'

structure IsDnsName (d : Text) : Prop where
  length : d.length ≤ 253
  labels : 2 ≤ (pieces '.' d).length
  label : ∀ l ∈ pieces '.' d, IsLabel l

/-- The labels of a host as `portal_domains` does not check them. -/
structure InOrder (host : Text) : Prop where
  labels : 2 ≤ (pieces '.' host).length
  nonempty : ∀ l ∈ pieces '.' host, l ≠ []
  length : ∀ l ∈ pieces '.' host, l.length ≤ 63
  hyphens : ∀ l ∈ pieces '.' host, l.head? ≠ some '-' ∧ l.getLast? ≠ some '-'

/-- A host that `portal_domains` does not refuse. -/
structure Accepted (url host : Text) : Prop where
  named : hostOf url = some host
  notAddress : host.all (fun c => isDigit c || c = '.') = false
  length : host.length ≤ 253
  plain : isPlainName host = true

theorem portalDomains_eq (h : Accepted url host) :
    portalDomains url = host :: ((parentOf host).filter fun parent => '.' ∈ parent).toList := by
  rw [portalDomains, h.named]
  simp only [h.notAddress, h.plain, Nat.not_lt.mpr h.length]
  rfl

theorem portalDomains_eq_nil (h : ∀ host, ¬Accepted url host) : portalDomains url = [] := by
  unfold portalDomains
  cases hhost : hostOf url with
  | none => rfl
  | some host =>
    dsimp only
    split_ifs with hnamed hrefused
    · rfl
    · rfl
    · rw [Bool.or_eq_true, decide_eq_true_eq, Bool.not_eq_true', not_or, Nat.not_lt,
        Bool.not_eq_false] at hrefused
      exact absurd ⟨hhost, Bool.eq_false_iff.mpr hnamed, hrefused.1, hrefused.2⟩ (h host)

/-! ## What the checks leave -/

/-- `[%w%.%-]`. -/
def isNameChar (c : Char) : Bool := isAlnum c || c = '.' || c = '-'

theorem isName_of_plain (h : isPlainName host = true) : ∀ c ∈ host, isNameChar c = true := by
  cases host with
  | nil => exact nofun
  | cons c t =>
    rw [isPlainName, Bool.and_eq_true, List.all_eq_true] at h
    intro d hd
    rcases List.mem_cons.mp hd with rfl | hd
    · rw [isNameChar, h.1]
      rfl
    · exact h.2 d hd

theorem parentOf_eq_some (h : parentOf host = some parent) :
    ∃ label, host = label ++ '.' :: parent ∧ '.' ∉ label := by
  obtain ⟨⟨label, rest⟩, hcut, hrest⟩ := Option.bind_eq_some_iff.mp h
  dsimp only at hrest
  split_ifs at hrest
  obtain rfl := Option.some.inj hrest
  obtain ⟨heq, hlabel⟩ := cut_eq_some.mp hcut
  exact ⟨label, heq, hlabel⟩

theorem mem_portalDomains (h : d ∈ portalDomains url) :
    ∃ host, Accepted url host ∧
      (d = host ∨ ∃ label, host = label ++ '.' :: d ∧ '.' ∉ label ∧ '.' ∈ d) := by
  by_cases hnone : ∀ host, ¬Accepted url host
  · rw [portalDomains_eq_nil hnone] at h
    cases h
  · simp only [not_forall, not_not] at hnone
    obtain ⟨host, hhost⟩ := hnone
    refine ⟨host, hhost, ?_⟩
    rw [portalDomains_eq hhost] at h
    rcases List.mem_cons.mp h with rfl | h
    · exact .inl rfl
    · obtain ⟨hparent, hdot⟩ := Option.filter_eq_some_iff.mp (Option.mem_toList.mp h)
      obtain ⟨label, heq, hlabel⟩ := parentOf_eq_some hparent
      exact .inr ⟨label, heq, hlabel, of_decide_eq_true hdot⟩

theorem isName_of_mem (h : d ∈ portalDomains url) : ∀ c ∈ d, isNameChar c = true := by
  obtain ⟨host, hhost, hd⟩ := mem_portalDomains h
  have hname := isName_of_plain hhost.plain
  rcases hd with rfl | ⟨label, rfl, -⟩
  · exact hname
  · exact fun c hc => hname c (List.mem_append_right _ (List.mem_cons_of_mem _ hc))

/-! ## Labels -/

theorem two_le_pieces (h : c ∈ t) : 2 ≤ (pieces c t).length := by
  obtain ⟨a, b, rfl⟩ := List.append_of_mem h
  have ha := List.length_pos_iff.mpr (pieces_ne_nil c a)
  have hb := List.length_pos_iff.mpr (pieces_ne_nil c b)
  rw [pieces_append_cons, List.length_append]
  omega

theorem InOrder.isDnsName (h : InOrder host) (hhost : Accepted url host) : IsDnsName host := by
  refine ⟨hhost.length, h.labels, fun l hl => ⟨h.nonempty l hl, h.length l hl, fun c hc => ?_,
    (h.hyphens l hl).1, (h.hyphens l hl).2⟩⟩
  obtain ⟨hdot, hmem⟩ := of_mem_pieces hl
  have hname := isName_of_plain hhost.plain c (hmem c hc)
  rw [isNameChar, Bool.or_eq_true, Bool.or_eq_true, decide_eq_true_eq, decide_eq_true_eq] at hname
  rcases hname with (halnum | rfl) | hhyphen
  · exact .inl halnum
  · exact absurd hc hdot
  · exact .inr hhyphen

theorem IsDnsName.inOrder (h : IsDnsName host) : InOrder host :=
  ⟨h.labels, fun l hl => (h.label l hl).nonempty, fun l hl => (h.label l hl).length,
    fun l hl => ⟨(h.label l hl).starts, (h.label l hl).ends⟩⟩

theorem IsDnsName.parent {label d : Text} (h : IsDnsName (label ++ '.' :: d)) (hlabel : '.' ∉ label)
    (hdot : '.' ∈ d) : IsDnsName d := by
  refine ⟨?_, two_le_pieces hdot, fun l hl => h.label l ?_⟩
  · have hlength := h.length
    rw [List.length_append, List.length_cons] at hlength
    omega
  · rw [pieces_append hlabel]
    exact List.mem_cons_of_mem _ hl

/-! ## Rules -/

structure SafeRules (url : Text) : Prop where
  domains : ∀ d ∈ portalDomains url, IsDnsName d
  rebind : ∀ line ∈ rebindLines url,
    ∃ d, IsDnsName d ∧ line = "rebind-domain-ok=/".toList ++ d ++ ['/']
  forward : ∀ dns, ∀ line ∈ forwardLines url dns, ∃ d server, IsDnsName d ∧ isServer server = true ∧
    line = "server=/".toList ++ d ++ '/' :: server

theorem SafeRules.of_domains {url : Text} (h : ∀ d ∈ portalDomains url, IsDnsName d) :
    SafeRules url := by
  refine ⟨h, fun line hline => ?_, fun dns line hline => ?_⟩
  · obtain ⟨d, hd, rfl⟩ := List.mem_map.mp hline
    exact ⟨d, h d hd, rfl⟩
  · obtain ⟨d, hd, hline⟩ := List.mem_flatMap.mp hline
    obtain ⟨server, hserver, rfl⟩ := List.mem_map.mp hline
    exact ⟨d, server, h d hd, (List.mem_filter.mp hserver).2, rfl⟩

/-- The rules from a URL are safe if and only if its host, unless it is refused, has its labels in
order; in any case a name keeps to the characters of names. -/
theorem safeRules_iff (url : Text) :
    (SafeRules url ↔ ∀ host, Accepted url host → InOrder host) ∧
      ∀ d ∈ portalDomains url, ∀ c ∈ d, isNameChar c = true := by
  refine ⟨⟨fun h host hhost => ?_, fun h => .of_domains fun d hd => ?_⟩, fun d => isName_of_mem⟩
  · refine (h.domains host ?_).inOrder
    rw [portalDomains_eq hhost]
    exact List.mem_cons_self
  · obtain ⟨host, hhost, hd⟩ := mem_portalDomains hd
    have hname := (h host hhost).isDnsName hhost
    rcases hd with rfl | ⟨label, rfl, hlabel, hdot⟩
    · exact hname
    · exact hname.parent hlabel hdot

/-- A redirect to a host of one label, and one to a host with an empty label. -/
theorem top_level_domain_reaches_dnsmasq :
    rebindLines (extractPortalUrl "http://captive.apple.com/hotspot-detect.html"
        ⟨302, some "http://com/", none, []⟩) = ["rebind-domain-ok=/com/"] ∧
      forwardLines (extractPortalUrl "http://captive.apple.com/hotspot-detect.html"
          ⟨302, some "http://a..com/", none, []⟩) ["10.0.0.1"] =
        ["server=/a..com/10.0.0.1", "server=/.com/10.0.0.1"] ∧
      ¬IsDnsName "com" ∧ ¬IsDnsName ".com" := by
  refine ⟨by decide, by decide, fun h => absurd h.labels (by decide), fun h => ?_⟩
  exact (h.label [] (by decide)).nonempty rfl

end GlXe3000.Portal
