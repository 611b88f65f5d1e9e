import GlXe3000.Oui.Subnet.Config

/-! # The access of a subnet to the internet

The mode is not stored. It is read off the first rule and the first forwarding that lead from the
network to `wan`, and set by writing or deleting these two, whoever made them. So it is read back as
it was set, with the rest of the firewall unchanged, if there is no second one in the way and the
rule is one that was made for this purpose. For the LAN the mode is always reported as 0. -/

namespace GlXe3000.Oui.Subnet
open Text

def getWanAccessModeState (p : Package) (network : Text) : Nat :=
  if network = "lan" then 0
  else if (findSectionBySrc p "rule" network "wan").isSome then 1
  else if (findSectionBySrc p "forwarding" network "wan").isNone then 2
  else 0

/-- The name of a subnet. -/
def Name : Type := { n : Text // n ∈ fixedSubnets ∨ isCustomName n = true }

def Leads (p : Package) (type network n : Text) : Prop :=
  p.typeOf n = some type ∧ p.get n "src" = some (.text network) ∧
    p.get n "dest" = some (.text "wan")

def blockName (network : Text) : Text := "Block-".toList ++ network ++ "-private-wan".toList

/-- The section was made for the mode of the network: by its own name, as the forwarding, which the
board may have made, or by the name that the rule is given. -/
def Generated (p : Package) (network n : Text) : Prop :=
  n = blockId network ∨ n = forwardingId network ∨ Leads p "forwarding" network n ∨
    p.typeOf n = some "rule" ∧ p.get n "name" = some (.text (blockName network))

/-- The rule that `set_wan_access_mode` works on. -/
def blockOf (p : Package) (network : Text) : Text :=
  (findSectionBySrc p "rule" network "wan").getD (blockId network)

/-- The forwarding that `set_wan_access_mode` works on. -/
def forwardOf (p : Package) (network : Text) : Text :=
  (findSectionBySrc p "forwarding" network "wan").getD (forwardingId network)

structure Settable (p : Package) (network : Text) (mode : Nat) : Prop where
  lan : network = "lan" → mode = 0
  rules : network ≠ "lan" → mode ≠ 1 → ∀ n, Leads p "rule" network n →
    n = blockOf p network ∨ n = forwardOf p network
  forwardings : network ≠ "lan" → mode = 2 → ∀ n, Leads p "forwarding" network n →
    n = blockOf p network ∨ n = forwardOf p network
  apart : network ≠ "lan" → mode = 0 → blockOf p network ≠ forwardOf p network ∨
    ∃ n, n ≠ blockOf p network ∧ Leads p "forwarding" network n

section
variable {p q : Package} {network n type : Text} {options : List (String × Value)}

theorem leads_of_find (h : findSectionBySrc p type network "wan" = some n) :
    Leads p type network n := by
  obtain ⟨⟨m, s⟩, hfind, rfl⟩ := Option.map_eq_some_iff.1 h
  obtain ⟨hs, htype⟩ := Package.mem_ofType_iff.1 (List.mem_of_find?_eq_some hfind)
  have hpred := List.find?_some hfind
  simp only [Bool.and_eq_true, decide_eq_true_eq] at hpred
  refine ⟨?_, ?_, ?_⟩
  · rw [Package.typeOf, hs, Option.map_some, htype]
  · rw [Package.get, hs]
    exact hpred.1
  · rw [Package.get, hs]
    exact hpred.2

theorem exists_leads_iff :
    (findSectionBySrc p type network "wan").isSome = true ↔ ∃ n, Leads p type network n := by
  constructor
  · intro h
    obtain ⟨n, hn⟩ := Option.isSome_iff_exists.1 h
    exact ⟨n, leads_of_find hn⟩
  · rintro ⟨n, htype, hsrc, hdest⟩
    obtain ⟨s, hs⟩ := Package.typeOf_eq_some_iff.1 htype
    have hfind := (Package.mem_ofType_iff.1 hs).1
    rw [Package.get, hfind] at hsrc hdest
    rw [findSectionBySrc, Option.isSome_map, List.find?_isSome]
    exact ⟨(n, s), hs, by simpa using ⟨hsrc, hdest⟩⟩

theorem leads_congr (h : q.find n = p.find n) :
    Leads q type network n ↔ Leads p type network n := by
  unfold Leads Package.typeOf Package.get
  rw [h]

theorem leads_newSection (hn : network ≠ []) (hnodup : (options.map Prod.fst).Nodup)
    (hsrc : ("src", .text network) ∈ options) (hdest : ("dest", .text "wan") ∈ options) :
    Leads (p.newSection n type options) type network n := by
  have hsome : ((p.setType n type).typeOf n).isSome := by
    rw [Package.typeOf_setType_self]
    rfl
  refine ⟨Package.typeOf_newSection_self, ?_, ?_⟩
  · rw [Package.newSection, Package.get_setAll_of_mem hsome hnodup hsrc]
    exact Value.stored_text hn
  · exact Package.get_setAll_of_mem hsome hnodup hdest

theorem not_leads_delete : ¬Leads (p.delete n) type network n := by
  rintro ⟨htype, -⟩
  rw [Package.typeOf_delete_self] at htype
  cases htype

theorem generated_blockOf_iff : Generated p network (blockOf p network) ↔
    ∀ n, findSectionBySrc p "rule" network "wan" = some n → Generated p network n := by
  unfold blockOf
  cases findSectionBySrc p "rule" network "wan" with
  | none => exact ⟨fun _ _ h => (nomatch h), fun _ => .inl rfl⟩
  | some m => exact ⟨fun h n hn => Option.some.inj hn ▸ h, fun h => h m rfl⟩

theorem generated_forwardOf : Generated p network (forwardOf p network) := by
  unfold forwardOf
  cases hfind : findSectionBySrc p "forwarding" network "wan" with
  | none => exact .inr (.inl rfl)
  | some m => exact .inr (.inr (.inl (leads_of_find hfind)))

/-! ## What is written -/

def forwardOptions (network : Text) : List (String × Value) :=
  [("src", .text network), ("dest", .text "wan")]

def blockOptions (network : Text) : List (String × Value) :=
  [("name", .text (blockName network)), ("src", .text network), ("dest", .text "wan"),
    ("dest_ip", .list ["10.0.0.0/8", "172.16.0.0/12", "192.168.0.0/16"]),
    ("target", .text "REJECT")]

def opened (p : Package) (network : Text) : Package :=
  p.newSection (forwardOf p network) "forwarding" (forwardOptions network)

theorem setWanAccessMode_full :
    setWanAccessMode p network 0 = (opened p network).delete (blockOf p network) := rfl

theorem setWanAccessMode_block : setWanAccessMode p network 1 =
    (opened p network).newSection (blockOf p network) "rule" (blockOptions network) := rfl

theorem setWanAccessMode_cut : setWanAccessMode p network 2 =
    (p.delete (forwardOf p network)).delete (blockOf p network) := rfl

theorem find_setWanAccessMode (mode : Fin 3) (hb : n ≠ blockOf p network)
    (hf : n ≠ forwardOf p network) :
    (setWanAccessMode p network (mode : Nat)).find n = p.find n := by
  have hopened : (opened p network).find n = p.find n := Package.find_newSection_of_ne hf
  match mode with
  | 0 => exact (Package.find_delete_of_ne hb).trans hopened
  | 1 => exact (Package.find_newSection_of_ne hb).trans hopened
  | 2 => exact (Package.find_delete_of_ne hb).trans (Package.find_delete_of_ne hf)

theorem others_kept_iff (mode : Fin 3) :
    (∀ n, ¬Generated p network n → (setWanAccessMode p network (mode : Nat)).find n = p.find n) ↔
      Generated p network (blockOf p network) := by
  constructor
  · intro h
    by_contra hforeign
    have hkept := h _ hforeign
    obtain ⟨m, hm⟩ : ∃ m, findSectionBySrc p "rule" network "wan" = some m := by
      by_contra hnone
      exact hforeign (generated_blockOf_iff.2 fun m hm => absurd ⟨m, hm⟩ hnone)
    have hblock : blockOf p network = m := by rw [blockOf, hm, Option.getD_some]
    rw [hblock] at hkept hforeign
    obtain ⟨htype, -⟩ := leads_of_find hm
    have hgone : ∀ q : Package, (q.delete m).find m ≠ p.find m := by
      intro q heq
      rw [Package.find_delete_self] at heq
      rw [Package.typeOf, ← heq] at htype
      cases htype
    fin_cases mode
    · exact hgone (opened p network) (hblock ▸ hkept)
    · have hsome : (((opened p network).setType m "rule").typeOf m).isSome := by
        rw [Package.typeOf_setType_self]
        rfl
      have hname : ((opened p network).newSection m "rule" (blockOptions network)).get m
          "name" = some (.text (blockName network)) :=
        Package.get_setAll_of_mem hsome (by simp) List.mem_cons_self
      have hsame : ((opened p network).newSection m "rule" (blockOptions network)).find m =
          p.find m := hblock ▸ hkept
      rw [Package.get, hsame] at hname
      exact hforeign (.inr (.inr (.inr ⟨htype, hname⟩)))
    · exact hgone (p.delete (forwardOf p network)) (hblock ▸ hkept)
  · intro hblock n hn
    refine find_setWanAccessMode mode ?_ ?_
    · rintro rfl
      exact hn hblock
    · rintro rfl
      exact hn generated_forwardOf

/-! ## What is read back -/

theorem state_iff (hlan : network ≠ "lan") :
    (getWanAccessModeState p network = 0 ↔
      (¬∃ n, Leads p "rule" network n) ∧ ∃ n, Leads p "forwarding" network n) ∧
    (getWanAccessModeState p network = 2 ↔
      (¬∃ n, Leads p "rule" network n) ∧ ¬∃ n, Leads p "forwarding" network n) := by
  rw [getWanAccessModeState, if_neg hlan, ← exists_leads_iff, ← exists_leads_iff]
  cases findSectionBySrc p "rule" network "wan" <;>
    cases findSectionBySrc p "forwarding" network "wan" <;> simp

theorem not_exists_iff {P : Text → Prop} :
    (¬∃ n, P n ∧ n ≠ b ∧ n ≠ f) ↔ ∀ n, P n → n = b ∨ n = f := by
  constructor
  · intro h n hn
    by_contra hne
    exact h ⟨n, hn, fun hb => hne (.inl hb), fun hf => hne (.inr hf)⟩
  · rintro h ⟨n, hn, hb, hf⟩
    exact (h n hn).elim hb hf

theorem mode_full_iff (hn : network ≠ []) (hlan : network ≠ "lan") :
    getWanAccessModeState (setWanAccessMode p network 0) network = 0 ↔ Settable p network 0 := by
  have hother : ∀ n, n ≠ blockOf p network → n ≠ forwardOf p network →
      (setWanAccessMode p network 0).find n = p.find n := fun n => find_setWanAccessMode 0
  have hrule : ∀ n, Leads (setWanAccessMode p network 0) "rule" network n ↔
      Leads p "rule" network n ∧ n ≠ blockOf p network ∧ n ≠ forwardOf p network := by
    intro n
    by_cases hb : n = blockOf p network
    · subst hb
      exact ⟨fun h => absurd h not_leads_delete, fun h => absurd rfl h.2.1⟩
    by_cases hf : n = forwardOf p network
    · subst hf
      refine ⟨fun h => ?_, fun h => absurd rfl h.2.2⟩
      have htype := h.1
      rw [setWanAccessMode_full, Package.typeOf_delete_of_ne hb, opened,
        Package.typeOf_newSection_self] at htype
      exact absurd htype (by decide)
    · rw [leads_congr (hother n hb hf)]
      exact ⟨fun h => ⟨h, hb, hf⟩, And.left⟩
  have hforward : (∃ n, Leads (setWanAccessMode p network 0) "forwarding" network n) ↔
      blockOf p network ≠ forwardOf p network ∨
        ∃ n, n ≠ blockOf p network ∧ Leads p "forwarding" network n := by
    constructor
    · rintro ⟨n, h⟩
      by_cases hb : n = blockOf p network
      · subst hb
        exact absurd h not_leads_delete
      by_cases hf : n = forwardOf p network
      · exact .inl fun heq => hb (hf.trans heq.symm)
      · exact .inr ⟨n, hb, (leads_congr (hother n hb hf)).1 h⟩
    · have hown (hne : forwardOf p network ≠ blockOf p network) :
          Leads (setWanAccessMode p network 0) "forwarding" network (forwardOf p network) := by
        rw [setWanAccessMode_full, leads_congr (Package.find_delete_of_ne hne)]
        exact leads_newSection hn (by simp [forwardOptions]) List.mem_cons_self
          (List.mem_cons_of_mem _ List.mem_cons_self)
      rintro (hne | ⟨n, hb, h⟩)
      · exact ⟨_, hown hne.symm⟩
      · by_cases hf : n = forwardOf p network
        · exact ⟨_, hown (hf ▸ hb)⟩
        · exact ⟨n, (leads_congr (hother n hb hf)).2 h⟩
  rw [(state_iff hlan).1, hforward]
  simp only [hrule, not_exists_iff]
  constructor
  · rintro ⟨hr, hf⟩
    exact ⟨fun _ => rfl, fun _ _ => hr, fun _ h => (nomatch h), fun _ _ => hf⟩
  · intro h
    exact ⟨h.rules hlan Nat.zero_ne_one, h.apart hlan rfl⟩

theorem mode_block (hn : network ≠ []) (hlan : network ≠ "lan") :
    getWanAccessModeState (setWanAccessMode p network 1) network = 1 := by
  have hrule : Leads (setWanAccessMode p network 1) "rule" network (blockOf p network) := by
    rw [setWanAccessMode_block]
    exact leads_newSection hn (by simp [blockOptions]) (by simp [blockOptions])
      (by simp [blockOptions])
  unfold getWanAccessModeState
  rw [if_neg hlan, if_pos (exists_leads_iff.2 ⟨_, hrule⟩)]

theorem mode_cut_iff (hlan : network ≠ "lan") :
    getWanAccessModeState (setWanAccessMode p network 2) network = 2 ↔ Settable p network 2 := by
  have hleads : ∀ type n, Leads (setWanAccessMode p network 2) type network n ↔
      Leads p type network n ∧ n ≠ blockOf p network ∧ n ≠ forwardOf p network := by
    intro type n
    by_cases hb : n = blockOf p network
    · subst hb
      exact ⟨fun h => absurd h not_leads_delete, fun h => absurd rfl h.2.1⟩
    rw [setWanAccessMode_cut, leads_congr (Package.find_delete_of_ne hb)]
    by_cases hf : n = forwardOf p network
    · subst hf
      exact ⟨fun h => absurd h not_leads_delete, fun h => absurd rfl h.2.2⟩
    · rw [leads_congr (Package.find_delete_of_ne hf)]
      exact ⟨fun h => ⟨h, hb, hf⟩, And.left⟩
  rw [(state_iff hlan).2]
  simp only [hleads, not_exists_iff]
  constructor
  · rintro ⟨hr, hf⟩
    exact ⟨fun h => absurd h hlan, fun _ _ => hr, fun _ _ => hf, fun _ h => (nomatch h)⟩
  · intro h
    exact ⟨h.rules hlan (by decide), h.forwardings hlan rfl⟩

theorem Name.ne_nil (network : Name) : network.1 ≠ [] := by
  intro h
  have hprop := network.2
  rw [h] at hprop
  exact absurd hprop (by decide)

end

/-- The mode is read back as it was set, and what was not made for it is unchanged, if and only if
nothing else leads from the network to the internet and the rule, if there is one, is its own. -/
theorem wan_access_mode_iff (p : Package) (network : Name) (mode : Fin 3) :
    (getWanAccessModeState (setWanAccessMode p network.1 (mode : Nat)) network.1 = mode ∧
        ∀ n, ¬Generated p network.1 n →
          (setWanAccessMode p network.1 (mode : Nat)).find n = p.find n) ↔
      Settable p network.1 mode ∧ Generated p network.1 (blockOf p network.1) := by
  rw [others_kept_iff mode]
  refine and_congr_left fun _ => ?_
  by_cases hlan : network.1 = "lan"
  · rw [getWanAccessModeState, if_pos hlan]
    refine ⟨fun h => ⟨fun _ => h.symm, ?_, ?_, ?_⟩, fun h => (h.lan hlan).symm⟩
    all_goals exact fun hne => absurd hlan hne
  · match mode with
    | 0 => exact mode_full_iff network.ne_nil hlan
    | 1 =>
      refine ⟨fun _ => ?_, fun _ => mode_block network.ne_nil hlan⟩
      exact ⟨fun h => absurd h hlan, fun _ h => absurd rfl h, fun _ h => (nomatch h),
        fun _ h => (nomatch h)⟩
    | 2 => exact mode_cut_iff hlan

def guestRule : Package :=
  Package.empty.newSection "cfg01" "rule"
    [("name", .text "Printer"), ("src", .text "guest"), ("dest", .text "wan"),
      ("target", .text "ACCEPT")]

/-- Full access for the guest network deletes the rule of the user, and for the LAN no access is
reported as full access. -/
theorem user_rule_deleted :
    (guestRule.find "cfg01").isSome = true ∧
      ¬Generated guestRule "guest" "cfg01" ∧
      ((setWanAccessMode guestRule "guest" 0).find "cfg01").isNone = true ∧
      getWanAccessModeState (setWanAccessMode Package.empty "lan" 2) "lan" = 0 := by
  refine ⟨by decide, ?_, by decide, by decide⟩
  rintro (h | h | h | h)
  · exact absurd h (by decide)
  · exact absurd h (by decide)
  · exact absurd h.1 (by decide)
  · exact absurd h.2 (by decide)

end GlXe3000.Oui.Subnet
