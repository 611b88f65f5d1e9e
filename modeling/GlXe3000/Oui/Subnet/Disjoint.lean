import GlXe3000.Lib.Machine
import GlXe3000.Oui.Subnet.Ranges

/-! # Subnets stay disjoint

Every method changes one network, and if that one is enabled with an address then its range has been
checked or is the one it was enabled with before. The exception is a network that is enabled again
without an address in the arguments: its range is not checked. An address with a prefix length is
not seen by the check at all. -/

namespace GlXe3000.Oui.Subnet
open Text

section
variable {env : Env} {c : Configs} {args : Json} {n : Text} {p' : Package}

/-! ## The methods -/

/-- An edit of a subnet: of its address, if one is given, and then of its name and of whether it is
enabled. -/
theorem Change.of_edit {p₁ : Package} (hsub : IsSubnet c.network n) (hplain : PlainAt c.network n)
    (hp₁ : editIf c given edit = .ok p₁) (haddress : edit = .ok p₁ → AddressEdit env c.network p₁ n)
    (hedits : p₁.Edits p' n ["display_name", "disabled"])
    (hlan : n = "lan" → p'.get n "disabled" = p₁.get n "disabled")
    (henabled : given = false → Enabled p' n → Enabled c.network n) :
    Change env c.network p' n := by
  have hfirst : c.network.Edits p₁ n addressOptions ∧ PlainAt p₁ n ∧
      ∀ a k, Subnet.range p₁ n = some (a, k) →
        (given = false ∧ Subnet.range c.network n = some (a, k)) ∨ Checked env c.network n a k := by
    unfold editIf at hp₁
    cases given with
    | true =>
      have h := haddress hp₁
      exact ⟨h.edits, h.plain, fun a k hrange => .inr (h.range a k hrange)⟩
    | false =>
      cases hp₁
      exact ⟨.refl .., hplain, fun a k hrange => .inl ⟨rfl, hrange⟩⟩
  obtain ⟨hedits₁, hplain₁, hrange₁⟩ := hfirst
  have htype : ∀ m, p'.typeOf m = c.network.typeOf m :=
    fun m => (hedits.typeOf m).trans (hedits₁.typeOf m)
  have hip : p'.get n "ipaddr" = p₁.get n "ipaddr" := hedits.get (.inr (by decide))
  have hmask : p'.get n "netmask" = p₁.get n "netmask" :=
    hedits.get (.inr (by decide))
  constructor
  case others =>
    intro m hne hm
    exact ⟨(isSubnet_congr (htype m)).1 hm,
      fun o => (hedits.get (.inl hne)).trans (hedits₁.get (.inl hne))⟩
  case lan =>
    by_cases hn : n = "lan"
    · subst hn
      exact (hlan rfl).trans (hedits₁.get (.inr (by decide)))
    · exact (hedits.get (.inl (Ne.symm hn))).trans (hedits₁.get (.inl (Ne.symm hn)))
  case interfaces =>
    intro m type _ hm
    exact .inl ((htype m).symm.trans hm)
  case plain => exact fun _ => hplain₁.congr hip hmask
  case range =>
    intro _ hen a k hrange
    obtain ⟨hgiven, hrange⟩ | hchecked := hrange₁ a k ((range_congr hip hmask).symm.trans hrange)
    · exact .inl ⟨hsub, henabled hgiven hen, hrange⟩
    · exact .inr hchecked

theorem setEnabled_edits {p : Package} : p.Edits (setEnabled args p n) n ["disabled"] := by
  unfold setEnabled
  split
  · exact .refl ..
  · exact (Package.Edits.refl ..).set (by decide) _

theorem notDisabled_setEnabled {p : Package} (htyped : (p.typeOf n).isSome)
    (h : notDisabled (setEnabled args p n) n = true) :
    notDisabled p n = true ∨ Json.truthy (arg args "enabled") = true := by
  unfold setEnabled at h
  cases harg : arg args "enabled" with
  | none =>
    rw [harg] at h
    exact .inl h
  | some enabled =>
    rw [harg] at h
    refine .inr ?_
    by_contra hnot
    rw [notDisabled, Package.get_set_self htyped, disabledValue, if_neg hnot] at h
    cases h

theorem mem_fixedSubnets_of_lookup (h : networkMap.lookup t = some n) : n ∈ fixedSubnets := by
  simp only [networkMap, List.lookup] at h
  split at h
  · cases h; decide
  · split at h
    · cases h; decide
    · split at h
      · cases h; decide
      · cases h

end

/-! ## Calls -/

/-- The network that the arguments of `set_fixed_subnet` name. -/
def fixedTarget (args : Json) : Option Text :=
  (Json.orElse (arg args "display_name") ((arg args "name").getD .null)).asText.bind
    fun n => networkMap.lookup n

def Call.target (call : Call) (c : Configs) : Option Text :=
  match call.method with
  | .setFixedSubnet => fixedTarget call.args
  | .updateCustomSubnet => resolveDisplayNameToNetwork c.network (arg call.args "name")
  | .addCustomSubnet | .removeCustomSubnet => none

def Call.givesRange (call : Call) : Bool :=
  match call.method with
  | .setFixedSubnet => (arg call.args "ip").isSome || (arg call.args "netmask").isSome
  | .updateCustomSubnet => (arg call.args "ip").isSome || (arg call.args "gateway").isSome ||
      (arg call.args "netmask").isSome
  | .addCustomSubnet | .removeCustomSubnet => true

def EnablesWithRange (c : Configs) (call : Call) : Prop :=
  ∀ n, call.target c = some n → notDisabled c.network n = false →
    Json.truthy (arg call.args "enabled") = true → call.givesRange = true

section
variable {env : Env} {c : Configs} {args : Json} {n : Text} {p' : Package}

theorem EnablesWithRange.notDisabled {call : Call} {p : Package} (h : EnablesWithRange c call)
    (htarget : call.target c = some n) (hgiven : call.givesRange = false)
    (htyped : (p.typeOf n).isSome)
    (hsame : p.get n "disabled" = c.network.get n "disabled")
    (hen : notDisabled (setEnabled call.args p n) n = true) : notDisabled c.network n = true := by
  obtain hen | hen := notDisabled_setEnabled htyped hen
  · exact (notDisabled_congr hsame).symm.trans hen
  · by_contra hnot
    have hrange := h n htarget (Bool.eq_false_of_not_eq_true hnot) hen
    exact absurd (hgiven.symm.trans hrange) (by decide)

theorem fixedNetwork_change (hplain : Plain c.network)
    (hguard : EnablesWithRange c ⟨.setFixedSubnet, args, env⟩)
    (h : fixedNetwork env c args = .ok (n, p')) : Change env c.network p' n := by
  simp only [fixedNetwork, bind_eq_ok, check_eq_ok] at h
  obtain ⟨network, hname, -, hfind, p₁, hp₁, hp⟩ := h
  cases hp
  have htarget : fixedTarget args = some n := elim_eq_ok.1 hname
  have htyped : (c.network.typeOf n).isSome := by
    rw [Package.typeOf, Option.isSome_map]
    exact hfind
  have hsub : IsSubnet c.network n := by
    obtain ⟨t, -, ht⟩ := Option.bind_eq_some_iff.1 htarget
    exact .inl ⟨mem_fixedSubnets_of_lookup ht, htyped⟩
  have hplain := hplain.networks n hsub
  refine .of_edit hsub hplain hp₁ (setFixedAddress_edit hplain htyped) ?_ ?_ ?_
  · split_ifs
    · exact .refl ..
    · exact setEnabled_edits.mono (by decide)
  · intro hlan
    rw [if_pos hlan]
  · intro hgiven hen
    rw [hgiven] at hp₁
    cases hp₁
    split_ifs at hen with hlan
    · exact .inl hlan
    · obtain hlan | hen := hen
      · exact .inl hlan
      · exact .inr (hguard.notDisabled htarget hgiven htyped rfl hen)

theorem rename_edits {p : Package} (h : rename env c args p n = .ok p') :
    p.Edits p' n ["display_name"] := by
  unfold rename at h
  split at h
  · cases h
    exact .refl ..
  · split_ifs at h
    · simp only [bind_eq_ok, check_eq_ok] at h
      obtain ⟨-, -, v, -, hp⟩ := h
      cases hp
      exact (Package.Edits.refl ..).set (by decide) _
    · cases h
      exact .refl ..

theorem isSubnet_of_resolve (h : resolveDisplayNameToNetwork p name = some n) :
    n ∈ fixedSubnets ∨ IsSubnet p n := by
  unfold resolveDisplayNameToNetwork at h
  split at h
  · cases h
  · cases h
  · next name' _ _ =>
    cases hmap : networkMap.lookup name' with
    | some m =>
      rw [hmap] at h
      cases h
      exact .inl (mem_fixedSubnets_of_lookup hmap)
    | none =>
      rw [hmap] at h
      exact .inr (mem_getAllSubnetNetworks.1 (List.mem_of_find?_eq_some h))

theorem not_fixed_of_isCustomName (h : isCustomName n = true) : n ∉ fixedSubnets := by
  intro hn
  simp only [fixedSubnets, List.mem_cons, List.not_mem_nil, or_false] at hn
  obtain rfl | rfl | rfl := hn <;> cases h

theorem customNetwork_change (hplain : Plain c.network)
    (hguard : EnablesWithRange c ⟨.updateCustomSubnet, args, env⟩)
    (h : customNetwork env c args = .ok (n, p')) : Change env c.network p' n := by
  simp only [customNetwork, bind_eq_ok, check_eq_ok] at h
  obtain ⟨network, hname, -, hcustom, -, -, p₁, hp₁, p₂, hp₂, hp⟩ := h
  cases hp
  have htarget := elim_eq_ok.1 hname
  have hfixed := not_fixed_of_isCustomName hcustom
  have hsub : IsSubnet c.network n := (isSubnet_of_resolve htarget).resolve_left hfixed
  have htyped := isSome_of_isSubnet hsub
  have hrename := rename_edits hp₂
  refine .of_edit hsub (hplain.networks n hsub) hp₁ (setCustomAddress_edit htyped)
    ((hrename.mono (by decide)).trans (setEnabled_edits.mono (by decide))) ?_ ?_
  · rintro rfl
    exact absurd (by decide) hfixed
  · intro hgiven hen
    rw [hgiven] at hp₁
    cases hp₁
    obtain rfl | hen := hen
    · exact absurd (by decide) hfixed
    · exact .inr (hguard.notDisabled htarget hgiven ((hrename.typeOf n).symm ▸ htyped)
        (hrename.get (.inr (by decide))) hen)

/-! ### New and removed subnets -/

theorem isCustomName_append {id rest : Text} (h : '_' ∈ rest) :
    isCustomName ("vlan".toList ++ id ++ rest) = false := by
  have hnot : isNumber (id ++ rest) = false := by
    rw [isNumber, Bool.and_eq_false_iff, List.all_eq_false]
    exact .inr ⟨'_', List.mem_append_right _ h, by decide⟩
  rw [isCustomName, vlanDigits, List.append_assoc, strip_append]
  simp [hnot]

theorem addDevices_of_ne {m id : Text} (hdev : m ≠ n ++ "_dev".toList) (hbr : m ≠ n ++ "_br".toList) :
    (addDevices c n id).typeOf m = c.network.typeOf m ∧
      ∀ o, (addDevices c n id).get m o = c.network.get m o := by
  unfold addDevices
  constructor
  · rw [Package.typeOf_setAll, Package.typeOf_setType_of_ne hbr, Package.typeOf_setAll,
      Package.typeOf_setType_of_ne hdev]
  · intro o
    rw [Package.get_setAll_of_ne hbr, Package.get_setType, Package.get_setAll_of_ne hdev,
      Package.get_setType]

theorem ne_append_of_subnet {m id rest : Text} (h : m ∈ fixedSubnets ∨ isCustomName m = true)
    (hrest : '_' ∈ rest) : m ≠ "vlan".toList ++ id ++ rest := by
  rintro rfl
  obtain hfixed | hcustom := h
  · simp [fixedSubnets] at hfixed
  · rw [isCustomName_append hrest] at hcustom
    cases hcustom

theorem Plain.plainAt_of_custom (h : Plain p) (hn : isCustomName n = true) : PlainAt p n := by
  cases htype : p.typeOf n with
  | none =>
    constructor
    · rw [Package.get_of_typeOf_eq_none htype]
      exact nofun
    · rw [Package.get_of_typeOf_eq_none htype]
      exact nofun
  | some type =>
    obtain rfl := h.interfaces n type hn htype
    exact h.networks n (.inr ⟨hn, htype⟩)

theorem Plain.isSubnet_of_range (h : Plain p)
    (hn : isCustomName n = true) (hr : range p n = some r) : IsSubnet p n := by
  cases htype : p.typeOf n with
  | none =>
    rw [(h.plainAt_of_custom hn).range_eq, Package.get_of_typeOf_eq_none htype] at hr
    cases hr
  | some type =>
    obtain rfl := h.interfaces n type hn htype
    exact .inr ⟨hn, htype⟩

theorem addAddress_edits {p : Package} : p.Edits (addAddress args p n) n addressOptions := by
  unfold addAddress
  split
  · exact (((Package.Edits.refl ..).set (by decide) _).set (by decide) _).set (by decide) _
  · exact (Package.Edits.refl ..).set (by decide) _

/-- What a new subnet changes, before its name and whether it is enabled are set. -/
structure Interface (args : Json) (p p' : Package) (n : Text) : Prop where
  typeOf : p'.typeOf n = some "interface".toList
  others : ∀ m, m ≠ n → m ∈ fixedSubnets ∨ isCustomName m = true →
    p'.typeOf m = p.typeOf m ∧ ∀ o, p'.get m o = p.get m o
  disabled : isCustomName n = true → p'.get n "disabled" = p.get n "disabled"
  noAddress : addedIp args = none → isCustomName n = true →
    p'.get n "ipaddr" = p.get n "ipaddr" ∧
      p'.get n "netmask" = p.get n "netmask"
  address : ∀ ip, addedIp args = some ip → Stores p' n ip (addedNetmask args)

theorem addInterface_spec {id : Text} (hn : n = "vlan".toList ++ id)
    (hip : (addedIp args).all validateGateway = true)
    (hmask : (addedIp args).isNone = true ∨ validateNetmask (addedNetmask args) = true) :
    Interface args c.network (addInterface c args n id) n := by
  have hapart : ∀ m, m ∈ fixedSubnets ∨ isCustomName m = true →
      (addDevices c n id).typeOf m = c.network.typeOf m ∧
        ∀ o, (addDevices c n id).get m o = c.network.get m o := by
    intro m hm
    subst hn
    exact addDevices_of_ne (ne_append_of_subnet hm (by decide)) (ne_append_of_subnet hm (by decide))
  unfold addInterface
  generalize hq : ((addDevices c n id).setType n "interface".toList).set n "device".toList
    (.text ("br-vlan".toList ++ id)) = q
  have hqtype : q.typeOf n = some "interface".toList := by
    rw [← hq, Package.typeOf_set, Package.typeOf_setType_self]
  have hqget : ∀ m o, o ≠ "device".toList → q.get m o = (addDevices c n id).get m o := by
    intro m o ho
    rw [← hq, Package.get_set_of_ne (.inr ho), Package.get_setType]
  have hedits : q.Edits (addAddress args q n) n addressOptions := addAddress_edits
  constructor
  case typeOf => exact (hedits.typeOf n).trans hqtype
  case others =>
    intro m hne hm
    obtain ⟨htype, hget⟩ := hapart m hm
    constructor
    · rw [hedits.typeOf, ← hq, Package.typeOf_set, Package.typeOf_setType_of_ne hne, htype]
    · intro o
      rw [hedits.get (.inl hne), ← hq, Package.get_set_of_ne (.inl hne), Package.get_setType, hget]
  case disabled =>
    intro hcustom
    rw [hedits.get (.inr (by decide)), hqget _ _ (by decide), (hapart n (.inr hcustom)).2]
  case noAddress =>
    intro hnone hcustom
    unfold addAddress
    rw [hnone]
    constructor
    · rw [Package.get_set_of_ne (.inr (by decide)), hqget _ _ (by decide),
        (hapart n (.inr hcustom)).2]
    · rw [Package.get_set_of_ne (.inr (by decide)), hqget _ _ (by decide),
        (hapart n (.inr hcustom)).2]
  case address =>
    intro ip hsome
    rw [hsome] at hip hmask
    unfold addAddress
    rw [hsome]
    exact Stores.of_set (by rw [Package.typeOf_set, hqtype]; rfl) hip (hmask.resolve_left nofun)

theorem addSections_spec (hn : n = vlanName env vlanId)
    (htyped : ((addInterface c args n (env.showNumber vlanId)).typeOf n).isSome) :
    (addInterface c args n (env.showNumber vlanId)).Edits (addSections env c args vlanId v) n
        ["display_name", "disabled"] ∧
      (notDisabled (addSections env c args vlanId v) n = true →
        notDisabled (addInterface c args n (env.showNumber vlanId)) n = true) := by
  unfold addSections
  rw [← hn]
  have hname := (Package.Edits.refl (addInterface c args n (env.showNumber vlanId)) n
    ["display_name", "disabled"]).set (o := "display_name") (by decide) v
  split
  · refine ⟨hname.set (by decide) _, fun hen => ?_⟩
    rw [notDisabled, Package.get_set_self ((hname.typeOf n).symm ▸ htyped)] at hen
    cases hen
  · refine ⟨hname, fun hen => ?_⟩
    rwa [notDisabled_congr (Package.get_set_of_ne (.inr (by decide)))] at hen

theorem Interface.others_of_edits {p p₁ : Package} {os : List Text} (h : Interface args p p₁ n)
    (hedits : p₁.Edits p' n os) : ∀ m, m ≠ n → m ∈ fixedSubnets ∨ isCustomName m = true →
      p'.typeOf m = p.typeOf m ∧ ∀ o, p'.get m o = p.get m o := by
  intro m hne hm
  obtain ⟨htype, hget⟩ := h.others m hne hm
  exact ⟨(hedits.typeOf m).trans htype, fun o => (hedits.get (.inl hne)).trans (hget o)⟩

theorem addedNetwork_change {a : Added} (hplain : Plain c.network)
    (h : addedNetwork env c args = .ok a) : Change env c.network a.package a.network := by
  simp only [addedNetwork, bind_eq_ok, check_eq_ok, Bool.or_eq_true] at h
  obtain ⟨-, -, vlanId, -, -, -, -, -, -, hip, -, -, -, hmask, _, hcheck, -, -, -, -, range, -, v, -,
    ha⟩ := h
  cases ha
  dsimp only
  generalize hn : vlanName env vlanId = n at *
  have hnot : n ∉ fixedSubnets := by
    rw [← hn]
    simp [vlanName, fixedSubnets]
  have hlan : n ≠ "lan" := fun hlan => hnot (hlan ▸ by decide)
  have hnew := addInterface_spec (c := c) hn.symm hip hmask
  obtain ⟨hedits, hdisabled⟩ := addSections_spec (v := v) hn.symm (by rw [hnew.typeOf]; rfl)
  generalize addSections env c args vlanId v = p' at *
  generalize addInterface c args n (env.showNumber vlanId) = p₁ at *
  have hother := hnew.others_of_edits hedits
  have haddress : p'.get n "ipaddr" = p₁.get n "ipaddr" :=
    hedits.get (.inr (by decide))
  have hnetmask : p'.get n "netmask" = p₁.get n "netmask" :=
    hedits.get (.inr (by decide))
  have hcustom : IsSubnet p' n → isCustomName n = true := by
    rintro (⟨hfixed, -⟩ | ⟨hcustom, -⟩)
    · exact absurd hfixed hnot
    · exact hcustom
  constructor
  case others =>
    intro m hne hm
    have hname : m ∈ fixedSubnets ∨ isCustomName m = true := hm.imp And.left And.left
    obtain ⟨htype, hget⟩ := hother m hne hname
    exact ⟨(isSubnet_congr htype).1 hm, hget⟩
  case lan => exact (hother _ (Ne.symm hlan) (.inl (by decide))).2 _
  case interfaces =>
    intro m type hm htype
    by_cases hne : m = n
    · subst hne
      rw [hedits.typeOf, hnew.typeOf] at htype
      cases htype
      exact .inr rfl
    · exact .inl ((hother m hne (.inr hm)).1.symm.trans htype)
  case plain =>
    intro hsub
    cases hadded : addedIp args with
    | none =>
      obtain ⟨hip, hmask⟩ := hnew.noAddress hadded (hcustom hsub)
      exact (hplain.plainAt_of_custom (hcustom hsub)).congr (haddress.trans hip)
        (hnetmask.trans hmask)
    | some ip => exact (hnew.address ip hadded).plain.congr haddress hnetmask
  case range =>
    intro hsub hen a k hrange
    rw [range_congr haddress hnetmask] at hrange
    cases hadded : addedIp args with
    | none =>
      obtain ⟨hip, hmask⟩ := hnew.noAddress hadded (hcustom hsub)
      rw [range_congr hip hmask] at hrange
      have hen := notDisabled_congr (hnew.disabled (hcustom hsub)) ▸
        hdisabled (hen.resolve_left hlan)
      exact .inl ⟨hplain.isSubnet_of_range (hcustom hsub) hrange, .inr hen, hrange⟩
    | some ip =>
      have hstores := hnew.address ip hadded
      simp only [checkAddedAddress, hadded] at hcheck
      rw [hadded] at hip hmask
      exact .inr (hstores.plain.checked (.inr hip) (.inr (hmask.resolve_left nofun))
        (noConflict_eq_ok.1 hcheck) hstores.address (.inr hstores.netmask) a k hrange)

def Changed (env : Env) (p p' : Package) : Prop := p' = p ∨ ∃ n, Change env p p' n

theorem Changed.keeps (h : Changed env p p') (hplain : Plain p)
    (hdis : RangesDisjoint p) : Plain p' ∧ RangesDisjoint p' := by
  obtain rfl | ⟨n, h⟩ := h
  · exact ⟨hplain, hdis⟩
  · exact h.keeps hplain hdis

theorem commitAll_changed {ip : Text → Json}
    (h : ∀ n p', edited = .ok (n, p') → Change env c.network p' n) :
    Changed env c.network (commitAll env c args edited ip).2.network := by
  unfold commitAll
  split
  · exact .inl rfl
  · next n p' =>
    dsimp only
    split
    · exact .inr ⟨n, h n p' rfl⟩
    · exact .inr ⟨n, h n p' rfl⟩

theorem addCustomSubnet_changed (hplain : Plain c.network) :
    Changed env c.network (addCustomSubnet env c args).2.network := by
  unfold addCustomSubnet
  split
  · exact .inl rfl
  · next a ha =>
    have h := addedNetwork_change hplain ha
    split
    · exact .inr ⟨_, h⟩
    · exact .inr ⟨_, h⟩

theorem kept_of_delete {p : Package} (h : ((p.delete n).typeOf m).isSome) :
    m ≠ n ∧ (p.delete n).typeOf m = p.typeOf m ∧ ∀ o, (p.delete n).get m o = p.get m o := by
  have hm : m ≠ n := by
    rintro rfl
    rw [Package.typeOf_delete_self] at h
    cases h
  exact ⟨hm, Package.typeOf_delete_of_ne hm, fun o => Package.get_delete_of_ne hm⟩

theorem kept_of_remove {p : Package} {id m : Text}
    (h : ((((p.delete n).delete ("vlan".toList ++ id ++ "_br".toList)).delete
      ("vlan".toList ++ id ++ "_dev".toList)).typeOf m).isSome) :
    m ≠ n ∧ (((p.delete n).delete ("vlan".toList ++ id ++ "_br".toList)).delete
        ("vlan".toList ++ id ++ "_dev".toList)).typeOf m = p.typeOf m ∧
      ∀ o, (((p.delete n).delete ("vlan".toList ++ id ++ "_br".toList)).delete
        ("vlan".toList ++ id ++ "_dev".toList)).get m o = p.get m o := by
  obtain ⟨-, htype₁, hget₁⟩ := kept_of_delete h
  rw [htype₁] at h
  obtain ⟨-, htype₂, hget₂⟩ := kept_of_delete h
  rw [htype₂] at h
  obtain ⟨hne, htype₃, hget₃⟩ := kept_of_delete h
  refine ⟨hne, htype₁.trans (htype₂.trans htype₃), fun o => ?_⟩
  rw [hget₁, hget₂, hget₃]

theorem remove_change {p : Package} {id : Text} (hn : n ∉ fixedSubnets) :
    Change env p (((p.delete n).delete ("vlan".toList ++ id ++ "_br".toList)).delete
      ("vlan".toList ++ id ++ "_dev".toList)) n := by
  generalize hp' : ((p.delete n).delete ("vlan".toList ++ id ++ "_br".toList)).delete
    ("vlan".toList ++ id ++ "_dev".toList) = p'
  have hkept : ∀ m, (p'.typeOf m).isSome → m ≠ n ∧ p'.typeOf m = p.typeOf m ∧
      ∀ o, p'.get m o = p.get m o := by
    intro m hm
    subst hp'
    exact kept_of_remove hm
  have hgone : ¬IsSubnet p' n := fun h => (hkept n (isSome_of_isSubnet h)).1 rfl
  constructor
  case others =>
    intro m _ hm
    obtain ⟨-, htype, hget⟩ := hkept m (isSome_of_isSubnet hm)
    exact ⟨(isSubnet_congr htype).1 hm, hget⟩
  case lan =>
    have hlan : "lan".toList ∈ fixedSubnets := by decide
    have hne : "lan" ≠ n := by
      rintro rfl
      exact hn hlan
    rw [← hp', Package.get_delete_of_ne (ne_append_of_subnet (.inl hlan) (by decide)),
      Package.get_delete_of_ne (ne_append_of_subnet (.inl hlan) (by decide)),
      Package.get_delete_of_ne hne]
  case interfaces =>
    intro m type _ hm
    exact .inl ((hkept m (by rw [hm]; rfl)).2.1.symm.trans hm)
  case plain => exact fun h => absurd h hgone
  case range => exact fun h => absurd h hgone

theorem removeCustomSubnet_changed :
    Changed env c.network (removeCustomSubnet env c args).2.network := by
  unfold removeCustomSubnet
  split_ifs
  · split
    · exact .inl rfl
    · next n hn =>
      split_ifs with hfixed
      · exact .inl rfl
      · exact .inr ⟨n, remove_change (by simpa [isFixedSubnet] using hfixed)⟩
  · exact .inl rfl

end

def machine : Machine Configs Call where
  step c call := (call.run c).2

theorem run_changed {c : Configs} {call : Call} (hplain : Plain c.network)
    (hguard : EnablesWithRange c call) : Changed call.env c.network (call.run c).2.network := by
  obtain ⟨method, args, env⟩ := call
  cases method with
  | setFixedSubnet => exact commitAll_changed fun n p' => fixedNetwork_change hplain hguard
  | updateCustomSubnet => exact commitAll_changed fun n p' => customNetwork_change hplain hguard
  | addCustomSubnet => exact addCustomSubnet_changed hplain
  | removeCustomSubnet => exact removeCustomSubnet_changed

/-- If the networks are stored in the plain form and every network that is enabled again is given an
address or a mask, then the ranges of enabled networks stay disjoint. -/
theorem subnets_stay_disjoint {c : Configs} {calls : List Call} (hplain : Plain c.network)
    (hdis : RangesDisjoint c.network) (hcalls : machine.Admits EnablesWithRange c calls) :
    RangesDisjoint (machine.run c calls).network := by
  have hstep : ∀ c call, EnablesWithRange c call → Plain c.network ∧ RangesDisjoint c.network →
      Plain (machine.step c call).network ∧ RangesDisjoint (machine.step c call).network := by
    rintro c call hguard ⟨hplain, hdis⟩
    exact (run_changed hplain hguard).keeps hplain hdis
  exact (Machine.invariant (I := fun c => Plain c.network ∧ RangesDisjoint c.network) hstep hcalls
    ⟨hplain, hdis⟩).2

/-- Two interfaces, for the main network and for the guests, with these options. -/
def lanAndGuest (lan guest : List (String × String)) : Configs :=
  let interface (options : List (String × String)) : Section :=
    options.foldl (fun s o => s.set o.1.toList (.text o.2.toList)) { type := "interface" }
  ⟨⟨[("lan", interface lan), ("guest", interface guest)], by simp⟩, .empty, .empty,
    .empty⟩

section
variable {lan guest : List (String × String)}

theorem eq_of_typeOf_lanAndGuest (h : ((lanAndGuest lan guest).network.typeOf n).isSome) :
    n = "lan" ∨ n = "guest" := by
  obtain ⟨s, hs⟩ := Option.isSome_iff_exists.1 (Option.isSome_map.symm.trans h)
  have hmem : n ∈ ["lan".toList, "guest".toList] := Package.mem_names_iff.2 ⟨s, hs⟩
  simpa using hmem

theorem disjoint_lanAndGuest (h : Enabled (lanAndGuest lan guest).network "guest" →
      ∀ x, ¬Holds (lanAndGuest lan guest).network "guest" x) :
    RangesDisjoint (lanAndGuest lan guest).network := by
  rintro n hn n' hn' hne hen hen' x - ⟨hx, hx'⟩
  obtain rfl | rfl := eq_of_typeOf_lanAndGuest
    (isSome_of_isSubnet (mem_getAllSubnetNetworks.1 hn))
  · obtain rfl | rfl := eq_of_typeOf_lanAndGuest
      (isSome_of_isSubnet (mem_getAllSubnetNetworks.1 hn'))
    · exact hne rfl
    · exact h hen' x hx'
  · exact h hen x hx

end

/-- A new range for the guests is kept apart from the main network, also when they are enabled. -/
theorem subnets_stay_disjoint_guest :
    let c := lanAndGuest [("ipaddr", "192.168.8.1"), ("netmask", "255.255.255.0")]
      [("ipaddr", "192.168.8.1"), ("disabled", "1")]
    let call : Call :=
      { method := .setFixedSubnet
        args := .obj [("display_name", .str "guest"), ("enabled", .bool true),
          ("ip", .str "192.168.9.1")]
        env := ⟨⟨fun _ => none, fun _ => []⟩, fun _ => none⟩ }
    notDisabled (machine.run c [call]).network "guest" = true ∧
      range (machine.run c [call]).network "guest" = some (0xC0A80901, 0xFFFFFF00) ∧
      RangesDisjoint (machine.run c [call]).network := by
  refine ⟨by decide, by decide, subnets_stay_disjoint ⟨?_, by decide, ?_⟩ ?_ ⟨?_, trivial⟩⟩
  · intro n hn
    obtain rfl | rfl := eq_of_typeOf_lanAndGuest (isSome_of_isSubnet hn)
    · constructor
      · rintro _ ⟨⟩
        exact ⟨"192.168.8.1", rfl, by decide⟩
      · rintro _ ⟨⟩
        exact ⟨"255.255.255.0", rfl, by decide⟩
    · constructor
      · rintro _ ⟨⟩
        exact ⟨"192.168.8.1", rfl, by decide⟩
      · exact nofun
  · intro n type hn htype
    obtain rfl | rfl := eq_of_typeOf_lanAndGuest (by rw [htype]; rfl)
    · exact absurd hn (by decide)
    · exact absurd hn (by decide)
  · exact disjoint_lanAndGuest fun hen => absurd hen (by unfold Enabled; decide)
  · exact fun _ _ _ _ => rfl

/-- The guests get an address in the range of the main network, once because that one is stored with
its prefix length and once because they are enabled again without an address in the arguments. -/
theorem subnets_overlap :
    let env : Env := ⟨⟨fun _ => none, fun _ => []⟩, fun _ => none⟩
    let c₁ := lanAndGuest [("ipaddr", "192.168.8.1/24")] []
    let call₁ : Call := ⟨.setFixedSubnet, .obj [("display_name", .str "guest"),
      ("ip", .str "192.168.8.2")], env⟩
    let c₂ := lanAndGuest [("ipaddr", "192.168.8.1")]
      [("ipaddr", "192.168.8.2"), ("disabled", "1")]
    let call₂ : Call := ⟨.setFixedSubnet, .obj [("display_name", .str "guest"),
      ("enabled", .bool true)], env⟩
    (RangesDisjoint c₁.network ∧ ¬RangesDisjoint (machine.run c₁ [call₁]).network) ∧
      RangesDisjoint c₂.network ∧ ¬RangesDisjoint (machine.run c₂ [call₂]).network := by
  have hoverlap : ∀ p : Package, "lan".toList ∈ getAllSubnetNetworks p →
      "guest".toList ∈ getAllSubnetNetworks p → notDisabled p "guest".toList = true →
      range p "lan" = some (0xC0A80801, 0xFFFFFF00) →
      range p "guest" = some (0xC0A80802, 0xFFFFFF00) → ¬RangesDisjoint p := by
    intro p hlan hguest hen hrange hrange' h
    exact h _ hlan _ hguest (by decide) (.inl rfl) (.inr hen) 0xC0A80803 (by decide)
      ⟨⟨_, _, hrange, rfl⟩, _, _, hrange', rfl⟩
  refine ⟨⟨disjoint_lanAndGuest ?_, hoverlap _ ?_ ?_ ?_ ?_ ?_⟩, disjoint_lanAndGuest ?_,
    hoverlap _ ?_ ?_ ?_ ?_ ?_⟩
  · rintro - x ⟨a, k, ⟨⟩, -⟩
  case refine_7 => exact fun hen => absurd hen (by unfold Enabled; decide)
  all_goals decide

end GlXe3000.Oui.Subnet
