import GlXe3000.Lib.Ipv4
import GlXe3000.Oui.Subnet.Methods

/-! # The ranges of the subnets

The check for conflicts compares a new range with those of the other enabled networks, as they are
stored. Where those are single addresses without a prefix length, it finds every range that has an
address in common with the new one, so that an edit of an address that passes it keeps the ranges
disjoint. -/

namespace GlXe3000.Oui.Subnet
open Text Ipv4

/-! ## Numbers and texts -/

theorem ipToNumber_eq_some (h : ipToNumber t = some n) : n < 2 ^ 32 ∧ '/' ∉ t := by
  unfold ipToNumber at h
  split at h
  · next a b c d hpieces =>
    split_ifs at h with hnumber hrange
    have hnumber : isNumber a ∧ isNumber b ∧ isNumber c ∧ isNumber d := by
      simpa [and_assoc] using hnumber
    refine ⟨?_, fun hslash => ?_⟩
    · cases h
      omega
    · -- A slash would be in one of four runs of digits.
      obtain hdot | ⟨p, hp, hmem⟩ := mem_pieces (c := '.') hslash
      · cases hdot
      · have hdigit : ∀ q, isNumber q = true → '/' ∉ q := by
          intro q hq hmem
          simp only [isNumber, Bool.and_eq_true, List.all_eq_true] at hq
          exact absurd (hq.2 '/' hmem) (by decide)
        rw [hpieces] at hp
        simp only [List.mem_cons, List.not_mem_nil, or_false] at hp
        obtain rfl | rfl | rfl | rfl := hp
        · exact hdigit _ hnumber.1 hmem
        · exact hdigit _ hnumber.2.1 hmem
        · exact hdigit _ hnumber.2.2.1 hmem
        · exact hdigit _ hnumber.2.2.2 hmem
  · cases h

theorem splitCidr_of_no_slash (h : '/' ∉ t) (hne : t ≠ []) : splitCidr t = some (t, []) := by
  have hcut : cut '/' t = none := by
    refine Option.eq_none_iff_forall_ne_some.2 fun ⟨a, b⟩ hab => h ?_
    obtain ⟨rfl, -⟩ := cut_eq_some.1 hab
    exact List.mem_append_right _ List.mem_cons_self
  unfold splitCidr
  rw [hcut]
  simp [hne]

theorem contiguous_of_validateNetmask (h : validateNetmask v = true) :
    ∃ m, ipArg v = some m ∧ Contiguous m := by
  simp only [validateNetmask, Option.any_eq_true, Bool.and_eq_true, decide_eq_true_eq] at h
  obtain ⟨m, hm, hne, hvalid⟩ := h
  obtain ⟨t, -, ht⟩ := Option.bind_eq_some_iff.1 hm
  have hpos : 0 < m := Nat.pos_of_ne_zero (by simpa using hne)
  exact ⟨m, hm, .of_complement hpos (ipToNumber_eq_some ht).1 hvalid⟩

/-! ## Subnets and their ranges -/

section
variable (p : Package)

/-- One of the networks of `get_all_subnet_networks`. -/
def IsSubnet (n : Text) : Prop :=
  (n ∈ fixedSubnets ∧ (p.typeOf n).isSome) ∨
    (isCustomName n = true ∧ p.typeOf n = some "interface".toList)

/-- As `get_subnet_info` reports it: the network `lan` always is. -/
def Enabled (n : Text) : Prop := n = "lan" ∨ notDisabled p n = true

/-- The address and the mask of a network, as `get_subnet_info` reads them. -/
def range (n : Text) : Option (Nat × Nat) :=
  match ipToNumber (getSubnetInfo p n).ip, rawAddress (getSubnetInfo p n).netmask with
  | some a, some m => some (a, m)
  | _, _ => none

def Holds (n : Text) (x : Nat) : Prop := ∃ a m, range p n = some (a, m) ∧ InRange a m x

/-- No address is in the ranges of two enabled subnets. -/
def RangesDisjoint : Prop :=
  ∀ n ∈ getAllSubnetNetworks p, ∀ n' ∈ getAllSubnetNetworks p, n ≠ n' → Enabled p n →
    Enabled p n' → ∀ x < 2 ^ 32, ¬(Holds p n x ∧ Holds p n' x)

/-- The address of a network is a single one without a prefix length, and its mask is a mask. -/
structure PlainAt (n : Text) : Prop where
  address : ∀ v, p.get n "ipaddr" = some v → ∃ t, v = .text t ∧ '/' ∉ t
  netmask : ∀ v, p.get n "netmask" = some v →
    ∃ t, v = .text t ∧ validateNetmask (.str t) = true

/-- Every network is stored in the plain form, `lan` is not marked as disabled, and names like
`vlan10` are names of interfaces. -/
structure Plain : Prop where
  networks : ∀ n, IsSubnet p n → PlainAt p n
  lan : notDisabled p "lan" = true
  interfaces : ∀ n type, isCustomName n = true → p.typeOf n = some type →
    type = "interface"

end

section
variable {p p' : Package} {n m : Text}

theorem mem_getAllSubnetNetworks : n ∈ getAllSubnetNetworks p ↔ IsSubnet p n := by
  unfold getAllSubnetNetworks getAllCustomNetworks IsSubnet
  rw [List.mem_append, List.mem_insertionSort]
  simp only [List.mem_filter, List.mem_map, Prod.exists, exists_and_right, exists_eq_right,
    Package.typeOf_eq_some_iff]
  have hsome : (p.typeOf n).isSome = (p.find n).isSome := by
    unfold Package.typeOf
    cases p.find n <;> rfl
  rw [hsome]
  constructor
  · rintro (h | ⟨h, h'⟩)
    · exact .inl h
    · exact .inr ⟨h', h⟩
  · rintro (h | ⟨h, h'⟩)
    · exact .inl h
    · exact .inr ⟨h', h⟩

theorem isSome_of_isSubnet (h : IsSubnet p n) : (p.typeOf n).isSome := by
  obtain ⟨-, htype⟩ | ⟨-, htype⟩ := h
  · exact htype
  · rw [htype]
    rfl

theorem isSubnet_congr (h : p'.typeOf n = p.typeOf n) : IsSubnet p' n ↔ IsSubnet p n := by
  unfold IsSubnet
  rw [h]

def storedNetmask (p : Package) (n : Text) : Value :=
  (p.get n "netmask").getD (.text defaultNetmask)

theorem PlainAt.info (h : PlainAt p n) :
    (getSubnetInfo p n).ip = ((p.get n "ipaddr").bind firstAddress).getD [] ∧
      (getSubnetInfo p n).netmask = storedNetmask p n := by
  unfold getSubnetInfo addressAndLength storedNetmask
  cases hv : p.get n "ipaddr" with
  | none => exact ⟨rfl, rfl⟩
  | some v =>
    obtain ⟨t, rfl, ht⟩ := h.address v hv
    by_cases hne : t = []
    · subst hne
      exact ⟨rfl, rfl⟩
    · simp [firstAddress, splitCidr_of_no_slash ht hne]

theorem PlainAt.range_eq (h : PlainAt p n) : range p n =
    match (p.get n "ipaddr").bind rawAddress, rawAddress (storedNetmask p n) with
    | some a, some m => some (a, m)
    | _, _ => none := by
  unfold range
  rw [h.info.1, h.info.2]
  cases hv : p.get n "ipaddr" with
  | none => rfl
  | some v =>
    obtain ⟨t, rfl, -⟩ := h.address v hv
    rfl

theorem PlainAt.contiguous (h : PlainAt p n) (hr : range p n = some (a, k)) : Contiguous k := by
  have hmask : ∀ t, storedNetmask p n = .text t → validateNetmask (.str t) = true := by
    intro t ht
    unfold storedNetmask at ht
    cases hv : p.get n "netmask" with
    | none =>
      rw [hv] at ht
      cases ht
      decide
    | some v =>
      rw [hv] at ht
      obtain ⟨t', rfl, hvalid⟩ := h.netmask v hv
      cases ht
      exact hvalid
  rw [h.range_eq] at hr
  split at hr
  · next a' m' ha hm =>
    cases hr
    cases hs : storedNetmask p n with
    | list ts => rw [hs] at hm; cases hm
    | text t =>
      obtain ⟨k', hk, hcont⟩ := contiguous_of_validateNetmask (hmask t hs)
      rw [hs] at hm
      cases hm.symm.trans hk
      exact hcont
  · cases hr

theorem range_congr (hip : p'.get n "ipaddr" = p.get n "ipaddr")
    (hmask : p'.get n "netmask" = p.get n "netmask") : range p' n = range p n := by
  unfold range getSubnetInfo addressAndLength
  rw [hip, hmask]

theorem PlainAt.congr (h : PlainAt p n) (hip : p'.get n "ipaddr" = p.get n "ipaddr")
    (hmask : p'.get n "netmask" = p.get n "netmask") : PlainAt p' n := by
  constructor
  · rw [hip]; exact h.address
  · rw [hmask]; exact h.netmask

theorem notDisabled_congr (h : p'.get n "disabled" = p.get n "disabled") :
    notDisabled p' n = notDisabled p n := by
  unfold notDisabled
  rw [h]

end

/-! ## What a call changes -/

/-- The check has found no conflict of the range with the networks other than `n`. -/
def Checked (env : Env) (p : Package) (n : Text) (a k : Nat) : Prop :=
  ∃ ip netmask, ipArg ip = some a ∧ ipArg netmask = some k ∧ Contiguous k ∧
    checkSubnetConflict env p ip netmask n = none

/-- No subnet but `n` has changed, and if `n` is enabled with an address then it was with the same
one before or its range has been checked. -/
structure Change (env : Env) (p p' : Package) (n : Text) : Prop where
  others : ∀ m, m ≠ n → IsSubnet p' m → IsSubnet p m ∧ ∀ o, p'.get m o = p.get m o
  lan : p'.get "lan" "disabled" = p.get "lan" "disabled"
  interfaces : ∀ m type, isCustomName m = true → p'.typeOf m = some type →
    p.typeOf m = some type ∨ type = "interface"
  plain : IsSubnet p' n → PlainAt p' n
  range : IsSubnet p' n → Enabled p' n → ∀ a k, range p' n = some (a, k) →
    (IsSubnet p n ∧ Enabled p n ∧ Subnet.range p n = some (a, k)) ∨ Checked env p n a k

section
variable {env : Env} {p p' : Package} {n m : Text}

/-- The check does see the ranges of the other enabled networks that are stored in the plain form. -/
theorem Checked.disjoint (h : Checked env p n a k) (hplain : Plain p)
    (hm : IsSubnet p m) (hne : m ≠ n) (hen : Enabled p m) (hx : InRange a k x) : ¬Holds p m x := by
  rintro ⟨b, j, hrange, hxm⟩
  obtain ⟨ip, netmask, hip, hmask, hk, hcheck⟩ := h
  have hnot : notDisabled p m = true := by
    obtain rfl | hnot := hen
    · exact hplain.lan
    · exact hnot
  have hconflict : conflictsWith p ip netmask m = true := by
    have hj : Contiguous j := (hplain.networks m hm).contiguous hrange
    rw [(hplain.networks m hm).range_eq] at hrange
    unfold conflictsWith
    cases hv : p.get m "ipaddr" with
    | none => rw [hv] at hrange; cases hrange
    | some v =>
      rw [hv] at hrange
      split at hrange
      · next b' j' hb hj' =>
        cases hrange
        have hagree := agree_of_inRange hk hj hx hxm
        simp only [Option.bind_some, storedNetmask] at hb hj'
        simp only [networkOverlap, hip, hmask, hb, hj', hagree, decide_true]
      · cases hrange
  unfold checkSubnetConflict at hcheck
  split at hcheck
  · cases hcheck
  · next hfind =>
    have hnone := List.find?_eq_none.1 hfind m (mem_getAllSubnetNetworks.2 hm)
    simp [hne, hnot, hconflict] at hnone

theorem Change.keeps (h : Change env p p' n) (hplain : Plain p) (hdis : RangesDisjoint p) :
    Plain p' ∧ RangesDisjoint p' := by
  have hother : ∀ m, m ≠ n → IsSubnet p' m → IsSubnet p m ∧ PlainAt p' m ∧
      Subnet.range p' m = Subnet.range p m ∧ (Enabled p' m → Enabled p m) := by
    intro m hne hm
    obtain ⟨hm, hget⟩ := h.others m hne hm
    refine ⟨hm, (hplain.networks m hm).congr (hget _) (hget _), range_congr (hget _) (hget _), ?_⟩
    unfold Enabled
    rw [notDisabled_congr (hget _)]
    exact id
  -- The network that was changed against one that was not.
  have hpair : ∀ m, m ≠ n → IsSubnet p' m → IsSubnet p' n → Enabled p' m → Enabled p' n →
      ∀ x < 2 ^ 32, ¬(Holds p' n x ∧ Holds p' m x) := by
    rintro m hne hm hn hem hen x hx ⟨⟨a, k, hrange, hxn⟩, hxm⟩
    obtain ⟨hm, -, hrangem, hem'⟩ := hother m hne hm
    have hxm : Holds p m x := by
      obtain ⟨b, j, hb, hxb⟩ := hxm
      exact ⟨b, j, hrangem ▸ hb, hxb⟩
    obtain ⟨hn, hen, hsame⟩ | hchecked := h.range hn hen a k hrange
    · exact hdis n (mem_getAllSubnetNetworks.2 hn) m (mem_getAllSubnetNetworks.2 hm) (Ne.symm hne)
        hen (hem' hem) x hx ⟨⟨a, k, hsame, hxn⟩, hxm⟩
    · exact hchecked.disjoint hplain hm hne (hem' hem) hxn hxm
  refine ⟨⟨fun m hm => ?_, (notDisabled_congr h.lan).trans hplain.lan, ?_⟩, ?_⟩
  · by_cases hmn : m = n
    · subst hmn
      exact h.plain hm
    · exact (hother m hmn hm).2.1
  · intro m type hm htype
    obtain htype | htype := h.interfaces m type hm htype
    · exact hplain.interfaces m type hm htype
    · exact htype
  · intro m hm m' hm' hne hem hem' x hx hboth
    have hm := mem_getAllSubnetNetworks.1 hm
    have hm' := mem_getAllSubnetNetworks.1 hm'
    by_cases hmn : m = n
    · subst hmn
      exact hpair m' (Ne.symm hne) hm' hm hem' hem x hx hboth
    · by_cases hmn' : m' = n
      · subst hmn'
        exact hpair m hmn hm hm' hem hem' x hx hboth.symm
      · obtain ⟨hsub, -, hr, he⟩ := hother m hmn hm
        obtain ⟨hsub', -, hr', he'⟩ := hother m' hmn' hm'
        refine hdis m (mem_getAllSubnetNetworks.2 hsub) m' (mem_getAllSubnetNetworks.2 hsub') hne
          (he hem) (he' hem') x hx ?_
        obtain ⟨⟨a, k, ha, hxa⟩, b, j, hb, hxb⟩ := hboth
        exact ⟨⟨a, k, hr ▸ ha, hxa⟩, b, j, hr' ▸ hb, hxb⟩

def addressOptions : List Text := ["proto", "ipaddr", "netmask"]

/-- An edit of the address and the mask of `n`, with a check of the new range. -/
structure AddressEdit (env : Env) (p p' : Package) (n : Text) : Prop where
  edits : p.Edits p' n addressOptions
  plain : PlainAt p' n
  range : ∀ a k, range p' n = some (a, k) → Checked env p n a k

theorem eq_of_isEmptyText {v : Json} (h : v.isEmptyText = true) : v = .str [] := by
  unfold Json.isEmptyText at h
  split at h
  · rfl
  · cases h

theorem eq_str_of_ipArg (h : ipArg v = some a) :
    ∃ t, v = .str t ∧ ipToNumber t = some a ∧ '/' ∉ t ∧
      (addressValue v).stored = some (.text t) := by
  obtain ⟨t, ht, ha⟩ := Option.bind_eq_some_iff.1 h
  have hv : v = .str t := by
    cases v <;> cases ht
    rfl
  subst hv
  refine ⟨t, rfl, ha, (ipToNumber_eq_some ha).2, ?_⟩
  cases t with
  | nil => cases ha
  | cons c t => rfl

theorem ipArg_of_validateGateway (h : validateGateway v = true) : ∃ a, ipArg v = some a := by
  simp only [validateGateway, Option.any_eq_true] at h
  obtain ⟨a, ha, -⟩ := h
  exact ⟨a, ha⟩

theorem noConflict_eq_ok {ip : Json} : noConflict env p ip netmask n = .ok u ↔
    ip.isEmptyText = true ∨ checkSubnetConflict env p ip netmask n = none := by
  unfold noConflict
  cases ip.isEmptyText with
  | true => simp
  | false => cases checkSubnetConflict env p ip netmask n <;> simp

theorem rawAddress_eq_ipArg (v : Value) : rawAddress v = ipArg (Value.toJson v) := by
  cases v <;> rfl

end

section
variable {env : Env} {c : Configs} {args : Json} {n : Text} {p' : Package}

theorem PlainAt.checked {p : Package} {ip netmask : Json} (hplain : PlainAt p' n)
    (hip : ip.isEmptyText = true ∨ validateGateway ip = true)
    (hmask : ip.isEmptyText = true ∨ validateNetmask netmask = true)
    (hcheck : ip.isEmptyText = true ∨ checkSubnetConflict env p ip netmask n = none)
    (haddress : (p'.get n "ipaddr").bind rawAddress = ipArg ip)
    (hnetmask : ip.isEmptyText = true ∨ rawAddress (storedNetmask p' n) = ipArg netmask) :
    ∀ a k, range p' n = some (a, k) → Checked env p n a k := by
  intro a k hrange
  rw [hplain.range_eq, haddress] at hrange
  by_cases hempty : ip.isEmptyText = true
  · rw [eq_of_isEmptyText hempty] at hrange
    cases hrange
  · obtain ⟨j, hj, hcont⟩ := contiguous_of_validateNetmask (hmask.resolve_left hempty)
    obtain ⟨b, hb⟩ := ipArg_of_validateGateway (hip.resolve_left hempty)
    rw [hnetmask.resolve_left hempty, hj, hb] at hrange
    cases hrange
    exact ⟨ip, netmask, hb, hj, hcont, hcheck.resolve_left hempty⟩

theorem get_set_address {p : Package} (htyped : (p.typeOf n).isSome)
    (h : ipArg v = some a) : ∃ t, v = .str t ∧ '/' ∉ t ∧
      (p.set n o (addressValue v)).get n o = some (.text t) := by
  obtain ⟨t, rfl, -, hslash, hstored⟩ := eq_str_of_ipArg h
  exact ⟨t, rfl, hslash, (Package.get_set_self htyped).trans hstored⟩

/-- The stored address and mask of `n` are these. -/
structure Stores (p : Package) (n : Text) (ip netmask : Json) : Prop where
  plain : PlainAt p n
  address : (p.get n "ipaddr").bind rawAddress = ipArg ip
  netmask : rawAddress (storedNetmask p n) = ipArg netmask

theorem Stores.of_set {p : Package} {ip netmask : Json} (htyped : (p.typeOf n).isSome)
    (hip : validateGateway ip = true) (hmask : validateNetmask netmask = true) :
    Stores ((p.set n "ipaddr" (addressValue ip)).set n "netmask"
      (addressValue netmask)) n ip netmask := by
  obtain ⟨a, ha⟩ := ipArg_of_validateGateway hip
  obtain ⟨k, hk, -⟩ := contiguous_of_validateNetmask hmask
  obtain ⟨t, rfl, hslash, haddress⟩ := get_set_address (o := "ipaddr") htyped ha
  obtain ⟨tm, rfl, -, hnetmask⟩ := get_set_address (o := "netmask")
    (p := p.set n "ipaddr" (addressValue (.str t))) (Package.typeOf_set.symm ▸ htyped) hk
  rw [← Package.get_set_of_ne (n := n) (o := "netmask") (v := addressValue (.str tm))
    (.inr (by decide))] at haddress
  refine ⟨⟨?_, ?_⟩, ?_, ?_⟩
  · rw [haddress]
    rintro _ ⟨⟩
    exact ⟨t, rfl, hslash⟩
  · rw [hnetmask]
    rintro _ ⟨⟩
    exact ⟨tm, rfl, hmask⟩
  · rw [haddress]
    rfl
  · rw [storedNetmask, hnetmask]
    rfl

theorem setCustomAddress_edit (htyped : (c.network.typeOf n).isSome)
    (h : setCustomAddress env c args n = .ok p') : AddressEdit env c.network p' n := by
  simp only [setCustomAddress, bind_eq_ok, check_eq_ok, Bool.or_eq_true, noConflict_eq_ok] at h
  obtain ⟨-, hip, -, hmask, -, hcheck, hp⟩ := h
  generalize customIp c args n = ip at *
  generalize newNetmask c args n = netmask at *
  cases hp
  have hproto (v : Value) := (Package.Edits.refl c.network n addressOptions).set
    (o := "proto") (by decide) v
  split_ifs with hempty
  · have hedits := ((hproto (.text "none")).unset (o := "ipaddr") (by decide)).unset
      (o := "netmask") (by decide)
    have haddress := (Package.get_unset_of_ne (n := n) (m := n) (o := "netmask")
      (.inr (by decide))).trans ((c.network.set n "proto"
        (.text "none")).get_unset_self (n := n) (o := "ipaddr"))
    have hplain : PlainAt (((c.network.set n "proto" (.text "none")).unset n
        "ipaddr").unset n "netmask") n := by
      constructor
      · rw [haddress]
        exact nofun
      · rw [Package.get_unset_self]
        exact nofun
    refine ⟨hedits, hplain, hplain.checked hip hmask hcheck ?_ (.inl hempty)⟩
    rw [haddress, eq_of_isEmptyText hempty]
    rfl
  · have hstores := Stores.of_set (((hproto (.text "static")).typeOf n).symm ▸ htyped)
      (hip.resolve_left hempty) (hmask.resolve_left hempty)
    have hedits := ((hproto (.text "static")).set (o := "ipaddr") (by decide)
      (addressValue ip)).set (o := "netmask") (by decide) (addressValue netmask)
    exact ⟨hedits, hstores.plain,
      hstores.plain.checked hip hmask hcheck hstores.address (.inr hstores.netmask)⟩

theorem editIp_spec {p : Package} {ip : Json} (htyped : (p.typeOf n).isSome)
    (hip : ip.isEmptyText = true ∨ validateGateway ip = true) :
    p.Edits (editIp p n ip) n ["ipaddr"] ∧
      (∀ v, (editIp p n ip).get n "ipaddr" = some v → ∃ t, v = .text t ∧ '/' ∉ t) ∧
      ((editIp p n ip).get n "ipaddr").bind rawAddress = ipArg ip := by
  unfold editIp
  have hedits := (Package.Edits.refl p n ["ipaddr"]).unset (o := "ipaddr") (by decide)
  split_ifs with hempty
  · refine ⟨hedits, ?_, ?_⟩
    · rw [Package.get_unset_self]
      exact nofun
    · rw [Package.get_unset_self, eq_of_isEmptyText hempty]
      rfl
  · obtain ⟨a, ha⟩ := ipArg_of_validateGateway (hip.resolve_left hempty)
    obtain ⟨t, rfl, hslash, haddress⟩ := get_set_address (o := "ipaddr")
      ((hedits.typeOf n).symm ▸ htyped) ha
    refine ⟨hedits.set (by decide) _, ?_, ?_⟩
    · rw [haddress]
      rintro _ ⟨⟩
      exact ⟨t, rfl, hslash⟩
    · rw [haddress]
      rfl

theorem fixedIp_of_none (hplain : PlainAt c.network n) (h : arg args "ip" = none) :
    (c.network.get n "ipaddr").bind rawAddress = ipArg (fixedIp c args n) := by
  unfold fixedIp presentOr
  rw [h, hplain.info.1]
  cases hv : c.network.get n "ipaddr" with
  | none => rfl
  | some v =>
    obtain ⟨t, rfl, -⟩ := hplain.address v hv
    rfl

theorem setFixedAddress_edit (hplain : PlainAt c.network n) (htyped : (c.network.typeOf n).isSome)
    (h : setFixedAddress env c args n = .ok p') : AddressEdit env c.network p' n := by
  simp only [setFixedAddress, bind_eq_ok, check_eq_ok, Bool.or_eq_true, noConflict_eq_ok] at h
  obtain ⟨-, hip, -, hmask, -, hcheck, hp⟩ := h
  cases hp
  generalize hp₁ : (if (arg args "ip").isSome then editIp c.network n (fixedIp c args n)
    else c.network) = p₁
  obtain ⟨hedits, haddress, hraw⟩ : c.network.Edits p₁ n ["ipaddr"] ∧
      (∀ v, p₁.get n "ipaddr" = some v → ∃ t, v = .text t ∧ '/' ∉ t) ∧
      (p₁.get n "ipaddr").bind rawAddress = ipArg (fixedIp c args n) := by
    cases hi : arg args "ip" with
    | none =>
      rw [hi] at hp₁
      rw [← hp₁]
      exact ⟨.refl .., hplain.address, fixedIp_of_none hplain hi⟩
    | some i =>
      rw [hi] at hp₁
      rw [← hp₁]
      exact editIp_spec htyped hip
  have hedits' : c.network.Edits p₁ n addressOptions := hedits.mono (by decide)
  split_ifs with hgiven
  · obtain ⟨k, hk, -⟩ := contiguous_of_validateNetmask hmask
    obtain ⟨tm, htm, -, hnetmask⟩ := get_set_address (o := "netmask")
      ((hedits.typeOf n).symm ▸ htyped) hk
    have hget : (p₁.set n "netmask" (addressValue (newNetmask c args n))).get n
        "ipaddr" = p₁.get n "ipaddr" := Package.get_set_of_ne (.inr (by decide))
    have hplain' : PlainAt (p₁.set n "netmask" (addressValue (newNetmask c args n))) n := by
      constructor
      · rw [hget]
        exact haddress
      · rw [hnetmask]
        rintro _ ⟨⟩
        exact ⟨tm, rfl, htm ▸ hmask⟩
    refine ⟨hedits'.set (by decide) _, hplain', hplain'.checked hip (.inr hmask) hcheck ?_ (.inr ?_)⟩
    · rw [hget]
      exact hraw
    · rw [storedNetmask, hnetmask, htm]
      rfl
  · have hsame : p₁.get n "netmask" = c.network.get n "netmask" :=
      hedits.get (.inr (by decide))
    have hnew : newNetmask c args n = Value.toJson (storedNetmask p₁ n) := by
      rw [newNetmask, Json.orElse_of_not_truthy hgiven, hplain.info.2]
      unfold storedNetmask
      rw [hsame]
    have hplain' : PlainAt p₁ n := ⟨haddress, hsame ▸ hplain.netmask⟩
    refine ⟨hedits', hplain', hplain'.checked hip (.inr hmask) hcheck hraw (.inr ?_)⟩
    rw [hnew, rawAddress_eq_ipArg]

end
end GlXe3000.Oui.Subnet
