import GlXe3000.Oui.Subnet.Ranges

/-! # Masks, ranges and offsets

LuaJIT's `bit` computes with signed 32-bit numbers and `to_u32` makes its results unsigned again, so
that what the object computes with them is arithmetic of the addresses: which ranges share an
address, which masks are contiguous, and at which offset an address is. -/

namespace GlXe3000.Oui.Subnet
open Text Ipv4

/-! ## Signed and unsigned numbers -/

def toU32 (n : Int) : Int := if n < 0 then n + 4294967296 else n

/-- `band32`, with the signed result of `bit.band`. -/
def band32 (a b : Nat) : Int := toU32 (BitVec.ofNat 32 a &&& BitVec.ofNat 32 b).toInt

/-- `to_u32(bit.bnot(n))`. -/
def bnot32 (n : Nat) : Int := toU32 (~~~BitVec.ofNat 32 n).toInt

theorem toU32_toInt (x : BitVec 32) : toU32 x.toInt = x.toNat := by
  have hlt := x.isLt
  rw [toU32, BitVec.toInt_eq_toNat_cond]
  split_ifs <;> omega

theorem band32_eq (ha : a < 2 ^ 32) (hb : b < 2 ^ 32) : band32 a b = (a &&& b : Nat) := by
  rw [band32, toU32_toInt, BitVec.toNat_and, BitVec.toNat_ofNat, BitVec.toNat_ofNat,
    Nat.mod_eq_of_lt ha, Nat.mod_eq_of_lt hb]

theorem bnot32_eq (h : n < 2 ^ 32) : bnot32 n = (2 ^ 32 - 1 - n : Nat) := by
  rw [bnot32, toU32_toInt, BitVec.toNat_not, BitVec.toNat_ofNat, Nat.mod_eq_of_lt h]

/-! ## Masks -/

theorem ipToNumber_numberToIp (h : n < 2 ^ 32) : ipToNumber (numberToIp n) = some n := by
  have hpieces : pieces '.' (numberToIp n) = [Nat.toDigits 10 (n / 16777216 % 256),
      Nat.toDigits 10 (n / 65536 % 256), Nat.toDigits 10 (n / 256 % 256),
      Nat.toDigits 10 (n % 256)] := by
    refine Eq.trans (congrArg _ ?_) (pieces_intercalate (List.cons_ne_nil _ _) ?_)
    · simp [numberToIp, List.intercalate_cons_cons]
    · intro p hp
      simp only [List.mem_cons, List.not_mem_nil, or_false] at hp
      obtain rfl | rfl | rfl | rfl := hp <;> exact not_mem_toDigits (by decide)
  rw [ipToNumber, hpieces]
  simp only [isNumber_toDigits, toNumber_toDigits, Bool.and_self, if_true]
  rw [if_neg (by omega)]
  exact congrArg some (by omega)

theorem mask_pos (h : len ∈ Set.Icc 1 32) : 0 < 2 ^ 32 - 2 ^ (32 - len) := by
  have hpow : 2 ^ (32 - len) < 2 ^ 32 := Nat.pow_lt_pow_right (by decide) (by have := h.1; omega)
  omega

theorem mask_lt (len : Nat) : 2 ^ 32 - 2 ^ (32 - len) < 2 ^ 32 :=
  Nat.sub_lt (by decide) (Nat.two_pow_pos _)

theorem ipToNumber_prefixToNetmask (h : len ∈ Set.Icc 1 32) :
    (prefixToNetmask len).bind ipToNumber = some (2 ^ 32 - 2 ^ (32 - len)) := by
  rw [prefixToNetmask, if_neg (by have := h.1; have := h.2; omega), Option.bind_some]
  exact ipToNumber_numberToIp (mask_lt len)

theorem validateNetmask_iff : validateNetmask v = true ↔
    ∃ len ∈ Set.Icc 1 32, ipArg v = (prefixToNetmask len).bind ipToNumber := by
  constructor
  · intro h
    obtain ⟨m, hm, k, hk, rfl⟩ := contiguous_of_validateNetmask h
    have hk32 : k ≠ 32 := by
      rintro rfl
      rw [validateNetmask, hm] at h
      cases h
    have hlen : 32 - k ∈ Set.Icc 1 32 := ⟨by omega, by omega⟩
    refine ⟨32 - k, hlen, ?_⟩
    rw [ipToNumber_prefixToNetmask hlen, hm, Nat.sub_sub_self hk]
  · rintro ⟨len, hlen, hv⟩
    rw [ipToNumber_prefixToNetmask hlen] at hv
    have hpos := mask_pos hlen
    have hcomplement : 2 ^ 32 - 1 - (2 ^ 32 - 2 ^ (32 - len)) = 2 ^ (32 - len) - 1 := by
      have := Nat.two_pow_pos (32 - len)
      omega
    rw [validateNetmask, hv, Option.any_some, hcomplement,
      Nat.sub_add_cancel Nat.one_le_two_pow, Nat.and_comm, Nat.and_two_pow_sub_one_eq_mod]
    simpa using hpos.ne'

/-! ## Offsets -/

/-- `dhcp_offset_to_ips`; the numbers are those that `ip_to_dhcp_offset` gives. -/
def dhcpOffsetToIps (gateway netmask : Json) (start limit : Option Nat) : Option (Text × Text) :=
  match ipArg gateway, ipArg netmask, start, limit with
  | some g, some m, some s, some l =>
    some (numberToIp ((g &&& m) + s), numberToIp ((g &&& m) + s + l - 1))
  | _, _, _, _ => none

/-- The signed operations are those of the addresses. Two ranges overlap if they share an address,
a netmask is accepted if it is that of a length, and from the offsets of the first and the last
address of a pool its addresses are found again. -/
theorem address_arithmetic :
    (∀ a b : Nat, a < 2 ^ 32 → b < 2 ^ 32 →
      band32 a b = (a &&& b : Nat) ∧ bnot32 a = (2 ^ 32 - 1 - a : Nat)) ∧
    (∀ a b : Nat, a < 2 ^ 32 → b < 2 ^ 32 → ∀ j ∈ Set.Icc 1 32, ∀ k ∈ Set.Icc 1 32,
      (networkOverlap (some a) ((prefixToNetmask j).bind ipToNumber) (some b)
          ((prefixToNetmask k).bind ipToNumber) = true ↔
        ∃ x < 2 ^ 32, InRange a (2 ^ 32 - 2 ^ (32 - j)) x ∧ InRange b (2 ^ 32 - 2 ^ (32 - k)) x)) ∧
    (∀ v : Json, validateNetmask v = true ↔
      ∃ len ∈ Set.Icc 1 32, ipArg v = (prefixToNetmask len).bind ipToNumber) ∧
    ∀ (gateway netmask first last : Json) (g m i l : Nat), ipArg gateway = some g →
      ipArg netmask = some m → ipArg first = some i → ipArg last = some l → g &&& m < i → i ≤ l →
      ∃ start stop, ipToDhcpOffset first gateway netmask = some start ∧
        ipToDhcpOffset last gateway netmask = some stop ∧
        dhcpOffsetToIps gateway netmask (some start) (some (stop - start + 1)) =
          some (numberToIp i, numberToIp l) ∧
        ipToNumber (numberToIp i) = some i ∧ ipToNumber (numberToIp l) = some l := by
  refine ⟨fun _ _ ha hb => ⟨band32_eq ha hb, bnot32_eq ha⟩, ?_, fun _ => validateNetmask_iff, ?_⟩
  · intro a b ha hb j hj k hk
    rw [ipToNumber_prefixToNetmask hj, ipToNumber_prefixToNetmask hk, networkOverlap,
      decide_eq_true_eq]
    exact agree_iff_inRange ⟨_, Nat.sub_le .., rfl⟩ ⟨_, Nat.sub_le .., rfl⟩ ha hb
  · intro gateway netmask first last g m i l hg hm hi hl hfirst hle
    have hlt : ∀ {v : Json} {n : Nat}, ipArg v = some n → n < 2 ^ 32 := by
      intro v n hv
      obtain ⟨t, -, ht⟩ := Option.bind_eq_some_iff.1 hv
      exact (ipToNumber_eq_some ht).1
    refine ⟨i - (g &&& m), l - (g &&& m), ?_, ?_, ?_, ipToNumber_numberToIp (hlt hi),
      ipToNumber_numberToIp (hlt hl)⟩
    · simp only [ipToDhcpOffset, hi, hg, hm]
      rw [if_neg (by omega)]
    · simp only [ipToDhcpOffset, hl, hg, hm]
      rw [if_neg (by omega)]
    · simp only [dhcpOffsetToIps, hg, hm]
      rw [show (g &&& m) + (i - (g &&& m)) = i by omega,
        show i + (l - (g &&& m) - (i - (g &&& m)) + 1) - 1 = l by omega]

end GlXe3000.Oui.Subnet
