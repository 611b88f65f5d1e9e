import Mathlib

/-! # Ranges of 32-bit addresses

An address and a mask denote the range of the addresses that agree with the address under the mask.
A mask is contiguous if its bits are ones down to a position and zeros from there on; of two such
masks the smaller one is the coarser one, and ranges that share an address agree under it. -/

namespace GlXe3000.Ipv4

theorem add_one_eq_two_pow (h : n &&& (n + 1) = 0) : ∃ k, n + 1 = 2 ^ k := by
  induction n using Nat.strong_induction_on with
  | _ n ih =>
    obtain ⟨m, rfl | rfl⟩ := Nat.even_or_odd' n
    · -- An even number agrees with its successor in all bits but the last.
      have hdiv := congrArg (· / 2) h
      simp only [Nat.and_div_two, Nat.zero_div] at hdiv
      rw [show 2 * m / 2 = m by omega, show (2 * m + 1) / 2 = m by omega, Nat.and_self] at hdiv
      subst hdiv
      exact ⟨0, rfl⟩
    · have hdiv := congrArg (· / 2) h
      simp only [Nat.and_div_two, Nat.zero_div] at hdiv
      rw [show (2 * m + 1) / 2 = m by omega, show (2 * m + 1 + 1) / 2 = m + 1 by omega] at hdiv
      obtain ⟨k, hk⟩ := ih m (by omega) hdiv
      refine ⟨k + 1, ?_⟩
      rw [pow_succ, ← hk]
      ring

/-- Ones from position `k` on, zeros below it. -/
def Contiguous (m : Nat) : Prop := ∃ k ≤ 32, m = 2 ^ 32 - 2 ^ k

/-- The address `x` is in the range of `a` and `m`. -/
def InRange (a m x : Nat) : Prop := x &&& m = a &&& m

theorem testBit_mask (hk : k ≤ 32) (i : Nat) :
    (2 ^ 32 - 2 ^ k).testBit i = (decide (i < 32) && !decide (i < k)) := by
  have hpos : 0 < 2 ^ k := Nat.two_pow_pos k
  have hle : 2 ^ k ≤ 2 ^ 32 := Nat.pow_le_pow_right (by decide) hk
  have hmask : 2 ^ 32 - 2 ^ k = 2 ^ 32 - ((2 ^ k - 1) + 1) := by omega
  rw [hmask, Nat.testBit_two_pow_sub_succ (by omega), Nat.testBit_two_pow_sub_one]

namespace Contiguous
variable {m n : Nat}

theorem and_eq_of_le (hm : Contiguous m) (hn : Contiguous n) (hle : m ≤ n) : m &&& n = m := by
  obtain ⟨j, hj, rfl⟩ := hm
  obtain ⟨k, hk, rfl⟩ := hn
  have hkj : k ≤ j := by
    by_contra hlt
    have hpow : 2 ^ j < 2 ^ k := Nat.pow_lt_pow_right (by decide) (by omega)
    have hk32 : 2 ^ k ≤ 2 ^ 32 := Nat.pow_le_pow_right (by decide) hk
    omega
  apply Nat.eq_of_testBit_eq
  intro i
  rw [Nat.testBit_and, testBit_mask hj, testBit_mask hk]
  by_cases hi : i < j
  · simp [hi]
  · simp [hi, show ¬i < k by omega]

theorem of_complement (hpos : 0 < m) (hlt : m < 2 ^ 32)
    (h : (2 ^ 32 - 1 - m) &&& (2 ^ 32 - 1 - m + 1) = 0) : Contiguous m := by
  obtain ⟨k, hk⟩ := add_one_eq_two_pow h
  have hk32 : k ≤ 32 := by
    by_contra hlt'
    have hpow : 2 ^ 32 < 2 ^ k := Nat.pow_lt_pow_right (by decide) (by omega)
    omega
  exact ⟨k, hk32, by omega⟩

end Contiguous

theorem agree_of_inRange (hm : Contiguous m) (hn : Contiguous n)
    (ha : InRange a m x) (hb : InRange b n x) : a &&& min m n = b &&& min m n := by
  have hmin : m &&& min m n = min m n ∧ n &&& min m n = min m n := by
    obtain hle | hle := Nat.le_total m n
    · rw [Nat.min_eq_left hle, Nat.and_self, Nat.and_comm, hm.and_eq_of_le hn hle]
      exact ⟨rfl, rfl⟩
    · rw [Nat.min_eq_right hle, Nat.and_self, Nat.and_comm, hn.and_eq_of_le hm hle]
      exact ⟨rfl, rfl⟩
  calc a &&& min m n = (a &&& m) &&& min m n := by rw [Nat.and_assoc, hmin.1]
    _ = (x &&& m) &&& min m n := by rw [ha]
    _ = (x &&& n) &&& min m n := by rw [Nat.and_assoc, hmin.1, Nat.and_assoc, hmin.2]
    _ = (b &&& n) &&& min m n := by rw [hb]
    _ = b &&& min m n := by rw [Nat.and_assoc, hmin.2]

theorem agree_iff_inRange (hm : Contiguous m) (hn : Contiguous n)
    (ha : a < 2 ^ 32) (hb : b < 2 ^ 32) :
    a &&& min m n = b &&& min m n ↔ ∃ x < 2 ^ 32, InRange a m x ∧ InRange b n x := by
  constructor
  · intro h
    obtain hle | hle := Nat.le_total m n
    · rw [Nat.min_eq_left hle] at h
      exact ⟨b, hb, h.symm, rfl⟩
    · rw [Nat.min_eq_right hle] at h
      exact ⟨a, ha, rfl, h⟩
  · rintro ⟨x, -, hx, hx'⟩
    exact agree_of_inRange hm hn hx hx'

end GlXe3000.Ipv4
