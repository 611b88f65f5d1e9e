import Mathlib

/-! # Limiters with a tumbling window

A window has a start and a count, and starts anew, with the count at zero, at the first call after
it has run out. Two limiters are built on it; a third has no window.

* `Window.call` counts every call and grants those up to a maximum. Grants in two windows in a row
  can lie close together, so this bounds the grants in an interval only where a window is not
  started anew shortly after a grant (`Window.Paced`).
* `Budget.call` counts what it grants and, past the maximum, still grants a call that comes a
  backoff after the last grant. The number of grants in a span of time is bounded by the windows and
  the backoffs it can hold (`Budget.Account.le`).
* `Lockout.fail` counts failures and lets nothing through for a while after the last one it allows.
  The failures in any interval as long as the lock are bounded, if the count is not reset in it
  (`Lockout.Held`). -/

namespace GlXe3000

/-! ## Window -/

structure Window where
  start : Nat
  count : Nat

namespace Window

/-- The window after a call at `now`, which it counts. -/
def call (len now : Nat) (w : Window) : Window :=
  if w.start + len < now then ⟨now, 1⟩ else ⟨w.start, w.count + 1⟩

/-- The elements of `ts` between `a` and `a + len`. -/
def within (len a : Nat) (ts : List Nat) : List Nat := ts.filter fun t => a ≤ t && t ≤ a + len

theorem length_within_append (len a : Nat) (ts us : List Nat) :
    (within len a (ts ++ us)).length = (within len a ts).length + (within len a us).length := by
  simp [within]

/-- The grants so far, those of the present window apart, and no interval of the window's length
has more than `max`. No call comes before `t`. -/
structure Paced (max len t : Nat) (w : Window) (grants : List Nat) : Prop where
  split : ∃ old cur, grants = old ++ cur ∧ cur.length ≤ w.count ∧
    ∀ g ∈ old, g + len < w.start ∧ w.start ≤ t
  spread : ∀ a, (within len a grants).length ≤ max

variable {max len t now : Nat} {w : Window} {grants : List Nat}

theorem Paced.nil (max len t : Nat) (w : Window) : Paced max len t w [] :=
  ⟨⟨[], [], rfl, Nat.zero_le _, by simp⟩, by simp [within]⟩

theorem Paced.wait (h : Paced max len t w grants) {t' : Nat} (ht : t ≤ t') :
    Paced max len t' w grants := by
  obtain ⟨old, cur, hg, hcur, hold⟩ := h.split
  exact ⟨⟨old, cur, hg, hcur, fun g hg => ⟨(hold g hg).1, (hold g hg).2.trans ht⟩⟩, h.spread⟩

/-- The call counts in a window that leaves the grants before it behind. -/
theorem Paced.split_call (h : Paced max len t w grants) (ht : t ≤ now)
    (hgap : w.start + len < now → ∀ g ∈ grants, g + len < now) :
    ∃ old cur, grants = old ++ cur ∧ cur.length + 1 ≤ (w.call len now).count ∧
      ∀ g ∈ old, g + len < (w.call len now).start ∧ (w.call len now).start ≤ now := by
  obtain ⟨old, cur, hg, hcur, hold⟩ := h.split
  unfold call
  split_ifs with hroll
  · exact ⟨grants, [], by simp, Nat.le_refl _, fun g hg => ⟨hgap hroll g hg, Nat.le_refl _⟩⟩
  · exact ⟨old, cur, hg, by simp only; omega, fun g hg => ⟨(hold g hg).1, (hold g hg).2.trans ht⟩⟩

theorem Paced.refuse (h : Paced max len t w grants) (ht : t ≤ now)
    (hgap : w.start + len < now → ∀ g ∈ grants, g + len < now) :
    Paced max len now (w.call len now) grants := by
  obtain ⟨old, cur, hg, hcur, hold⟩ := h.split_call ht hgap
  exact ⟨⟨old, cur, hg, Nat.le_of_succ_le hcur, hold⟩, h.spread⟩

theorem Paced.grant (h : Paced max len t w grants) (ht : t ≤ now)
    (hgap : w.start + len < now → ∀ g ∈ grants, g + len < now)
    (hmax : (w.call len now).count ≤ max) :
    Paced max len now (w.call len now) (grants ++ [now]) := by
  obtain ⟨old, cur, hg, hcur, hold⟩ := h.split_call ht hgap
  refine ⟨⟨old, cur ++ [now], by simp [hg], by simpa using hcur, hold⟩, fun a => ?_⟩
  by_cases hnow : a ≤ now ∧ now ≤ a + len
  · -- An interval that reaches `now` has left the earlier windows behind.
    have hzero : (within len a old).length = 0 := by
      refine List.length_eq_zero_iff.mpr (List.filter_eq_nil_iff.mpr fun g hg => ?_)
      have := hold g hg
      simp only [Bool.and_eq_true, decide_eq_true_eq, not_and, not_le]
      omega
    have hle : (within len a (cur ++ [now])).length ≤ (cur ++ [now]).length :=
      List.length_filter_le _ _
    rw [hg, List.append_assoc, length_within_append, hzero]
    simp only [List.length_append, List.length_singleton] at hle
    omega
  · have hzero : (within len a [now]).length = 0 := by
      refine List.length_eq_zero_iff.mpr (List.filter_eq_nil_iff.mpr fun g hg => ?_)
      obtain rfl := List.mem_singleton.mp hg
      simpa using hnow
    rw [length_within_append, hzero]
    exact h.spread a

end Window

/-! ## Budget -/

structure Budget where
  start : Nat
  count : Nat
  last : Nat

namespace Budget

/-- The budget as a call at `now` finds it. -/
def roll (len now : Nat) (b : Budget) : Budget :=
  if b.start + len < now then { b with start := now, count := 0 } else b

def refuses (max backoff now : Nat) (b : Budget) : Bool :=
  max ≤ b.count && now < b.last + backoff

def grant (now : Nat) (b : Budget) : Budget := { b with count := b.count + 1, last := now }

/-- `n` grants between `t₀` and `t`: `g` within the budgets of the window it began with and of `k`
more, and `f` past the budget. -/
structure Account (max len backoff t₀ t : Nat) (b : Budget) (n : Nat) : Prop where
  split : ∃ k g f, n = g + f ∧ g ≤ max * k + min b.count max ∧
    (0 < k → t₀ + (k - 1) * (len + 1) ≤ b.start ∧ b.start ≤ t) ∧
    (0 < f → t₀ + (f - 1) * backoff ≤ b.last ∧ b.last ≤ t)
  start_le : t₀ ≤ t

variable {max len backoff t₀ t now n : Nat} {b : Budget}

theorem Account.zero (max len backoff t₀ : Nat) (b : Budget) : Account max len backoff t₀ t₀ b 0 :=
  ⟨⟨0, 0, 0, rfl, by simp, by simp, by simp⟩, Nat.le_refl _⟩

theorem Account.wait (h : Account max len backoff t₀ t b n) {t' : Nat} (ht : t ≤ t') :
    Account max len backoff t₀ t' b n := by
  obtain ⟨k, g, f, hn, hg, hk, hf⟩ := h.split
  exact ⟨⟨k, g, f, hn, hg, fun h => ⟨(hk h).1, (hk h).2.trans ht⟩,
    fun h => ⟨(hf h).1, (hf h).2.trans ht⟩⟩, h.start_le.trans ht⟩

theorem Account.roll (h : Account max len backoff t₀ t b n) (ht : t ≤ now) :
    Account max len backoff t₀ now (b.roll len now) n := by
  unfold Budget.roll
  split_ifs with hroll
  · obtain ⟨k, g, f, hn, hg, hk, hf⟩ := h.split
    have hmin : min b.count max ≤ max := Nat.min_le_right _ _
    refine ⟨⟨k + 1, g, f, hn, ?_, fun _ => ⟨?_, Nat.le_refl _⟩,
      fun h => ⟨(hf h).1, (hf h).2.trans ht⟩⟩, h.start_le.trans ht⟩
    · simp only [Nat.zero_min, Nat.add_zero, Nat.mul_add, Nat.mul_one]
      omega
    · -- Two starts of a window are more than its length apart.
      cases k with
      | zero => simpa using h.start_le.trans ht
      | succ k =>
        have := (hk (Nat.succ_pos k)).1
        simp only [Nat.add_sub_cancel] at this ⊢
        rw [Nat.succ_mul]
        omega
  · exact h.wait ht

theorem Account.grant (h : Account max len backoff t₀ now b n)
    (hr : b.refuses max backoff now = false) :
    Account max len backoff t₀ now (b.grant now) (n + 1) := by
  obtain ⟨k, g, f, hn, hg, hk, hf⟩ := h.split
  by_cases hcount : max ≤ b.count
  · -- Past the budget: a backoff after the last grant.
    have hlast : b.last + backoff ≤ now := by simpa [refuses, hcount] using hr
    have hmin : min b.count max = max := Nat.min_eq_right hcount
    refine ⟨⟨k, g, f + 1, by omega, ?_, hk, fun _ => ⟨?_, Nat.le_refl _⟩⟩, h.start_le⟩
    · rw [hmin] at hg
      simpa [Budget.grant, Nat.min_eq_right (hcount.trans (Nat.le_succ _))] using hg
    · cases f with
      | zero => simpa [Budget.grant] using h.start_le
      | succ f =>
        have := (hf (Nat.succ_pos f)).1
        simp only [Nat.add_sub_cancel, Budget.grant] at this ⊢
        rw [Nat.succ_mul]
        omega
  · refine ⟨⟨k, g + 1, f, by omega, ?_, hk, fun hpos => ⟨?_, Nat.le_refl _⟩⟩, h.start_le⟩
    · simp only [Budget.grant]
      omega
    · have := hf hpos
      simp only [Budget.grant]
      omega

/-- The bound: the budgets of the windows that fit into the time, two more for the ends, and a
grant for every backoff. -/
theorem Account.le (h : Account max len backoff t₀ t b n) (hlen : 0 < len) (hback : 0 < backoff) :
    n ≤ max * ((t - t₀) / len + 2) + ((t - t₀) / backoff + 1) := by
  obtain ⟨k, g, f, hn, hg, hk, hf⟩ := h.split
  have hwindows : k ≤ (t - t₀) / len + 1 := by
    cases k with
    | zero => exact Nat.zero_le _
    | succ k =>
      obtain ⟨h1, h2⟩ := hk (Nat.succ_pos k)
      have hkl : k * len ≤ t - t₀ := by
        simp only [Nat.add_sub_cancel, Nat.mul_add, Nat.mul_one] at h1
        omega
      exact Nat.succ_le_succ ((Nat.le_div_iff_mul_le hlen).mpr hkl)
  have hbacks : f ≤ (t - t₀) / backoff + 1 := by
    cases f with
    | zero => exact Nat.zero_le _
    | succ f =>
      obtain ⟨h1, h2⟩ := hf (Nat.succ_pos f)
      have hfb : f * backoff ≤ t - t₀ := by
        simp only [Nat.add_sub_cancel] at h1
        omega
      exact Nat.succ_le_succ ((Nat.le_div_iff_mul_le hback).mpr hfb)
  have hgrants : g ≤ max * ((t - t₀) / len + 2) := by
    calc g ≤ max * k + min b.count max := hg
      _ ≤ max * k + max := Nat.add_le_add_left (Nat.min_le_right _ _) _
      _ = max * (k + 1) := by ring
      _ ≤ max * ((t - t₀) / len + 2) := Nat.mul_le_mul_left _ (Nat.succ_le_succ hwindows)
  exact hn ▸ Nat.add_le_add hgrants hbacks

end Budget

/-! ## Lockout -/

structure Lockout where
  count : Nat := 0
  lockedUntil : Option Nat := none

namespace Lockout

def refuses (now : Nat) (l : Lockout) : Bool := l.lockedUntil.any (now < ·)

/-- A failure at `now`. The count starts again where it locks. -/
def fail (max wait now : Nat) (l : Lockout) : Lockout :=
  if max ≤ l.count + 1 then ⟨0, some (now + wait)⟩ else { l with count := l.count + 1 }

/-- The elements of `ts` from `a` up to `a + wait`, which is not included. -/
def during (wait a : Nat) (ts : List Nat) : List Nat := ts.filter fun t => a ≤ t && t < a + wait

theorem length_during_append (wait a : Nat) (ts us : List Nat) :
    (during wait a (ts ++ us)).length = (during wait a ts).length + (during wait a us).length := by
  simp [during]

/-- `n` failures from `a` up to `a + wait` so far, of at most `max`, and no call comes before `t`.
Each of them is in the count, unless the lock or the time excludes any more of them. -/
structure Held (max wait a t : Nat) (l : Lockout) (n : Nat) : Prop where
  le : n ≤ max
  early : t < a → n = 0
  counted : (n < max ∧ n ≤ l.count) ∨ (∃ u, l.lockedUntil = some u ∧ a + wait ≤ u) ∨ a + wait ≤ t

variable {max wait a t now n : Nat} {l : Lockout}

theorem Held.zero (hmax : 0 < max) (wait a t : Nat) (l : Lockout) : Held max wait a t l 0 :=
  ⟨Nat.zero_le _, fun _ => rfl, .inl ⟨hmax, Nat.zero_le _⟩⟩

theorem Held.later (h : Held max wait a t l n) (ht : t ≤ now) : Held max wait a now l n := by
  refine ⟨h.le, fun hnow => h.early (Nat.lt_of_le_of_lt ht hnow), ?_⟩
  obtain hcount | hlock | htime := h.counted
  · exact .inl hcount
  · exact .inr (.inl hlock)
  · exact .inr (.inr (htime.trans ht))

theorem Held.outside (h : Held max wait a now l n) (hmax : 0 < max)
    (hout : ¬(a ≤ now ∧ now < a + wait)) (l' : Lockout) : Held max wait a now l' n := by
  refine ⟨h.le, h.early, ?_⟩
  by_cases hearly : now < a
  · rw [h.early hearly]
    exact .inl ⟨hmax, Nat.zero_le _⟩
  · exact .inr (.inr (by omega))

theorem Held.fail (h : Held max wait a now l n) (hmax : 0 < max) (hr : l.refuses now = false) :
    Held max wait a now (l.fail max wait now) (n + (during wait a [now]).length) := by
  by_cases hin : a ≤ now ∧ now < a + wait
  · have hone : (during wait a [now]).length = 1 := by simp [during, hin]
    rw [hone]
    obtain ⟨hn, hcount⟩ | ⟨u, hu, hle⟩ | htime := h.counted
    · refine ⟨hn, fun hearly => absurd hin.1 (Nat.not_le.2 hearly), ?_⟩
      unfold Lockout.fail
      split_ifs with hlock
      · exact .inr (.inl ⟨now + wait, rfl, Nat.add_le_add_right hin.1 wait⟩)
      · exact .inl ⟨by omega, Nat.succ_le_succ hcount⟩
    · -- A lock that lasts to the end of the interval lets nothing through in it.
      have hnow : u ≤ now := by simpa [refuses, hu] using hr
      omega
    · omega
  · have hnone : (during wait a [now]).length = 0 := by simpa [during] using hin
    rw [hnone]
    exact h.outside hmax hin _

end Lockout
end GlXe3000
