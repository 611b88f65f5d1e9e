import Mathlib

/-! # Preferred entries first

Entries are listed under their keys in two groups, the preferred ones before the others. `ranked`
lists every entry; `collectOnce` goes through the entries and passes over a key that it already has.
The second is the first without repeats as long as no key comes up as a preferred one after it was
put with the others. -/

namespace GlXe3000.Ranking

variable {α β : Type} [BEq β] [LawfulBEq β] (p : α → Bool) (key : α → β)

def preferred (l : List α) : List β := (l.filter p).map key

def others (l : List α) : List β := (l.filter fun a => !p a).map key

def ranked (l : List α) : List β := preferred p key l ++ others p key l

def enter (acc : List β × List β) (a : α) : List β × List β :=
  if key a ∈ acc.1 ++ acc.2 then acc
  else if p a then (acc.1 ++ [key a], acc.2)
  else (acc.1, acc.2 ++ [key a])

def collectOnce (l : List α) : List β × List β := l.foldl (enter p key) ([], [])

def NoLate (l : List α) : Prop := l.Pairwise fun a b => key a = key b → p b = true → p a = true

omit [BEq β] [LawfulBEq β] in
theorem mem_ranked : k ∈ ranked p key l ↔ ∃ a ∈ l, key a = k := by
  simp only [ranked, preferred, others, List.mem_append, List.mem_map, List.mem_filter]
  constructor
  · rintro (⟨a, ⟨ha, -⟩, hk⟩ | ⟨a, ⟨ha, -⟩, hk⟩)
    all_goals exact ⟨a, ha, hk⟩
  · rintro ⟨a, ha, hk⟩
    cases hp : p a with
    | true => exact .inl ⟨a, ⟨ha, hp⟩, hk⟩
    | false => exact .inr ⟨a, ⟨ha, by simp [hp]⟩, hk⟩

omit [BEq β] [LawfulBEq β] in
theorem preferred_snoc (l : List α) (a : α) :
    preferred p key (l ++ [a]) = preferred p key l ++ if p a then [key a] else [] := by
  cases hp : p a <;> simp [preferred, hp]

omit [BEq β] [LawfulBEq β] in
theorem others_snoc (l : List α) (a : α) :
    others p key (l ++ [a]) = others p key l ++ if p a then [] else [key a] := by
  cases hp : p a <;> simp [others, hp]

omit [BEq β] [LawfulBEq β] in
theorem preferred_cons (a : α) (l : List α) :
    preferred p key (a :: l) = (if p a then [key a] else []) ++ preferred p key l := by
  cases hp : p a <;> simp [preferred, hp]

omit [BEq β] [LawfulBEq β] in
theorem others_cons (a : α) (l : List α) :
    others p key (a :: l) = (if p a then [] else [key a]) ++ others p key l := by
  cases hp : p a <;> simp [others, hp]

theorem forall_enter {P : β → Prop} {acc : List β × List β}
    (h : ∀ k ∈ acc.1 ++ acc.2, P k) (ha : P (key a)) :
    ∀ k ∈ (enter p key acc a).1 ++ (enter p key acc a).2, P k := by
  rw [List.forall_mem_append] at h ⊢
  unfold enter
  split_ifs
  · exact h
  · exact ⟨List.forall_mem_append.mpr ⟨h.1, List.forall_mem_singleton.mpr ha⟩, h.2⟩
  · exact ⟨h.1, List.forall_mem_append.mpr ⟨h.2, List.forall_mem_singleton.mpr ha⟩⟩

theorem eraseDups_snoc (l : List β) (k : β) :
    (l ++ [k]).eraseDups = l.eraseDups ++ if k ∈ l then [] else [k] := by
  rw [List.eraseDups_append]
  by_cases hk : k ∈ l
  · simp [List.removeAll, hk]
  · simp [List.removeAll, hk, List.eraseDups_cons]

theorem mem_removeAll {l : List β} : k ∈ l.removeAll m ↔ k ∈ l ∧ k ∉ m := by
  simp [List.removeAll]

theorem collectOnce_eq (h : NoLate p key l) :
    collectOnce p key l = ((preferred p key l).eraseDups,
      ((others p key l).removeAll (preferred p key l)).eraseDups) := by
  induction l using List.reverseRecOn with
  | nil => rfl
  | append_singleton l a ih =>
    obtain ⟨hl, -, hlate⟩ := List.pairwise_append.mp h
    have hlate := fun b hb => hlate b hb a (List.mem_singleton_self a)
    rw [collectOnce, List.foldl_append, ← collectOnce, ih hl, List.foldl_cons, List.foldl_nil,
      preferred_snoc, others_snoc]
    have hmem : key a ∈ (preferred p key l).eraseDups ++
        ((others p key l).removeAll (preferred p key l)).eraseDups ↔
        key a ∈ preferred p key l ∨ key a ∈ others p key l := by
      simp only [List.mem_append, List.mem_eraseDups, mem_removeAll]
      tauto
    cases hp : p a with
    | true =>
      -- A preferred key is not among the others of the entries before.
      have hnot : key a ∉ others p key l := by
        intro hin
        obtain ⟨b, hb, hkey⟩ := List.mem_map.mp hin
        obtain ⟨hb, hpb⟩ := List.mem_filter.mp hb
        simp [hlate b hb hkey hp] at hpb
      have hremove : (others p key l).removeAll (preferred p key l ++ [key a]) =
          (others p key l).removeAll (preferred p key l) := by
        refine List.filter_congr fun k hk => ?_
        have hne : k ≠ key a := fun heq => hnot (heq ▸ hk)
        simp [hne]
      simp only [if_true, List.append_nil, eraseDups_snoc, hremove]
      by_cases hin : key a ∈ preferred p key l
      · simp only [enter, if_pos (hmem.mpr (.inl hin)), if_pos hin, List.append_nil]
      · simp only [enter, if_neg fun h => (hmem.mp h).elim hin hnot, if_neg hin, hp, if_true]
    | false =>
      simp only [Bool.false_eq_true, if_false, List.append_nil]
      by_cases hin : key a ∈ preferred p key l
      · have hremove : (others p key l ++ [key a]).removeAll (preferred p key l) =
            (others p key l).removeAll (preferred p key l) := by
          simp [List.removeAll, hin]
        simp only [enter, if_pos (hmem.mpr (.inl hin)), hremove]
      · have hremove : (others p key l ++ [key a]).removeAll (preferred p key l) =
            (others p key l).removeAll (preferred p key l) ++ [key a] := by
          simp [List.removeAll, hin]
        rw [hremove, eraseDups_snoc]
        by_cases hout : key a ∈ others p key l
        · have hkept : key a ∈ (others p key l).removeAll (preferred p key l) :=
            mem_removeAll.mpr ⟨hout, hin⟩
          simp only [enter, if_pos (hmem.mpr (.inr hout)), if_pos hkept, List.append_nil]
        · have hgone : key a ∉ (others p key l).removeAll (preferred p key l) :=
            fun h => hout (mem_removeAll.mp h).1
          simp only [enter, if_neg fun h => (hmem.mp h).elim hin hout, if_neg hgone, hp,
            Bool.false_eq_true, if_false]

theorem collectOnce_append (h : NoLate p key l) :
    (collectOnce p key l).1 ++ (collectOnce p key l).2 = (ranked p key l).eraseDups := by
  rw [collectOnce_eq p key h, ranked, List.eraseDups_append]

end GlXe3000.Ranking
