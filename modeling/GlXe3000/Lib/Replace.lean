import GlXe3000.Lib.Words

/-! # Replacing a text by another

The equations of `gsub`: at an occurrence (`gsub_occurrence`), at a character where none starts
(`gsub_cons`), and at a separator that the replaced text does not contain (`gsub_separated`). -/

namespace GlXe3000.Text

variable {old new : Text}

theorem strip_cons_of_ne (tag t : Text) (h : a ≠ c) : strip (a :: tag) (c :: t) = none :=
  if_neg h

theorem gsub_skip (x t : Text) : gsub old new x.length (x ++ t) = gsub old new 0 t := by
  induction x with
  | nil => rfl
  | cons c x ih => exact ih

theorem gsub_occurrence (hne : old ≠ []) (t : Text) :
    gsub old new 0 (old ++ t) = new ++ gsub old new 0 t := by
  cases old with
  | nil => exact absurd rfl hne
  | cons a o =>
    have hstrip : (strip (a :: o) (a :: (o ++ t))).isSome := by
      rw [← List.cons_append, strip_append]
      rfl
    rw [List.cons_append, gsub, if_pos hstrip]
    exact congrArg (new ++ ·) (gsub_skip o t)

theorem gsub_cons (h : strip old (c :: t) = none) :
    gsub old new 0 (c :: t) = c :: gsub old new 0 t := by
  rw [gsub, h]
  rfl

theorem strip_separated (hq : q ∉ tag) (y : Text) :
    strip tag (x ++ q :: y) = (strip tag x).map (· ++ q :: y) := by
  induction tag generalizing x with
  | nil => rfl
  | cons a tag ih =>
    cases x with
    | nil => exact strip_cons_of_ne tag y fun h => hq (h ▸ List.mem_cons_self)
    | cons c x =>
      rw [List.cons_append, strip, strip]
      split_ifs
      · exact ih (fun h => hq (List.mem_cons_of_mem _ h))
      · rfl

theorem gsub_separated (hne : old ≠ []) (hq : q ∉ old) (x y : Text) :
    gsub old new 0 (x ++ q :: y) = gsub old new 0 x ++ q :: gsub old new 0 y := by
  -- by the length of what stands in front: an occurrence takes several characters at once
  induction hn : x.length using Nat.strongRecOn generalizing x with
  | ind n ih =>
    subst hn
    cases x with
    | nil =>
      have hstrip : strip old (q :: y) = none := by
        cases old with
        | nil => exact absurd rfl hne
        | cons a o => exact strip_cons_of_ne o y fun h => hq (h ▸ List.mem_cons_self)
      exact gsub_cons hstrip
    | cons c x =>
      cases hstrip : strip old (c :: x) with
      | none =>
        have hfar : strip old (c :: (x ++ q :: y)) = none := by
          rw [← List.cons_append, strip_separated hq, hstrip]
          rfl
        rw [List.cons_append, gsub_cons hfar, gsub_cons hstrip, List.cons_append,
          ih x.length (Nat.lt_succ_self _) x rfl]
      | some r =>
        obtain heq := strip_eq_some.mp hstrip
        have hshort : r.length < (c :: x).length := by
          rw [heq, List.length_append]
          exact Nat.lt_add_of_pos_left (List.length_pos_iff.mpr hne)
        rw [heq, List.append_assoc, gsub_occurrence hne, gsub_occurrence hne,
          ih r.length hshort r rfl, List.append_assoc]

theorem gsub_singleton (a b : Char) (t : Text) :
    gsub [a] [b] 0 t = t.map fun c => if c = a then b else c := by
  induction t with
  | nil => rfl
  | cons c t ih =>
    by_cases h : c = a
    · subst h
      rw [List.map_cons, if_pos rfl, ← ih]
      exact gsub_occurrence (List.cons_ne_nil c []) t
    · rw [gsub_cons (strip_cons_of_ne [] t (Ne.symm h)), List.map_cons, if_neg h, ih]

/-- The text `x` has no part in an occurrence of `old`, whatever follows it. -/
def Passes (old x : Text) : Prop :=
  ∀ new t, gsub old new 0 (x ++ t) = x ++ gsub old new 0 t

theorem Passes.singleton (o : Text) (h : c ≠ a) : Passes (a :: o) [c] :=
  fun _ t => gsub_cons (strip_cons_of_ne o t (Ne.symm h))

theorem Passes.cons (h : c ≠ a) (hx : Passes (a :: o) x) : Passes (a :: o) (c :: x) := by
  intro new t
  rw [List.cons_append, gsub_cons (strip_cons_of_ne o _ (Ne.symm h)), hx, List.cons_append]

theorem gsub_flatMap {α : Type} {f g : α → Text} {l : List α} (hne : old ≠ [])
    (h : ∀ c ∈ l, (f c = old ∧ g c = new) ∨ (f c = g c ∧ Passes old (f c))) :
    gsub old new 0 (l.flatMap f) = l.flatMap g := by
  induction l with
  | nil => rfl
  | cons c l ih =>
    have ih := ih fun d hd => h d (List.mem_cons_of_mem _ hd)
    rw [List.flatMap_cons, List.flatMap_cons]
    rcases h c List.mem_cons_self with ⟨hf, hg⟩ | ⟨hfg, hpass⟩
    · rw [hf, hg, gsub_occurrence hne, ih]
    · rw [hpass, ih, hfg]

theorem mem_gsub (h : c ∈ gsub old new k t) : c ∈ new ∨ c ∈ t := by
  induction t generalizing k with
  | nil => exact .inr h
  | cons d t ih =>
    cases k with
    | succ k => exact (ih h).imp_right (List.mem_cons_of_mem d)
    | zero =>
      rw [gsub] at h
      split_ifs at h
      · rcases List.mem_append.mp h with h | h
        · exact .inl h
        · exact (ih h).imp_right (List.mem_cons_of_mem d)
      · rcases List.mem_cons.mp h with rfl | h
        · exact .inr List.mem_cons_self
        · exact (ih h).imp_right (List.mem_cons_of_mem d)

theorem gsub_of_not_has (h : has t old = false) : gsub old new 0 t = t := by
  induction t with
  | nil => rfl
  | cons c t ih =>
    rw [has, Bool.or_eq_false_iff, Option.isSome_eq_false_iff, Option.isNone_iff_eq_none] at h
    rw [gsub_cons h.1, ih h.2]

theorem append_cons_inj {a b r s : Text} {q : Char} (ha : q ∉ a) (hb : q ∉ b) :
    a ++ q :: r = b ++ q :: s ↔ a = b ∧ r = s := by
  refine ⟨fun h => ?_, fun ⟨hab, hrs⟩ => by rw [hab, hrs]⟩
  have hcut := congrArg (cut q) h
  rw [cut_append ha, cut_append hb, Option.some.injEq, Prod.mk.injEq] at hcut
  exact hcut

end GlXe3000.Text
