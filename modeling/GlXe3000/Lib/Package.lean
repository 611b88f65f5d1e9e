import GlXe3000.Lib.Text

/-! # Configuration packages

A package is a list of sections with distinct names; a section has a type, and options that are texts
or lists of texts. A new section comes last, and a change leaves a section where it is. An option
that is set to nothing is no longer there. -/

namespace GlXe3000

inductive Value
  | text (t : Text)
  | list (ts : List Text)
  deriving DecidableEq

namespace Value

def stored : Value → Option Value
  | .text [] | .list [] => none
  | v => some v

theorem stored_text (h : t ≠ []) : (text t).stored = some (text t) := by
  cases t with
  | nil => exact absurd rfl h
  | cons c t => rfl

theorem stored_list (h : ts ≠ []) : (list ts).stored = some (list ts) := by
  cases ts with
  | nil => exact absurd rfl h
  | cons t ts => rfl

def asText : Value → Option Text
  | .text t => some t
  | .list _ => none

def entries : Value → List Text
  | .text t => [t]
  | .list ts => ts

end Value

structure Section where
  type : Text
  options : Text → Option Value := fun _ => none

namespace Section

def set (s : Section) (o : Text) (v : Value) : Section :=
  { s with options := Function.update s.options o v.stored }

def unset (s : Section) (o : Text) : Section :=
  { s with options := Function.update s.options o none }

def setAll (s : Section) (options : List (String × Value)) : Section :=
  options.foldl (fun s o => s.set o.1.toList o.2) s

def make (type : Text) (options : List (String × Value)) : Section :=
  ({ type := type } : Section).setAll options

variable {s : Section} {o o' : Text} {v : Value}

@[simp] theorem type_set : (s.set o v).type = s.type := rfl
@[simp] theorem type_unset : (s.unset o).type = s.type := rfl

@[simp] theorem options_set_self : (s.set o v).options o = v.stored := Function.update_self ..
@[simp] theorem options_unset_self : (s.unset o).options o = none := Function.update_self ..

theorem options_set_of_ne (h : o' ≠ o) : (s.set o v).options o' = s.options o' :=
  Function.update_of_ne h ..

theorem options_unset_of_ne (h : o' ≠ o) : (s.unset o).options o' = s.options o' :=
  Function.update_of_ne h ..

@[simp] theorem type_setAll {options : List (String × Value)} :
    (s.setAll options).type = s.type := by
  unfold setAll
  induction options generalizing s with
  | nil => rfl
  | cons o options ih => exact ih

theorem setAll_append {options options' : List (String × Value)} :
    s.setAll (options ++ options') = (s.setAll options).setAll options' := List.foldl_append

@[simp] theorem type_make {type : Text} {options : List (String × Value)} :
    (make type options).type = type := type_setAll

theorem options_setAll_of_not_mem {options : List (String × Value)}
    (h : ∀ e ∈ options, o ≠ e.1.toList) : (s.setAll options).options o = s.options o := by
  unfold setAll
  induction options generalizing s with
  | nil => rfl
  | cons e options ih =>
    exact (ih fun e' he => h e' (List.mem_cons_of_mem e he)).trans
      (options_set_of_ne (h e List.mem_cons_self))

theorem toList_ne_of_not_mem {options : List (String × Value)} {o : String}
    (h : o ∉ options.map Prod.fst) : ∀ e ∈ options, o.toList ≠ e.1.toList := by
  intro e he heq
  exact h (List.mem_map.2 ⟨e, he, (String.toList_injective heq).symm⟩)

theorem options_setAll_of_mem {options : List (String × Value)} {o : String}
    (hnodup : (options.map Prod.fst).Nodup) (h : (o, v) ∈ options) :
    (s.setAll options).options o.toList = v.stored := by
  induction options generalizing s with
  | nil => cases h
  | cons e options ih =>
    rw [List.map_cons, List.nodup_cons] at hnodup
    obtain rfl | h := List.mem_cons.1 h
    · have hrest : ((s.set o.toList v).setAll options).options o.toList =
          (s.set o.toList v).options o.toList :=
        options_setAll_of_not_mem (toList_ne_of_not_mem hnodup.1)
      exact hrest.trans options_set_self
    · exact ih hnodup.2 h

end Section

structure Package where
  sections : List (Text × Section)
  nodup : (sections.map Prod.fst).Nodup

namespace Package

def empty : Package := ⟨[], List.nodup_nil⟩

variable (p : Package)

def names : List Text := p.sections.map Prod.fst

def find (n : Text) : Option Section := p.sections.lookup n

def get (n o : Text) : Option Value := (p.find n).bind fun s => s.options o

def getText (n o : Text) : Option Text :=
  match p.get n o with
  | some (.text t) => some t
  | _ => none

def getOr (n : Text) (o default : String) : Value :=
  ((p.get n o.toList).filter fun v => v ≠ .text []).getD (.text default.toList)

def typeOf (n : Text) : Option Text := (p.find n).map Section.type

def ofType (type : Text) : List (Text × Section) := p.sections.filter fun e => e.2.type = type

def headers : List (Text × Text) := p.sections.map fun e => (e.1, e.2.type)

def first (type : Text) : Option Text := (p.ofType type).head?.map Prod.fst

/-- The sections that `own` picks out, in order. -/
def owned (own : Text × Section → Bool) : List (Text × Section) := p.sections.filter own

def modify (n : Text) (f : Section → Section) : Package where
  sections := p.sections.map fun e => if e.1 = n then (e.1, f e.2) else e
  nodup := by
    have hnames : (p.sections.map fun e => if e.1 = n then (e.1, f e.2) else e).map Prod.fst =
        p.sections.map Prod.fst := by
      rw [List.map_map]
      refine List.map_congr_left fun e _ => ?_
      by_cases he : e.1 = n <;> simp [he]
    rw [hnames]
    exact p.nodup

def setType (n type : Text) : Package :=
  if h : n ∈ p.names then p.modify n fun s => { s with type := type }
  else
    { sections := p.sections ++ [(n, { type := type })]
      nodup := by
        rw [List.map_append]
        refine p.nodup.append (List.nodup_singleton _) ?_
        intro m hm hn
        obtain rfl := List.mem_singleton.1 hn
        exact h hm }

def set (n o : Text) (v : Value) : Package := p.modify n fun s => s.set o v

def unset (n o : Text) : Package := p.modify n fun s => s.unset o

def setAll (n : Text) (options : List (String × Value)) : Package :=
  options.foldl (fun p o => p.set n o.1.toList o.2) p

def unsetAll (n : Text) (os : List String) : Package :=
  os.foldl (fun p o => p.unset n o.toList) p

def delete (n : Text) : Package where
  sections := p.sections.filter fun e => e.1 ≠ n
  nodup := p.nodup.sublist (List.filter_sublist.map Prod.fst)

def deleteAll (ns : List Text) : Package := ns.foldl delete p

def deleteType (type : Text) : Package := p.deleteAll ((p.ofType type).map Prod.fst)

def newSection (n type : Text) (options : List (String × Value)) : Package :=
  (p.setType n type).setAll n options

structure Draft where
  name : Text
  type : Text
  options : List (String × Value)

def Draft.entry (d : Draft) : Text × Section := (d.name, .make d.type d.options)

def newSections (ds : List Draft) : Package :=
  ds.foldl (fun p d => p.newSection d.name d.type d.options) p

/-- The name that the library makes up for a section without one. It starts with `cfg`; what follows
makes it new. -/
def anonName : Text := "cfg".toList ++ List.replicate (p.names.map List.length).sum '0'

def add (type : Text) (options : List (String × Value)) : Package :=
  p.newSection p.anonName type options

/-! ## Lookups -/

variable {p : Package} {n m o o' type : Text} {f : Section → Section} {v : Value}

theorem find_eq_some_iff : p.find n = some s ↔ (n, s) ∈ p.sections := by
  obtain ⟨l, hl⟩ := p
  simp only [find]
  induction l with
  | nil => simp
  | cons e l ih =>
    obtain ⟨k, b⟩ := e
    simp only [List.map_cons, List.nodup_cons] at hl
    by_cases hk : n = k
    · subst hk
      have hnot : (n, s) ∉ l := fun hs => hl.1 (List.mem_map.2 ⟨_, hs, rfl⟩)
      simp [List.lookup, hnot, eq_comm]
    · have hbeq : (n == k) = false := beq_eq_false_iff_ne.2 hk
      simpa [List.lookup, hbeq, hk] using ih hl.2

theorem mem_names_iff : n ∈ p.names ↔ ∃ s, p.find n = some s := by
  constructor
  · intro h
    obtain ⟨⟨m, s⟩, hs, rfl⟩ := List.mem_map.1 h
    exact ⟨s, find_eq_some_iff.2 hs⟩
  · rintro ⟨s, hs⟩
    exact List.mem_map.2 ⟨_, find_eq_some_iff.1 hs, rfl⟩

theorem find_modify_self : (p.modify n f).find n = (p.find n).map f := by
  cases h : p.find n with
  | none =>
    refine Option.eq_none_iff_forall_ne_some.2 fun s hs => ?_
    obtain ⟨e, he, heq⟩ := List.mem_map.1 (find_eq_some_iff.1 hs)
    by_cases hen : e.1 = n
    · have hfind : p.find n = some e.2 := find_eq_some_iff.2 (hen ▸ he)
      rw [h] at hfind
      cases hfind
    · rw [if_neg hen] at heq
      exact hen (congrArg Prod.fst heq)
  | some s =>
    refine find_eq_some_iff.2 (List.mem_map.2 ⟨(n, s), find_eq_some_iff.1 h, ?_⟩)
    rw [if_pos rfl]

theorem find_modify_of_ne (h : m ≠ n) : (p.modify n f).find m = p.find m := by
  ext s
  rw [find_eq_some_iff, find_eq_some_iff]
  constructor
  · intro hs
    obtain ⟨e, he, heq⟩ := List.mem_map.1 hs
    by_cases hen : e.1 = n
    · rw [if_pos hen] at heq
      exact absurd ((congrArg Prod.fst heq).symm.trans hen) h
    · rw [if_neg hen] at heq
      exact heq ▸ he
  · intro hs
    exact List.mem_map.2 ⟨_, hs, if_neg h⟩

theorem find_setType_self : (p.setType n type).find n =
    some (((p.find n).map fun s => { s with type := type }).getD { type := type }) := by
  unfold setType
  split
  · next h =>
    obtain ⟨s, hs⟩ := mem_names_iff.1 h
    rw [find_modify_self, hs]
    rfl
  · next h =>
    have hnone : p.find n = none := by
      refine Option.eq_none_iff_forall_ne_some.2 fun s hs => h (mem_names_iff.2 ⟨s, hs⟩)
    rw [hnone]
    exact find_eq_some_iff.2 (List.mem_append_right _ List.mem_cons_self)

theorem find_setType_of_ne (h : m ≠ n) : (p.setType n type).find m = p.find m := by
  unfold setType
  split
  · exact find_modify_of_ne h
  · ext s
    rw [find_eq_some_iff, find_eq_some_iff]
    simp [h]

theorem find_delete_self : (p.delete n).find n = none := by
  refine Option.eq_none_iff_forall_ne_some.2 fun s hs => ?_
  have hmem := find_eq_some_iff.1 hs
  simp [delete] at hmem

theorem find_delete_of_ne (h : m ≠ n) : (p.delete n).find m = p.find m := by
  ext s
  rw [find_eq_some_iff, find_eq_some_iff]
  simp [delete, h]

theorem find_setAll_self :
    (p.setAll n options).find n = (p.find n).map fun s => s.setAll options := by
  unfold setAll Section.setAll
  induction options generalizing p with
  | nil => simp
  | cons o options ih =>
    rw [List.foldl_cons, ih, set, find_modify_self, Option.map_map]
    rfl

theorem find_setAll_of_ne (h : m ≠ n) : (p.setAll n options).find m = p.find m := by
  unfold setAll
  induction options generalizing p with
  | nil => rfl
  | cons o options ih => rw [List.foldl_cons, ih, set, find_modify_of_ne h]

/-! ## Types -/

theorem typeOf_modify (h : ∀ s, (f s).type = s.type) : (p.modify n f).typeOf m = p.typeOf m := by
  unfold typeOf
  by_cases hm : m = n
  · subst hm
    rw [find_modify_self, Option.map_map]
    exact Option.map_congr fun s _ => h s
  · rw [find_modify_of_ne hm]

@[simp] theorem typeOf_set : (p.set n o v).typeOf m = p.typeOf m := typeOf_modify fun _ => rfl

@[simp] theorem typeOf_unset : (p.unset n o).typeOf m = p.typeOf m := typeOf_modify fun _ => rfl

@[simp] theorem typeOf_setType_self : (p.setType n type).typeOf n = some type := by
  rw [typeOf, find_setType_self]
  cases p.find n <;> rfl

theorem typeOf_setType_of_ne (h : m ≠ n) : (p.setType n type).typeOf m = p.typeOf m := by
  rw [typeOf, find_setType_of_ne h, typeOf]

@[simp] theorem typeOf_delete_self : (p.delete n).typeOf n = none := by
  rw [typeOf, find_delete_self, Option.map_none]

theorem typeOf_delete_of_ne (h : m ≠ n) : (p.delete n).typeOf m = p.typeOf m := by
  rw [typeOf, find_delete_of_ne h, typeOf]

theorem mem_ofType_iff {s : Section} :
    (n, s) ∈ p.ofType type ↔ p.find n = some s ∧ s.type = type := by
  rw [find_eq_some_iff]
  simp [ofType]

theorem typeOf_eq_some_iff : p.typeOf n = some type ↔ ∃ s, (n, s) ∈ p.ofType type := by
  simp [typeOf, mem_ofType_iff]

/-! ## Names and types -/

theorem headers_modify (h : ∀ s, (f s).type = s.type) : (p.modify n f).headers = p.headers := by
  unfold headers modify
  rw [List.map_map]
  refine List.map_congr_left fun e _ => ?_
  by_cases he : e.1 = n <;> simp [he, h]

@[simp] theorem headers_set : (p.set n o v).headers = p.headers := headers_modify fun _ => rfl

@[simp] theorem headers_unset : (p.unset n o).headers = p.headers := headers_modify fun _ => rfl

@[simp] theorem headers_setAll : (p.setAll n options).headers = p.headers := by
  unfold setAll
  induction options generalizing p with
  | nil => rfl
  | cons o options ih => rw [List.foldl_cons, ih, headers_set]

@[simp] theorem headers_unsetAll : (p.unsetAll n os).headers = p.headers := by
  unfold unsetAll
  induction os generalizing p with
  | nil => rfl
  | cons o os ih => rw [List.foldl_cons, ih, headers_unset]

theorem first_congr {q : Package} (h : q.headers = p.headers) : q.first type = p.first type := by
  have hfirst : ∀ p : Package, p.first type =
      ((p.headers.filter fun e => e.2 = type).head?).map Prod.fst := by
    intro p
    rw [headers, List.filter_map, List.head?_map, Option.map_map]
    rfl
  rw [hfirst, hfirst, h]

theorem typeOf_of_first (h : p.first type = some n) : p.typeOf n = some type := by
  obtain ⟨⟨m, s⟩, hs, rfl⟩ := Option.map_eq_some_iff.1 h
  exact typeOf_eq_some_iff.2 ⟨s, List.mem_of_mem_head? hs⟩

theorem first_setType (h : p.first type = none) : (p.setType n type).first type = some n := by
  cases hfirst : (p.setType n type).first type with
  | none =>
    have hself : (p.setType n type).typeOf n = some type := typeOf_setType_self
    obtain ⟨s, hs⟩ := typeOf_eq_some_iff.1 hself
    rw [List.head?_eq_none_iff.1 (Option.map_eq_none_iff.1 hfirst)] at hs
    cases hs
  | some m =>
    by_cases hm : m = n
    · rw [hm]
    · have htype := typeOf_of_first hfirst
      rw [typeOf_setType_of_ne hm] at htype
      obtain ⟨s, hs⟩ := typeOf_eq_some_iff.1 htype
      rw [List.head?_eq_none_iff.1 (Option.map_eq_none_iff.1 h)] at hs
      cases hs

/-! ## Options -/

theorem get_of_typeOf_eq_none (h : p.typeOf n = none) : p.get n o = none := by
  rw [get, Option.map_eq_none_iff.1 h, Option.bind_none]

theorem get_set_self (h : (p.typeOf n).isSome) : (p.set n o v).get n o = v.stored := by
  unfold typeOf at h
  rw [get, set, find_modify_self]
  cases hs : p.find n with
  | none => simp [hs] at h
  | some s => simp

theorem get_set_of_ne (h : m ≠ n ∨ o' ≠ o) : (p.set n o v).get m o' = p.get m o' := by
  unfold get set
  by_cases hm : m = n
  · subst hm
    rw [find_modify_self]
    cases p.find m with
    | none => rfl
    | some s => exact Section.options_set_of_ne (h.resolve_left fun hne => hne rfl)
  · rw [find_modify_of_ne hm]

@[simp] theorem get_unset_self : (p.unset n o).get n o = none := by
  rw [get, unset, find_modify_self]
  cases p.find n <;> simp

theorem get_unset_of_ne (h : m ≠ n ∨ o' ≠ o) : (p.unset n o).get m o' = p.get m o' := by
  unfold get unset
  by_cases hm : m = n
  · subst hm
    rw [find_modify_self]
    cases p.find m with
    | none => rfl
    | some s => exact Section.options_unset_of_ne (h.resolve_left fun hne => hne rfl)
  · rw [find_modify_of_ne hm]

@[simp] theorem typeOf_setAll : (p.setAll n options).typeOf m = p.typeOf m := by
  unfold setAll
  induction options generalizing p with
  | nil => rfl
  | cons o options ih => rw [List.foldl_cons, ih, typeOf_set]

theorem get_setAll_of_ne (h : m ≠ n) : (p.setAll n options).get m o = p.get m o := by
  unfold setAll
  induction options generalizing p with
  | nil => rfl
  | cons o options ih => rw [List.foldl_cons, ih, get_set_of_ne (.inl h)]

theorem get_setAll_of_not_mem (h : ∀ e ∈ options, o ≠ e.1.toList) :
    (p.setAll n options).get m o = p.get m o := by
  unfold setAll
  induction options generalizing p with
  | nil => rfl
  | cons e options ih =>
    rw [List.foldl_cons, ih fun e' he => h e' (List.mem_cons_of_mem e he),
      get_set_of_ne (.inr (h e List.mem_cons_self))]

theorem get_setAll_of_mem {options : List (String × Value)} {o : String} (h : (p.typeOf n).isSome)
    (hnodup : (options.map Prod.fst).Nodup) (hmem : (o, v) ∈ options) :
    (p.setAll n options).get n o.toList = v.stored := by
  unfold typeOf at h
  rw [Option.isSome_map] at h
  obtain ⟨s, hs⟩ := Option.isSome_iff_exists.1 h
  rw [get, find_setAll_self, hs, Option.map_some, Option.bind_some,
    Section.options_setAll_of_mem hnodup hmem]

theorem get_setAll_congr {q : Package} {options : List (String × Value)} {o : String}
    (hp : (p.typeOf n).isSome) (hq : (q.typeOf m).isSome) (h : o ∈ options.map Prod.fst) :
    (p.setAll n options).get n o.toList = (q.setAll m options).get m o.toList := by
  induction options generalizing p q with
  | nil => cases h
  | cons e options ih =>
    by_cases hmem : o ∈ options.map Prod.fst
    · exact ih (typeOf_set.symm ▸ hp : ((p.set n e.1.toList e.2).typeOf n).isSome)
        (typeOf_set.symm ▸ hq : ((q.set m e.1.toList e.2).typeOf m).isSome) hmem
    · obtain rfl | h := List.mem_cons.1 h
      · have hne := Section.toList_ne_of_not_mem hmem
        exact (get_setAll_of_not_mem (p := p.set n _ _) hne).trans
          ((get_set_self hp).trans ((get_setAll_of_not_mem (p := q.set m _ _) hne).trans
            (get_set_self hq)).symm)
      · exact absurd h hmem

theorem setAll_append :
    p.setAll n (options ++ options') = (p.setAll n options).setAll n options' := List.foldl_append

@[simp] theorem typeOf_unsetAll : (p.unsetAll n os).typeOf m = p.typeOf m := by
  unfold unsetAll
  induction os generalizing p with
  | nil => rfl
  | cons o os ih => rw [List.foldl_cons, ih, typeOf_unset]

theorem get_unsetAll_of_not_mem {o : String} (h : m ≠ n ∨ o ∉ os) :
    (p.unsetAll n os).get m o.toList = p.get m o.toList := by
  unfold unsetAll
  induction os generalizing p with
  | nil => rfl
  | cons o' os ih =>
    rw [List.foldl_cons, ih (h.imp_right fun hnot hmem => hnot (List.mem_cons_of_mem _ hmem)),
      get_unset_of_ne]
    refine h.imp_right fun hnot heq => hnot ?_
    rw [String.toList_injective heq]
    exact List.mem_cons_self

theorem get_unsetAll_of_mem {o : String} (h : o ∈ os) :
    (p.unsetAll n os).get n o.toList = none := by
  induction os generalizing p with
  | nil => cases h
  | cons o' os ih =>
    by_cases hmem : o ∈ os
    · exact ih hmem
    · obtain rfl | h := List.mem_cons.1 h
      · exact (get_unsetAll_of_not_mem (p := p.unset n o.toList) (.inr hmem)).trans get_unset_self
      · exact absurd h hmem

@[simp] theorem get_setType : (p.setType n type).get m o = p.get m o := by
  unfold get
  by_cases hm : m = n
  · subst hm
    rw [find_setType_self]
    cases p.find m <;> rfl
  · rw [find_setType_of_ne hm]

theorem get_delete_of_ne (h : m ≠ n) : (p.delete n).get m o = p.get m o := by
  rw [get, find_delete_of_ne h, get]

section
variable {q : Package} {s : Section} {options : List (String × Value)} {o d : String}

theorem getOr_congr (h : q.find n = p.find n) : q.getOr n o d = p.getOr n o d := by
  rw [getOr, get, h, getOr, get]

theorem getOr_of_find_none (h : p.find n = none) : p.getOr n o d = .text d.toList := by
  rw [getOr, get, h]
  rfl

theorem getOr_setAll_of_not_mem (h : o ∉ options.map Prod.fst) :
    (p.setAll m options).getOr n o d = p.getOr n o d := by
  rw [getOr, get_setAll_of_not_mem (Section.toList_ne_of_not_mem h), getOr]

theorem getOr_setAll_text (hs : p.find n = some s)
    (hnodup : (options.map Prod.fst).Nodup) (ht : (o, .text t) ∈ options) :
    (p.setAll n options).getOr n o d = .text (if t = [] then d.toList else t) := by
  rw [getOr, get, find_setAll_self, hs, Option.map_some, Option.bind_some,
    Section.options_setAll_of_mem hnodup ht]
  cases t with
  | nil => rfl
  | cons ch t => simp [Value.stored, Option.filter]

end

/-! ## Sections as a list -/

theorem sections_delete : (p.delete n).sections = p.sections.filter fun e => e.1 ≠ n := rfl

theorem map_modify_last {l : List (Text × Section)} (hn : n ∉ l.map Prod.fst) :
    (l ++ [(n, s)]).map (fun e => if e.1 = n then (e.1, f e.2) else e) = l ++ [(n, f s)] := by
  have hsame : l.map (fun e => if e.1 = n then (e.1, f e.2) else e) = l := by
    refine (List.map_congr_left fun e he => ?_).trans (List.map_id l)
    exact if_neg fun heq => hn (List.mem_map.2 ⟨e, he, heq⟩)
  rw [List.map_append, hsame, List.map_singleton, if_pos rfl]

theorem sections_newSection (h : n ∉ p.names) :
    (p.newSection n type options).sections = p.sections ++ [(n, .make type options)] := by
  have hset : ∀ (options : List (String × Value)) (q : Package) (s : Section),
      q.sections = p.sections ++ [(n, s)] → (q.setAll n options).sections =
        p.sections ++ [(n, s.setAll options)] := by
    intro options
    induction options with
    | nil => exact fun q s hq => hq
    | cons o options ih =>
      intro q s hq
      exact ih (q.set n o.1.toList o.2) _ ((congrArg _ hq).trans
        (map_modify_last (f := fun s => s.set o.1.toList o.2) h))
  refine hset options _ _ ?_
  rw [setType, dif_neg h]

theorem not_mem_names (h : ∀ e ∈ p.sections, e.1 ≠ n) : n ∉ p.names := by
  intro hmem
  obtain ⟨e, he, heq⟩ := List.mem_map.1 hmem
  exact h e he heq

theorem sections_newSections {ds : List Draft} (hnodup : (ds.map Draft.name).Nodup)
    (hnew : ∀ d ∈ ds, ∀ e ∈ p.sections, e.1 ≠ d.name) :
    (p.newSections ds).sections = p.sections ++ ds.map Draft.entry := by
  unfold newSections
  induction ds generalizing p with
  | nil => simp
  | cons d ds ih =>
    rw [List.map_cons, List.nodup_cons] at hnodup
    have hfirst : (p.newSection d.name d.type d.options).sections = p.sections ++ [d.entry] :=
      sections_newSection (not_mem_names (hnew d List.mem_cons_self))
    rw [List.foldl_cons, ih hnodup.2, hfirst, List.append_assoc]
    · rfl
    · intro d' hd' e he
      rw [hfirst] at he
      obtain he | he := List.mem_append.1 he
      · exact hnew d' (List.mem_cons_of_mem _ hd') e he
      · obtain rfl := List.mem_singleton.1 he
        intro heq
        exact hnodup.1 (List.mem_map.2 ⟨d', hd', heq.symm⟩)

theorem anonName_not_mem : p.anonName ∉ p.names := by
  intro h
  have hle : ∀ l : List Text, ∀ n ∈ l, n.length ≤ (l.map List.length).sum := by
    intro l n hn
    exact List.le_sum_of_mem (List.mem_map_of_mem hn)
  have hlength := hle p.names _ h
  simp only [anonName, List.length_append, List.length_replicate] at hlength
  have hcfg : "cfg".toList.length = 3 := rfl
  omega

theorem sections_add :
    (p.add type options).sections = p.sections ++ [(p.anonName, .make type options)] :=
  sections_newSection anonName_not_mem

theorem sections_deleteAll : (p.deleteAll ns).sections = p.sections.filter fun e => e.1 ∉ ns := by
  unfold deleteAll
  induction ns generalizing p with
  | nil => simp
  | cons n ns ih =>
    rw [List.foldl_cons, ih, delete, List.filter_filter]
    refine List.filter_congr fun e _ => ?_
    by_cases he : e.1 = n <;> simp [he]

theorem mem_map_owned_iff {own : Text × Section → Bool} {e : Text × Section} (he : e ∈ p.sections) :
    e.1 ∈ (p.owned own).map Prod.fst ↔ own e = true := by
  constructor
  · intro hmem
    obtain ⟨⟨m, s⟩, hs, hm⟩ := List.mem_map.1 hmem
    obtain ⟨hs, hown⟩ := List.mem_filter.1 hs
    have hfind : p.find m = some s := find_eq_some_iff.2 hs
    have hfind' : p.find e.1 = some e.2 := find_eq_some_iff.2 he
    dsimp only at hm
    subst hm
    cases hfind'.symm.trans hfind
    exact hown
  · intro hown
    exact List.mem_map.2 ⟨e, List.mem_filter.2 ⟨he, hown⟩, rfl⟩

theorem mem_map_ofType_iff {e : Text × Section} (he : e ∈ p.sections) :
    e.1 ∈ (p.ofType type).map Prod.fst ↔ e.2.type = type :=
  (mem_map_owned_iff he).trans decide_eq_true_iff

theorem sections_deleteOwned (own : Text × Section → Bool) :
    (p.deleteAll ((p.owned own).map Prod.fst)).sections = p.sections.filter fun e => !own e := by
  rw [sections_deleteAll]
  refine List.filter_congr fun e he => ?_
  simp only [mem_map_owned_iff he]
  cases own e <;> rfl

theorem sections_deleteType :
    (p.deleteType type).sections = p.sections.filter fun e => e.2.type ≠ type :=
  (sections_deleteOwned fun e => e.2.type = type).trans (by simp)

/-- What is added comes last, in order. -/
theorem sections_addAll (rules : List (List (String × Value))) :
    ∃ new, (rules.foldl (fun p options => p.add type options) p).sections = p.sections ++ new ∧
      new.map Prod.snd = rules.map (Section.make type) := by
  induction rules generalizing p with
  | nil => exact ⟨[], (List.append_nil _).symm, rfl⟩
  | cons options rules ih =>
    obtain ⟨new, hnew, hmap⟩ := ih (p := p.add type options)
    refine ⟨(p.anonName, .make type options) :: new, ?_, ?_⟩
    · rw [List.foldl_cons, hnew, sections_add, List.append_assoc, List.singleton_append]
    · rw [List.map_cons, hmap, List.map_cons]

theorem ofType_modify (hf : ∀ s, (f s).type = s.type) (h : p.typeOf n ≠ some type) :
    (p.modify n f).ofType type = p.ofType type := by
  have hsame : ∀ e ∈ p.sections, e.2.type = type → e.1 ≠ n := by
    rintro ⟨m, s⟩ he htype rfl
    exact h (typeOf_eq_some_iff.2 ⟨s, mem_ofType_iff.2 ⟨find_eq_some_iff.2 he, htype⟩⟩)
  unfold ofType modify
  dsimp only
  rw [List.filter_map]
  have hfilter : (p.sections.filter ((fun e => decide (e.2.type = type)) ∘
      fun e => if e.1 = n then (e.1, f e.2) else e)) = p.sections.filter fun e => e.2.type = type := by
    refine List.filter_congr fun e _ => ?_
    by_cases he : e.1 = n <;> simp [he, hf]
  rw [hfilter]
  refine (List.map_congr_left fun e he => ?_).trans (List.map_id _)
  obtain ⟨hmem, htype⟩ := List.mem_filter.1 he
  exact if_neg (hsame e hmem (of_decide_eq_true htype))

theorem ofType_setAll (h : p.typeOf n ≠ some type) :
    (p.setAll n options).ofType type = p.ofType type := by
  unfold setAll
  induction options generalizing p with
  | nil => rfl
  | cons o options ih =>
    rw [List.foldl_cons, ih (typeOf_set.trans_ne h)]
    exact ofType_modify (fun _ => rfl) h

theorem eq_of_sections {q : Package} (h : p.sections = q.sections) : p = q := by
  cases p
  cases q
  cases h
  rfl

theorem delete_newSection (h : p.find n = none) : (p.newSection n type options).delete n = p := by
  have hnames : n ∉ p.names := by
    intro hmem
    obtain ⟨s, hs⟩ := mem_names_iff.1 hmem
    rw [h] at hs
    cases hs
  refine eq_of_sections ?_
  rw [sections_delete, sections_newSection hnames, List.filter_append, List.filter_eq_self.2]
  · simp
  · intro e he
    refine decide_eq_true fun heq => hnames ?_
    exact List.mem_map.2 ⟨e, he, heq⟩

theorem find_newSection_self (h : p.find n = none) :
    (p.newSection n type options).find n = some (.make type options) := by
  rw [newSection, find_setAll_self, find_setType_self, h]
  rfl

theorem find_newSection_of_ne (h : m ≠ n) : (p.newSection n type options).find m = p.find m := by
  rw [newSection, find_setAll_of_ne h, find_setType_of_ne h]

theorem find_deleteAll_of_mem (h : n ∈ ns) : (p.deleteAll ns).find n = none := by
  refine Option.eq_none_iff_forall_not_mem.2 fun s hs => ?_
  have hmem := find_eq_some_iff.1 hs
  rw [sections_deleteAll] at hmem
  exact of_decide_eq_true (List.mem_filter.1 hmem).2 h

theorem find_deleteType {s : Section} (h : p.find n = some s) (htype : s.type ≠ type) :
    (p.deleteType type).find n = some s := by
  rw [find_eq_some_iff, sections_deleteType]
  exact List.mem_filter.2 ⟨find_eq_some_iff.1 h, decide_eq_true htype⟩

theorem find_add (h : p.find n = some s) : (p.add type options).find n = some s := by
  rw [find_eq_some_iff, sections_add]
  exact List.mem_append_left _ (find_eq_some_iff.1 h)

theorem ofType_deleteType : (p.deleteType type).ofType type = [] := by
  rw [ofType, sections_deleteType, List.filter_eq_nil_iff]
  intro e he
  simpa using (List.mem_filter.1 he).2

theorem ofType_add {options : List (String × Value)} : (p.add type options).ofType type =
    p.ofType type ++ [(p.anonName, .make type options)] := by
  rw [ofType, sections_add, List.filter_append]
  simp [ofType]

theorem typeOf_newSection_self : (p.newSection n type options).typeOf n = some type := by
  rw [newSection, typeOf_setAll, typeOf_setType_self]

theorem typeOf_newSection_of_ne (h : m ≠ n) :
    (p.newSection n type options).typeOf m = p.typeOf m := by
  rw [newSection, typeOf_setAll, typeOf_setType_of_ne h]

theorem get_newSection_of_ne (h : m ≠ n) : (p.newSection n type options).get m o = p.get m o := by
  rw [get, find_newSection_of_ne h, get]

theorem typeOf_anonName : p.typeOf p.anonName = none := by
  refine Option.map_eq_none_iff.2 (Option.eq_none_iff_forall_not_mem.2 fun s hs => ?_)
  exact anonName_not_mem (mem_names_iff.2 ⟨s, hs⟩)

theorem owned_of_replaced {own : Text × Section → Bool} {q : Package}
    (h : q.sections = p.sections.filter (fun e => !own e) ++ new)
    (hnew : ∀ e ∈ new, own e = true) : q.owned own = new := by
  have hold : (p.sections.filter fun e => !own e).filter own = [] := by
    refine List.filter_eq_nil_iff.2 fun e he => ?_
    simpa using (List.mem_filter.1 he).2
  rw [owned, h, List.filter_append, hold, List.nil_append, List.filter_eq_self.2 hnew]

/-! ## Edits of one section -/

/-- Apart from the options `os` of the section `n`, the package `q` has what `p` has. -/
structure Edits (p q : Package) (n : Text) (os : List Text) : Prop where
  typeOf : ∀ m, q.typeOf m = p.typeOf m
  get : ∀ {m o}, m ≠ n ∨ o ∉ os → q.get m o = p.get m o

namespace Edits
variable {q : Package} {os : List Text}

theorem refl (p : Package) (n : Text) (os : List Text) : Edits p p n os :=
  ⟨fun _ => rfl, fun _ => rfl⟩

theorem trans (h : Edits p q n os) (h' : Edits q r n os) : Edits p r n os :=
  ⟨fun m => (h'.typeOf m).trans (h.typeOf m), fun hne => (h'.get hne).trans (h.get hne)⟩

theorem mono (h : Edits p q n os) (hos : os ⊆ os') : Edits p q n os' :=
  ⟨h.typeOf, fun hne => h.get (hne.imp_right fun hnot hmem => hnot (hos hmem))⟩

theorem set (h : Edits p q n os) (ho : o ∈ os) (v : Value) : Edits p (q.set n o v) n os := by
  refine ⟨fun m => typeOf_set.trans (h.typeOf m), fun {m o'} hne => ?_⟩
  rw [get_set_of_ne, h.get hne]
  exact hne.imp_right fun hnot heq => hnot (heq ▸ ho)

theorem unset (h : Edits p q n os) (ho : o ∈ os) : Edits p (q.unset n o) n os := by
  refine ⟨fun m => typeOf_unset.trans (h.typeOf m), fun {m o'} hne => ?_⟩
  rw [get_unset_of_ne, h.get hne]
  exact hne.imp_right fun hnot heq => hnot (heq ▸ ho)

end Edits
end Package
end GlXe3000
