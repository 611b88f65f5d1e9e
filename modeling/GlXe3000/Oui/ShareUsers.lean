import GlXe3000.Lib.Lua
import GlXe3000.Lib.Words

/-! # The users of a share

`save_share` of `ksmbd.lua` joins the names of the users into one option and those of the users with
write access into another. `share_result` takes the first apart and searches the second for each of
the names, as a part of the text and not as one of its words. -/

namespace GlXe3000.Oui.Share
open Text

/-- `[%w_.%-]`. -/
def isUserChar (c : Char) : Bool := isAlnum c || c = '_' || c = '.' || c = '-'

def validUser (name : Text) : Bool := 1 ≤ name.length && name.length ≤ 32 && name.all isUserChar

structure User where
  name : Text
  readonly : Bool
  valid : validUser name = true

/-- The options `users` and `write_list`. -/
structure Options where
  users : Option Text
  writeList : Option Text

section
variable (lua : Lua)

/-- An item of the request, unless it has no valid name. -/
def readUser (item : Json) : Option User :=
  match (item.field "name").bind Json.asText with
  | none => none
  | some t =>
    if h : validUser t = true then
      some ⟨t, (item.field "readonly").bind lua.number = some 1, h⟩
    else none

/-- The users of `args.users`, which is one of them or a list. -/
def requestedUsers (users : Json) : List User :=
  (if Json.truthy (users.field "name") then [users] else users.items).filterMap (readUser lua)

/-- `table.concat(names, " ")`, for an option that is deleted if there are no names. -/
def joined (names : List Text) : Option Text :=
  if names = [] then none else some ([' '].intercalate names)

def writable (us : List User) : List User := us.filter fun u => !u.readonly

def saveShare (users : Json) : Options where
  users := joined ((requestedUsers lua users).map User.name)
  writeList := joined ((writable (requestedUsers lua users)).map User.name)

end

/-- The names of `share_result`, each with its flag `readonly`. -/
def shareResult (s : Options) : List (Text × Bool) :=
  (nonSpaces (s.users.getD [])).map fun name => (name, !has (s.writeList.getD []) name)

/-! ## Joined names -/

theorem User.name_ne_nil (u : User) : u.name ≠ [] := by
  intro h
  have hvalid := u.valid
  rw [h] at hvalid
  cases hvalid

theorem User.not_isSpace (u : User) (hc : c ∈ u.name) : isSpace c = false := by
  have hvalid := u.valid
  simp only [validUser, Bool.and_eq_true, List.all_eq_true] at hvalid
  have hchar := hvalid.2 c hc
  cases hspace : isSpace c with
  | false => rfl
  | true =>
    simp only [isSpace, isUserChar, isAlnum, isDigit, Bool.or_eq_true, Bool.and_eq_true,
      decide_eq_true_eq] at hspace hchar
    obtain rfl | ⟨-, hle⟩ := hspace
    · exact absurd hchar (by decide)
    · obtain (((((⟨h, -⟩ | ⟨h, -⟩) | ⟨h, -⟩) | rfl) | rfl) | rfl) := hchar
      · exact absurd (h.trans hle) (by decide)
      · exact absurd (h.trans hle) (by decide)
      · exact absurd (h.trans hle) (by decide)
      all_goals exact absurd hle (by decide)

theorem getD_joined (names : List Text) : (joined names).getD [] = [' '].intercalate names := by
  unfold joined
  split_ifs with h
  · rw [h]
    rfl
  · rfl

theorem nonSpaces_joined (us : List User) :
    nonSpaces ((joined (us.map User.name)).getD []) = us.map User.name := by
  rw [getD_joined]
  refine nonSpaces_intercalate rfl fun w hw => ?_
  obtain ⟨u, -, rfl⟩ := List.mem_map.1 hw
  exact ⟨u.name_ne_nil, fun c => u.not_isSpace⟩

theorem has_append_cons (hc : c ∉ u) :
    has (w ++ c :: t) u = true ↔ has w u = true ∨ has t u = true := by
  simp only [has_iff]
  constructor
  · rintro ⟨a, b, h⟩
    obtain ⟨x, ha, ht⟩ | ⟨x, hw, -⟩ := List.append_eq_append_iff.1 h
    · cases x with
      | nil => exact .inl ⟨a, [], by simpa using ha.symm⟩
      | cons d x =>
        -- The occurrence ends after the separator, so it starts after it, too.
        rw [List.cons_append, List.cons.injEq] at ht
        obtain ⟨rfl, rfl⟩ := ht
        obtain ⟨y, -, hu⟩ | ⟨y, -, hx⟩ := List.append_eq_append_iff.1 ha
        · exact absurd (hu ▸ by simp) hc
        · cases y with
          | nil => exact absurd ((List.nil_append u ▸ hx) ▸ List.mem_cons_self) hc
          | cons e y =>
            rw [List.cons_append, List.cons.injEq] at hx
            exact .inr ⟨y, b, by rw [hx.2]⟩
    · exact .inl ⟨a, x, hw⟩
  · rintro (⟨a, b, rfl⟩ | ⟨a, b, rfl⟩)
    · exact ⟨a, b ++ c :: t, by simp⟩
    · exact ⟨w ++ c :: a, b, by simp⟩

theorem has_intercalate {ws : List Text} {u : Text} (hne : u ≠ []) (hu : ' ' ∉ u) :
    has ([' '].intercalate ws) u = true ↔ ∃ w ∈ ws, has w u = true := by
  induction ws with
  | nil =>
    refine iff_of_false ?_ ?_
    · intro h
      obtain ⟨a, b, h⟩ := has_iff.1 h
      exact hne (List.append_eq_nil_iff.1 (List.append_eq_nil_iff.1 h.symm).1).2
    · rintro ⟨w, hw, -⟩
      exact absurd hw List.not_mem_nil
  | cons w ws ih =>
    cases ws with
    | nil => simp
    | cons v ws =>
      rw [List.intercalate_cons_cons, List.append_assoc, List.singleton_append,
        has_append_cons hu, ih]
      simp only [List.mem_cons, exists_eq_or_imp]

/-- The users and their flags are listed as they were saved if and only if no name of a user without
write access is a part of the name of one with it. -/
theorem share_users_iff (lua : Lua) (users : Json) :
    shareResult (saveShare lua users) =
        (requestedUsers lua users).map (fun u => (u.name, u.readonly)) ↔
      ∀ u ∈ requestedUsers lua users, u.readonly = true →
        ∀ w ∈ requestedUsers lua users, w.readonly = false → has w.name u.name = false := by
  rw [shareResult, saveShare, nonSpaces_joined, List.map_map]
  generalize requestedUsers lua users = us
  rw [List.map_inj_left]
  refine forall₂_congr fun u hu => ?_
  have hhas := @has_intercalate ((writable us).map User.name) u.name u.name_ne_nil
    fun h => absurd (u.not_isSpace h) (by decide)
  rw [Function.comp, Prod.mk.injEq, getD_joined]
  simp only [true_and]
  cases hflag : u.readonly with
  | false =>
    refine iff_of_true ?_ fun h => by cases h
    rw [Bool.not_eq_false', hhas]
    refine ⟨u.name, List.mem_map.2 ⟨u, List.mem_filter.2 ⟨hu, by rw [hflag]; rfl⟩, rfl⟩, ?_⟩
    exact has_iff.2 ⟨[], [], by simp⟩
  | true =>
    rw [Bool.not_eq_true', ← Bool.not_eq_true, hhas]
    constructor
    · intro h _ w hw hwrite
      refine Bool.eq_false_iff.2 fun hpart => h ?_
      exact ⟨w.name, List.mem_map.2 ⟨w, List.mem_filter.2 ⟨hw, by rw [hwrite]; rfl⟩, rfl⟩, hpart⟩
    · rintro h ⟨_, hname, hpart⟩
      obtain ⟨w, hw, rfl⟩ := List.mem_map.1 hname
      obtain ⟨hw, hwrite⟩ := List.mem_filter.1 hw
      rw [h rfl w hw (by simpa using hwrite)] at hpart
      cases hpart

/-- One user who may only read, and one with write access and a longer name. -/
def bobs : Json :=
  .arr [.obj [("name", .str "bob"), ("readonly", .num 1)], .obj [("name", .str "bobby")]]

/-- The first of them is listed with write access. -/
theorem reader_shown_writable :
    (requestedUsers .decimal bobs).map (fun u => (u.name, u.readonly)) =
        [("bob".toList, true), ("bobby".toList, false)] ∧
      shareResult (saveShare .decimal bobs) = [("bob".toList, false), ("bobby".toList, false)] := by
  decide

end GlXe3000.Oui.Share
