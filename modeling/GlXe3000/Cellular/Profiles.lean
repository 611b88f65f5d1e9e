import GlXe3000.Lib.Lua
import GlXe3000.Lib.Machine

/-! # The APN profiles

`set_profile` and `remove_profile` of `modem.lua`. Profiles are the sections of type `apn_profile` of
`gl-cellular`, which has the daemon's own sections as well. A profile is known by the name of its
section, which is made up of the clock and a random number when it is added. -/

namespace GlXe3000.Cellular.Profiles
open Text

def profileMax : Nat := 8

def profile : Text := "apn_profile"

/-- `#t`. -/
def byteLength (t : Text) : Nat := (t.map Char.utf8Size).sum

/-- `args.id`, if it is a string. -/
def idOf (args : Json) : Option Text := (arg args "id").bind Json.asText

/-- `string.format("p%d%03d", os.time(), math.random(0, 999))`. -/
def newId (time : Nat) (random : Fin 1000) : Text :=
  let digits := Nat.toDigits 10 random
  'p' :: Nat.toDigits 10 time ++ List.replicate (3 - digits.length) '0' ++ digits

section
variable (lua : Lua)

/-- What `put` stores; nothing is for `nil` and the empty text. -/
def putValue : Option Json → Option Value
  | none | some (.str []) => none
  | some v => some (.text (lua.asString v))

/-- `args.auth and tostring(args.auth):lower()`. -/
def authOf (args : Json) : Option Json :=
  match arg args "auth" with
  | some (.bool false) => some (.bool false)
  | some v => some (.str (lower (lua.asString v)))
  | none => none

def numberOf (args : Json) (key : String) : Option Rat := (arg args key).bind lua.number

/-- `n and n > 0 and n or nil`. -/
def positive (args : Json) (key : String) : Option Json :=
  ((numberOf lua args key).filter fun n => 0 < n).map .num

def bandsOf (args : Json) (src : String) : Option Value :=
  match (arg args "band_list").bind (Json.field src.toList) with
  | some (.arr (b :: bs)) => some (.list ((b :: bs).map lua.asString))
  | _ => none

/-- What `set_profile` writes behind the name, key by key. -/
def details (args : Json) : List (String × Option Value) :=
  [("apn", putValue lua (arg args "apn")),
    ("protocol", putValue lua (arg args "protocol")),
    ("device", putValue lua (arg args "device")),
    ("service", putValue lua (arg args "service")),
    ("dial_number", putValue lua (arg args "dial_number")),
    ("auth", putValue lua (authOf lua args)),
    ("username", putValue lua (arg args "username")),
    ("password", putValue lua (arg args "password")),
    ("ip_type", putValue lua (some (.num ((numberOf lua args "ip_type").getD 0)))),
    ("network_mode", putValue lua (arg args "network_mode"))] ++
  ((arg args "roaming").toList.map fun v => ("roaming", some (flag (some v)))) ++
  [("ttl", putValue lua (positive lua args "ttl")),
    ("hl", putValue lua (positive lua args "hl")),
    ("mtu", putValue lua (positive lua args "mtu")),
    ("band_enable", some (flag (arg args "band_enable"))),
    ("band_filter_mode", putValue lua ((numberOf lua args "band_filter_mode").map .num)),
    ("lte_bands", bandsOf lua args "LTE"),
    ("nsa_bands", bandsOf lua args "NR-NSA"),
    ("sa_bands", bandsOf lua args "NR-SA")]

end

/-- One key of the section `id` is set or deleted. -/
def put (id : Text) (p : Package) (change : String × Option Value) : Package :=
  match change.2 with
  | none => p.unset id change.1.toList
  | some v => p.set id change.1.toList v

def putAll (p : Package) (id : Text) (changes : List (String × Option Value)) : Package :=
  changes.foldl (put id) p

def clash (p : Package) (args : Json) (name : Text) : Bool :=
  (p.ofType profile).any fun e =>
    e.2.options "name" = some (.text name) && idOf args ≠ some e.1

def editing (p : Package) (args : Json) : Option Text :=
  (idOf args).filter fun id => p.typeOf id = some profile

inductive Refusal
  | missingName | nameTooLong | nameExists | tooMany | missingId | noSuchProfile
  deriving DecidableEq

def Refusal.message : Refusal → Text
  | .missingName => "missing name"
  | .nameTooLong => "name too long"
  | .nameExists => "profile name already exists"
  | .tooMany => "too many profiles"
  | .missingId => "missing id"
  | .noSuchProfile => "no such profile"

section
variable (lua : Lua)

def nameOf (args : Json) : Except Refusal Text :=
  match arg args "name" with
  | some (.str (c :: name)) =>
    if byteLength (c :: name) > 64 then .error .nameTooLong else .ok (c :: name)
  | _ => .error .missingName

def target (p : Package) (args : Json) (new : Text) : Except Refusal (Text × Package) :=
  match editing p args with
  | some id => .ok (id, p)
  | none =>
    if (p.ofType profile).length ≥ profileMax then .error .tooMany
    else .ok (new, p.setType new profile)

/-- `set_profile`, with the id it makes up for a new profile: the id it returns and the package. -/
def setProfile (p : Package) (args : Json) (new : Text) : Except Refusal (Text × Package) := do
  let name ← nameOf args
  check (!clash p args name) .nameExists
  let (id, q) ← target p args new
  return (id, putAll q id (("name", some (.text name)) :: details lua args))

def removeProfile (p : Package) (args : Json) : Except Refusal Package :=
  match idOf args with
  | none | some [] => .error .missingId
  | some id =>
    if p.typeOf id = some profile then .ok (p.delete id) else .error .noSuchProfile

inductive Event
  | set (args : Json) (time : Nat) (random : Fin 1000)
  | remove (args : Json)

def step (p : Package) : Event → Package
  | .set args time random =>
    match setProfile lua p args (newId time random) with
    | .ok (_, q) => q
    | .error _ => p
  | .remove args =>
    match removeProfile p args with
    | .ok q => q
    | .error _ => p

def machine : Machine Package Event := ⟨step lua⟩

end

/-! ## What a call does -/

section
variable {lua : Lua} {p q : Package} {args : Json} {new id m name : Text}

theorem typeOf_put : (put id p change).typeOf m = p.typeOf m := by
  unfold put
  split
  · exact Package.typeOf_unset
  · exact Package.typeOf_set

theorem find_put_of_ne (h : m ≠ id) : (put id p change).find m = p.find m := by
  unfold put
  split
  · exact Package.find_modify_of_ne h
  · exact Package.find_modify_of_ne h

theorem get_put_of_ne {change : String × Option Value} (h : o ≠ change.1.toList) :
    (put id p change).get id o = p.get id o := by
  unfold put
  split
  · exact Package.get_unset_of_ne (.inr h)
  · exact Package.get_set_of_ne (.inr h)

theorem putAll_cons : putAll p id (change :: changes) = putAll (put id p change) id changes := rfl

theorem putAll_spec (changes : List (String × Option Value)) :
    (∀ m, (putAll p id changes).typeOf m = p.typeOf m) ∧
      (∀ m, m ≠ id → (putAll p id changes).find m = p.find m) ∧
      ∀ o, (∀ change ∈ changes, o ≠ change.1.toList) →
        (putAll p id changes).get id o = p.get id o := by
  induction changes generalizing p with
  | nil => exact ⟨fun _ => rfl, fun _ _ => rfl, fun _ _ => rfl⟩
  | cons change changes ih =>
    obtain ⟨htype, hfind, hget⟩ := @ih (put id p change)
    refine ⟨fun m => (htype m).trans typeOf_put, fun m hm => (hfind m hm).trans (find_put_of_ne hm),
      fun o ho => ?_⟩
    obtain ⟨hne, ho⟩ := List.forall_mem_cons.mp ho
    exact (hget o ho).trans (get_put_of_ne hne)

theorem details_ne_name : ∀ change ∈ details lua args, "name" ≠ change.1.toList := by
  have hkeys : "name" ∉ (details lua args).map Prod.fst := by
    unfold details
    cases arg args "roaming" <;> simp
  intro change hchange heq
  exact hkeys (List.mem_map.mpr ⟨change, hchange, (String.toList_injective heq).symm⟩)

/-- A call that goes through writes to one profile, which has the name afterwards and is the one of the
request or a new one. -/
structure Writes (p q : Package) (args : Json) (new id name : Text) : Prop where
  find : ∀ m, m ≠ id → q.find m = p.find m
  typeOf : q.typeOf id = some profile
  named : q.get id "name" = some (.text name)
  noClash : ∀ m, p.typeOf m = some profile → p.get m "name" = some (.text name) →
    idOf args = some m
  origin : (idOf args = some id ∧ p.typeOf id = some profile) ∨
    id = new ∧ editing p args = none ∧ (p.ofType profile).length < profileMax

theorem editing_eq_some : editing p args = some id ↔
    idOf args = some id ∧ p.typeOf id = some profile := by
  unfold editing
  rw [Option.filter_eq_some_iff, decide_eq_true_eq]

theorem editing_eq_none (h : editing p args = none) (hm : p.typeOf m = some profile) :
    idOf args ≠ some m := by
  intro hid
  have hsome := editing_eq_some.mpr ⟨hid, hm⟩
  rw [h] at hsome
  exact nomatch hsome

theorem noClash_of_clash (h : clash p args name = false) (hm : p.typeOf m = some profile)
    (hname : p.get m "name" = some (.text name)) : idOf args = some m := by
  obtain ⟨s, hs⟩ := Package.typeOf_eq_some_iff.mp hm
  have hfind := (Package.mem_ofType_iff.mp hs).1
  have hoption : s.options "name" = some (.text name) := by
    rw [Package.get, hfind] at hname
    exact hname
  have hnot := List.any_eq_false.mp h (m, s) hs
  by_contra hid
  exact hnot (Bool.and_eq_true_iff.mpr ⟨decide_eq_true hoption, decide_eq_true hid⟩)

theorem get_putAll_name (h : (p.typeOf id).isSome) (hname : name ≠ []) :
    (putAll p id (("name", some (.text name)) :: details lua args)).get id "name" =
      some (.text name) := by
  rw [putAll_cons]
  generalize hchanges : details lua args = changes
  have hne : ∀ change ∈ changes, "name" ≠ change.1.toList := hchanges ▸ details_ne_name
  obtain ⟨-, -, hget⟩ := putAll_spec (p := put id p ("name", some (.text name))) changes
  exact (hget _ hne).trans ((Package.get_set_self h).trans (Value.stored_text hname))

theorem nameOf_ne_nil (h : nameOf args = .ok name) : name ≠ [] := by
  unfold nameOf at h
  split at h
  · split_ifs at h
    exact Except.ok.inj h ▸ List.cons_ne_nil _ _
  · exact nomatch h

theorem setProfile_writes (h : setProfile lua p args new = .ok (id, q)) :
    ∃ name, Writes p q args new id name := by
  obtain ⟨name, hname, h⟩ := bind_eq_ok.mp h
  obtain ⟨_, hclash, h⟩ := bind_eq_ok.mp h
  obtain ⟨⟨id', r⟩, htarget, h⟩ := bind_eq_ok.mp h
  obtain ⟨rfl, rfl⟩ := Prod.mk.inj (Except.ok.inj h)
  have hclash : clash p args name = false := by simpa using check_eq_ok.mp hclash
  refine ⟨name, ?_⟩
  obtain ⟨htype, hfind, -⟩ := @putAll_spec r id'
    (("name", some (.text name)) :: details lua args)
  unfold target at htarget
  split at htarget
  · rename_i hedit
    obtain ⟨rfl, rfl⟩ := Prod.mk.inj (Except.ok.inj htarget)
    obtain ⟨hid, hprofile⟩ := editing_eq_some.mp hedit
    exact ⟨hfind, (htype _).trans hprofile,
      get_putAll_name (by rw [hprofile]; rfl) (nameOf_ne_nil hname),
      fun m hm => noClash_of_clash hclash hm, .inl ⟨hid, hprofile⟩⟩
  · rename_i hedit
    split_ifs at htarget with hcount
    obtain ⟨rfl, rfl⟩ := Prod.mk.inj (Except.ok.inj htarget)
    have hprofile : (p.setType new profile).typeOf new = some profile := Package.typeOf_setType_self
    exact ⟨fun m hm => (hfind m hm).trans (Package.find_setType_of_ne hm),
      (htype _).trans hprofile,
      get_putAll_name (by rw [hprofile]; rfl) (nameOf_ne_nil hname),
      fun m hm => noClash_of_clash hclash hm, .inr ⟨rfl, hedit, Nat.not_le.mp hcount⟩⟩

theorem typeOf_congr (h : q.find m = p.find m) : q.typeOf m = p.typeOf m :=
  congrArg (Option.map Section.type) h

theorem get_congr (h : q.find m = p.find m) : q.get m o = p.get m o :=
  congrArg (fun s : Option Section => s.bind fun s => s.options o) h

end

/-! ## The invariant -/

/-- There are not too many profiles, and no two have one name. -/
structure Sound (p : Package) : Prop where
  count : (p.ofType profile).length ≤ profileMax
  distinct : ∀ m n, p.typeOf m = some profile → p.typeOf n = some profile →
    p.get m "name" = p.get n "name" → m = n

section
variable {lua : Lua} {p q : Package} {args : Json} {new id name : Text}

theorem length_ofType_le (ns : List Text)
    (h : ∀ m, p.typeOf m = some type → m ∈ ns) : (p.ofType type).length ≤ ns.length := by
  have hnodup : ((p.ofType type).map Prod.fst).Nodup :=
    (List.filter_sublist.map Prod.fst).nodup p.nodup
  have hsub : (p.ofType type).map Prod.fst ⊆ ns := by
    intro m hm
    obtain ⟨⟨m, s⟩, hs, rfl⟩ := List.mem_map.mp hm
    exact h m (Package.typeOf_eq_some_iff.mpr ⟨s, hs⟩)
  have hlength := (hnodup.subperm hsub).length_le
  rwa [List.length_map] at hlength

theorem mem_ofType_names (h : p.typeOf m = some type) : m ∈ (p.ofType type).map Prod.fst := by
  obtain ⟨s, hs⟩ := Package.typeOf_eq_some_iff.mp h
  exact List.mem_map.mpr ⟨(m, s), hs, rfl⟩

theorem Writes.count (w : Writes p q args new id name) (h : Sound p) :
    (q.ofType profile).length ≤ profileMax := by
  have hmem : ∀ m, q.typeOf m = some profile →
      m = id ∨ m ∈ (p.ofType profile).map Prod.fst := by
    intro m hm
    by_cases hid : m = id
    · exact .inl hid
    · exact .inr (mem_ofType_names ((typeOf_congr (w.find m hid)).symm.trans hm))
  rcases w.origin with ⟨-, hprofile⟩ | ⟨-, -, hcount⟩
  · have hle := length_ofType_le (p := q) ((p.ofType profile).map Prod.fst) fun m hm =>
      (hmem m hm).elim (fun hid => hid ▸ mem_ofType_names hprofile) fun hm => hm
    rw [List.length_map] at hle
    exact hle.trans h.count
  · have hle := length_ofType_le (p := q) (id :: (p.ofType profile).map Prod.fst) fun m hm =>
      List.mem_cons.mpr (hmem m hm)
    rw [List.length_cons, List.length_map] at hle
    exact hle.trans hcount

theorem Writes.other_name (w : Writes p q args new id name) (hm : m ≠ id)
    (hprofile : p.typeOf m = some profile) : p.get m "name" ≠ some (.text name) := by
  intro hname
  have hid := w.noClash m hprofile hname
  rcases w.origin with ⟨hid', -⟩ | ⟨-, hedit, -⟩
  · exact hm (Option.some.inj (hid.symm.trans hid'))
  · exact editing_eq_none hedit hprofile hid

theorem Writes.distinct (w : Writes p q args new id name) (h : Sound p) (m n : Text)
    (hm : q.typeOf m = some profile) (hn : q.typeOf n = some profile)
    (hname : q.get m "name" = q.get n "name") : m = n := by
  by_cases hmid : m = id
  · by_cases hnid : n = id
    · exact hmid.trans hnid.symm
    · rw [typeOf_congr (w.find n hnid)] at hn
      rw [hmid, w.named, get_congr (w.find n hnid)] at hname
      exact absurd hname.symm (w.other_name hnid hn)
  · rw [typeOf_congr (w.find m hmid)] at hm
    rw [get_congr (w.find m hmid)] at hname
    by_cases hnid : n = id
    · rw [hnid, w.named] at hname
      exact absurd hname (w.other_name hmid hm)
    · rw [typeOf_congr (w.find n hnid)] at hn
      rw [get_congr (w.find n hnid)] at hname
      exact h.distinct m n hm hn hname

theorem Sound.delete (h : Sound p) : Sound (p.delete id) := by
  have hold : ∀ m, (p.delete id).typeOf m = some profile → m ≠ id := by
    rintro m hm rfl
    rw [Package.typeOf_delete_self] at hm
    exact nomatch hm
  constructor
  · have hle := length_ofType_le (p := p.delete id) ((p.ofType profile).map Prod.fst)
      fun m hm => mem_ofType_names
        ((Package.typeOf_delete_of_ne (hold m hm)).symm.trans hm)
    rw [List.length_map] at hle
    exact hle.trans h.count
  · intro m n hm hn hname
    have hmid := hold m hm
    have hnid := hold n hn
    rw [Package.typeOf_delete_of_ne hmid] at hm
    rw [Package.typeOf_delete_of_ne hnid] at hn
    rw [Package.get_delete_of_ne hmid, Package.get_delete_of_ne hnid] at hname
    exact h.distinct m n hm hn hname

theorem removeProfile_deletes (h : removeProfile p args = .ok q) :
    ∃ id, idOf args = some id ∧ q = p.delete id := by
  unfold removeProfile at h
  split at h
  · exact nomatch h
  · exact nomatch h
  · rename_i id _ hid
    split_ifs at h
    exact ⟨id, hid, (Except.ok.inj h).symm⟩

inductive Effect (p q : Package) : Event → Prop
  | nothing {e : Event} (h : q = p) : Effect p q e
  | writes {args : Json} {time : Nat} {random : Fin 1000} {id name : Text}
    (h : Writes p q args (newId time random) id name) : Effect p q (.set args time random)
  | deletes {args : Json} {id : Text} (hid : idOf args = some id) (h : q = p.delete id) :
    Effect p q (.remove args)

theorem step_effect (lua : Lua) (p : Package) (e : Event) : Effect p (step lua p e) e := by
  cases e with
  | set args time random =>
    simp only [step]
    cases h : setProfile lua p args (newId time random) with
    | error r => exact .nothing rfl
    | ok r =>
      obtain ⟨name, w⟩ := setProfile_writes h
      exact .writes w
  | remove args =>
    simp only [step]
    cases h : removeProfile p args with
    | error r => exact .nothing rfl
    | ok q =>
      obtain ⟨id, hid, hq⟩ := removeProfile_deletes h
      exact .deletes hid hq

theorem Sound.step (h : Sound p) : Sound (step lua p e) := by
  cases step_effect lua p e with
  | nothing heq =>
    rw [heq]
    exact h
  | writes w => exact ⟨w.count h, w.distinct h⟩
  | deletes hid heq =>
    rw [heq]
    exact h.delete

end

/-! ## Other profiles -/

/-- The request names the profile `m`. -/
def Event.names (m : Text) : Event → Bool
  | .set args .. | .remove args => idOf args = some m

def Fresh (p : Package) : Event → Prop
  | .set args time random =>
    editing p args = none → p.typeOf (newId time random) ≠ some profile
  | .remove _ => True

instance (p : Package) : DecidablePred (Fresh p)
  | .set args time random =>
    inferInstanceAs (Decidable (editing p args = none →
      p.typeOf (newId time random) ≠ some profile))
  | .remove _ => inferInstanceAs (Decidable True)

def Untouched (lua : Lua) (p : Package) (e : Event) : Prop :=
  ∀ m, p.typeOf m = some profile → e.names m = false → (step lua p e).find m = p.find m

theorem untouched_of_fresh (h : Fresh p e) : Untouched lua p e := by
  intro m hm hnames
  cases step_effect lua p e with
  | nothing heq => rw [heq]
  | writes w =>
    refine w.find m fun hid => ?_
    rcases w.origin with ⟨hnamed, -⟩ | ⟨hnew, hedit, -⟩
    · simp [Event.names, hnamed, hid] at hnames
    · exact h hedit (hnew ▸ hid ▸ hm)
  | @deletes args id hid heq =>
    rw [heq]
    refine Package.find_delete_of_ne fun hmid => ?_
    simp [Event.names, hid, hmid] at hnames

/-- In every run whose additions come up with new ids there are at most eight profiles with different
names, and no call touches a profile it does not name. -/
theorem profiles_kept (lua : Lua) (p : Package) (hp : Sound p) (es : List Event)
    (hes : (machine lua).Admits Fresh p es) :
    ∀ before after, es = before ++ after →
      Sound ((machine lua).run p before) ∧
        ∀ e rest, after = e :: rest → Untouched lua ((machine lua).run p before) e := by
  rintro before after rfl
  obtain ⟨-, hafter⟩ := Machine.admits_append.mp hes
  have hsound : ∀ (es : List Event) (p : Package), Sound p → Sound ((machine lua).run p es) := by
    intro es
    induction es with
    | nil => exact fun p h => h
    | cons e es ih => exact fun p h => ih _ h.step
  refine ⟨hsound before p hp, ?_⟩
  rintro e rest rfl
  exact untouched_of_fresh hafter.1

def named (name : String) : Json := .obj [("name", .str name.toList)]

theorem profiles_kept_two :
    let es : List Event := [.set (named "home") 1 0, .set (named "away") 2 0]
    Sound ((machine .decimal).run .empty es) ∧
      Untouched .decimal ((machine .decimal).run .empty (es.take 1)) (.set (named "away") 2 0) := by
  intro es
  have hempty : Sound .empty := ⟨by decide, fun _ _ hm => nomatch hm⟩
  have h := profiles_kept .decimal .empty hempty es (by decide)
  exact ⟨(h es [] (by simp)).1, (h (es.take 1) (es.drop 1) rfl).2 _ _ rfl⟩

/-- Two profiles are added in one second, with one random number: the second takes the place of the
first. -/
theorem profile_overwritten :
    let first := (machine .decimal).run Package.empty [.set (named "home") 1 0]
    let both := (machine .decimal).run Package.empty [.set (named "home") 1 0, .set (named "away") 1 0]
    first.getText (newId 1 0) "name" = some "home" ∧
      both.getText (newId 1 0) "name" = some "away" ∧
      both.names = [newId 1 0] := by
  decide

end GlXe3000.Cellular.Profiles
