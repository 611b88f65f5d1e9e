import Mathlib

/-! # Text as the shell and Lua tools read it

Replies and options are lists of characters. The matchers are the few forms the scripts use:
substring globs (`*"x"*`), anchored lines (`sed`, `grep`) and Lua patterns that find a tag and read
the run of digits or alphanumerics behind it. -/

namespace GlXe3000

/-- A piece of text. The empty text also stands for an option that is not set and for a reply that
never came: `uci -q get` and `$(...)` read both as `""`. -/
abbrev Text := List Char

/-- A literal is the list of its characters. -/
instance : Coe String Text := ⟨String.toList⟩

-- By a name of its own every test for membership refers to the same proof.
instance instLawfulBEqText : LawfulBEq Text := inferInstance

namespace Text

/-- `[[:space:]]`, and Lua's `%s`. -/
def isSpace (c : Char) : Bool := c = ' ' || ('\t' ≤ c && c ≤ '\r')

/-- `[0-9]`. -/
def isDigit (c : Char) : Bool := '0' ≤ c && c ≤ '9'

/-- `[0-9A-Za-z]`. -/
def isAlnum (c : Char) : Bool := isDigit c || ('A' ≤ c && c ≤ 'Z') || ('a' ≤ c && c ≤ 'z')

/-- The text behind `tag`, if the text starts with it. -/
def strip : Text → Text → Option Text
  | [], t => some t
  | _ :: _, [] => none
  | a :: tag, c :: t => if a = c then strip tag t else none

@[simp] theorem strip_append (tag t : Text) : strip tag (tag ++ t) = some t := by
  induction tag with
  | nil => rfl
  | cons a tag ih => rw [List.cons_append, strip, if_pos rfl, ih]

theorem strip_eq_some : strip tag t = some r ↔ t = tag ++ r := by
  induction tag generalizing t with
  | nil => simp [strip]
  | cons a tag ih =>
    cases t with
    | nil => simp [strip]
    | cons c t =>
      rw [strip]
      split_ifs with hac
      · rw [ih, hac, List.cons_append, List.cons.injEq]
        exact (and_iff_right rfl).symm
      · refine iff_of_false nofun fun h => hac ?_
        rw [List.cons_append, List.cons.injEq] at h
        exact h.1.symm

theorem append_ne_of_head {a b : Text} (ha : a.head? = some x)
    (hb : b.head? = some y) (hxy : x ≠ y) : a ++ r ≠ b ++ s := by
  intro h
  have hhead := congrArg List.head? h
  rw [List.head?_append, List.head?_append, ha, hb] at hhead
  exact hxy (Option.some.inj hhead)

/-- The glob `*"needle"*`, and Lua's `t:match(needle)` for a needle without magic characters. -/
def has : Text → (needle : Text) → Bool
  | [], needle => (strip needle []).isSome
  | c :: t, needle => (strip needle (c :: t)).isSome || has t needle

/-- The lines of a text, as `sed` and `grep` see them. -/
def lines : Text → List Text
  | [] => [[]]
  | c :: t =>
    match lines t with
    | [] => [[c]]
    | l :: ls => if c = '\n' then [] :: l :: ls else (c :: l) :: ls

/-- `tr -d '\r'`. -/
def dropReturns (t : Text) : Text := t.filter (· ≠ '\r')

/-- `-z`/`""|*[!0-9]*`: a non-empty run of digits and nothing else. -/
def isNumber (t : Text) : Bool := !t.isEmpty && t.all isDigit

def toNumber (t : Text) : Nat := t.foldl (fun n c => 10 * n + (c.toNat - '0'.toNat)) 0

theorem toNumber_append (t u : Text) :
    toNumber (t ++ u) = u.foldl (fun n c => 10 * n + (c.toNat - '0'.toNat)) (toNumber t) :=
  List.foldl_append

theorem toNumber_toDigits (n : Nat) : toNumber (Nat.toDigits 10 n) = n := by
  have hdigit : ∀ d < 10, d.digitChar.toNat - '0'.toNat = d := by decide
  induction n using Nat.strongRecOn with
  | ind n ih =>
    rw [Nat.toDigits_eq_if (by decide)]
    split
    · next h =>
      exact (Nat.zero_add _).trans (hdigit n h)
    · next h =>
      rw [toNumber_append, ih _ (Nat.div_lt_self (by omega) (by decide))]
      change 10 * (n / 10) + ((n % 10).digitChar.toNat - '0'.toNat) = n
      rw [hdigit _ (Nat.mod_lt _ (by decide)), Nat.div_add_mod]

theorem isDigit_of_mem_toDigits (hc : c ∈ Nat.toDigits 10 n) : isDigit c = true := by
  have h := Nat.isDigit_of_mem_toDigits (by decide) (by decide) hc
  simp only [Char.isDigit, Bool.and_eq_true, decide_eq_true_eq] at h
  simp only [isDigit, Bool.and_eq_true, decide_eq_true_eq]
  exact h

theorem not_mem_toDigits (h : isDigit c = false) : c ∉ Nat.toDigits 10 n :=
  fun hc => absurd (isDigit_of_mem_toDigits hc) (Bool.eq_false_iff.mp h)

theorem isNumber_toDigits (n : Nat) : isNumber (Nat.toDigits 10 n) = true := by
  have hdigit : (Nat.toDigits 10 n).all isDigit = true :=
    List.all_eq_true.2 fun _ => isDigit_of_mem_toDigits
  simp [isNumber, hdigit, Nat.toDigits_ne_nil]

theorem isSpace_of_isDigit (h : isDigit c = true) : isSpace c = false := by
  simp only [isDigit, Bool.and_eq_true, decide_eq_true_eq, Char.le_def,
    UInt32.le_iff_toNat_le] at h
  simp only [isSpace, Bool.or_eq_false_iff, Bool.and_eq_false_iff, decide_eq_false_iff_not,
    Char.le_def, UInt32.le_iff_toNat_le]
  refine ⟨fun heq => ?_, .inr fun hle => ?_⟩
  · rw [heq] at h
    exact absurd h.1 (by decide)
  · exact absurd (Nat.le_trans h.1 hle) (by decide)

/-- The first line on which `f` finds something. -/
def firstLine {α : Type} (f : Text → Option α) (t : Text) : Option α := t.lines.findSome? f

/-- A Lua pattern without an anchor: the first position at which `f` matches. -/
def search {α : Type} (f : Text → Option α) : Text → Option α
  | [] => f []
  | c :: t => (f (c :: t)).orElse fun _ => search f t

/-- The non-empty runs of a class at the start of a text, each with what follows, the longest first:
`%d+` as Lua's matcher backtracks over it. -/
def runs (isIn : Char → Bool) (t : Text) : List (Text × Text) :=
  let n := (t.takeWhile isIn).length
  (List.range n).map fun i => (t.take (n - i), t.drop (n - i))

def literal (c : Char) (t : Text) : List Text := (strip [c] t).toList

def digitRun (l : Text) : Option Text :=
  let t := l.dropWhile fun c => !isDigit c
  if t.isEmpty then none else some (t.takeWhile isDigit)

/-- `grep '^tag' | grep -oE '[0-9]+' | head -n1`. -/
def tagNumber (tag t : Text) : Text :=
  (firstLine (fun l => if (strip tag l).isSome then digitRun l else none) t).getD []

/-- `[0-9A-Fa-f]`. -/
def isHex (c : Char) : Bool := isDigit c || ('A' ≤ c && c ≤ 'F') || ('a' ≤ c && c ≤ 'f')

/-- `grep -oE '[0-9A-Fa-f]{lo,hi}'`, a match a line; the first argument bounds the steps. -/
def hexMatches (lo hi : Nat) : Nat → Text → List Text
  | 0, _ => []
  | _ + 1, [] => []
  | n + 1, c :: t =>
    let run := (c :: t).takeWhile isHex
    if lo ≤ run.length then run.take hi :: hexMatches lo hi n ((c :: t).drop (min hi run.length))
    else hexMatches lo hi n t

/-- `^([^c]*)c(.*)$`: the text before the first `c` and the text behind it. -/
def cut (c : Char) : Text → Option (Text × Text)
  | [] => none
  | d :: t => if d = c then some ([], t) else (cut c t).map fun r => (d :: r.1, r.2)

theorem cut_eq_some : cut c t = some (a, b) ↔ t = a ++ c :: b ∧ c ∉ a := by
  induction t generalizing a with
  | nil => simp [cut]
  | cons d t ih =>
    by_cases hd : d = c
    · subst hd
      cases a with
      | nil => simp [cut, eq_comm]
      | cons x a => simp [cut]; rintro rfl; simp
    · cases a with
      | nil => simp [cut, hd]
      | cons x a =>
        simp only [cut, hd, if_false, Option.map_eq_some_iff, Prod.exists, Prod.mk.injEq,
          List.cons.injEq, List.cons_append, List.mem_cons, not_or]
        constructor
        · rintro ⟨a', b', hcut, ⟨rfl, rfl⟩, rfl⟩
          obtain ⟨rfl, hc⟩ := ih.1 hcut
          exact ⟨⟨rfl, rfl⟩, Ne.symm hd, hc⟩
        · rintro ⟨⟨rfl, rfl⟩, -, hc⟩
          exact ⟨a, b, ih.2 ⟨rfl, hc⟩, ⟨rfl, rfl⟩, rfl⟩

theorem cut_append (h : c ∉ a) : cut c (a ++ c :: b) = some (a, b) :=
  cut_eq_some.mpr ⟨rfl, h⟩

/-- The pieces between the occurrences of `c`. -/
def pieces (c : Char) : Text → List Text
  | [] => [[]]
  | d :: t =>
    match pieces c t with
    | [] => [[d]]
    | p :: ps => if d = c then [] :: p :: ps else (d :: p) :: ps

theorem pieces_ne_nil (c : Char) (t : Text) : pieces c t ≠ [] := by
  cases t with
  | nil => exact List.cons_ne_nil _ _
  | cons d t =>
    rw [pieces]
    split
    · exact List.cons_ne_nil _ _
    · split
      all_goals exact List.cons_ne_nil _ _

theorem mem_pieces (h : d ∈ t) : d = c ∨ ∃ p ∈ pieces c t, d ∈ p := by
  induction t with
  | nil => cases h
  | cons e t ih =>
    unfold pieces
    cases hp : pieces c t with
    | nil =>
      obtain rfl | h := List.mem_cons.1 h
      · exact .inr ⟨[d], List.mem_singleton_self _, List.mem_singleton_self _⟩
      · obtain hd | ⟨p, hmem, -⟩ := ih h
        · exact .inl hd
        · rw [hp] at hmem
          cases hmem
    | cons p ps =>
      by_cases he : e = c
      · simp only [he, if_true]
        obtain rfl | h := List.mem_cons.1 h
        · exact .inl he
        · obtain hd | ⟨q, hq, hd⟩ := ih h
          · exact .inl hd
          · exact .inr ⟨q, List.mem_cons_of_mem _ (hp ▸ hq), hd⟩
      · simp only [he, if_false]
        obtain rfl | h := List.mem_cons.1 h
        · exact .inr ⟨d :: p, List.mem_cons_self, List.mem_cons_self⟩
        · obtain hd | ⟨q, hq, hd⟩ := ih h
          · exact .inl hd
          · rw [hp] at hq
            obtain rfl | hq := List.mem_cons.1 hq
            · exact .inr ⟨e :: q, List.mem_cons_self, List.mem_cons_of_mem _ hd⟩
            · exact .inr ⟨q, List.mem_cons_of_mem _ hq, hd⟩

theorem intercalate_pieces (c : Char) (t : Text) : [c].intercalate (pieces c t) = t := by
  induction t with
  | nil => rfl
  | cons d t ih =>
    unfold pieces
    cases hp : pieces c t with
    | nil =>
      rw [hp] at ih
      rw [← ih]
      rfl
    | cons p ps =>
      rw [hp] at ih
      dsimp only
      split_ifs with hd
      · rw [List.intercalate_cons_cons, ih, hd]
        rfl
      · cases ps with
        | nil => exact congrArg (d :: ·) ih
        | cons q ps => exact congrArg (d :: ·) ih

theorem pieces_of_not_mem (h : c ∉ t) : pieces c t = [t] := by
  induction t with
  | nil => rfl
  | cons d t ih =>
    rw [pieces, ih fun hmem => h (List.mem_cons_of_mem _ hmem)]
    have hd : d ≠ c := fun hd => h (hd ▸ List.mem_cons_self)
    exact if_neg hd

theorem pieces_append (h : c ∉ t) : pieces c (t ++ c :: u) = t :: pieces c u := by
  induction t with
  | nil =>
    rw [List.nil_append, pieces]
    cases hp : pieces c u with
    | nil => exact absurd hp (pieces_ne_nil c u)
    | cons p ps => exact if_pos rfl
  | cons d t ih =>
    rw [List.cons_append, pieces, ih fun hmem => h (List.mem_cons_of_mem _ hmem)]
    have hd : d ≠ c := fun hd => h (hd ▸ List.mem_cons_self)
    exact if_neg hd

theorem pieces_append_cons (t u : Text) : pieces c (t ++ c :: u) = pieces c t ++ pieces c u := by
  induction t with
  | nil => exact pieces_append List.not_mem_nil
  | cons d t ih =>
    rw [List.cons_append, pieces, pieces, ih]
    cases hp : pieces c t with
    | nil => exact absurd hp (pieces_ne_nil c t)
    | cons p ps =>
      by_cases hd : d = c
      · simp only [List.cons_append, if_pos hd]
      · simp only [List.cons_append, if_neg hd]

theorem of_mem_pieces (h : p ∈ pieces c t) : c ∉ p ∧ ∀ d ∈ p, d ∈ t := by
  induction t generalizing p with
  | nil =>
    obtain rfl := List.mem_singleton.mp h
    exact ⟨List.not_mem_nil, nofun⟩
  | cons e t ih =>
    rw [pieces] at h
    cases hp : pieces c t with
    | nil => exact absurd hp (pieces_ne_nil c t)
    | cons q ps =>
      rw [hp] at h ih
      have hold : ∀ p ∈ q :: ps, c ∉ p ∧ ∀ d ∈ p, d ∈ e :: t := fun p hp =>
        ⟨(ih hp).1, fun d hd => List.mem_cons_of_mem _ ((ih hp).2 d hd)⟩
      dsimp only at h
      split_ifs at h with he
      · rcases List.mem_cons.mp h with rfl | h
        · exact ⟨List.not_mem_nil, nofun⟩
        · exact hold p h
      · rcases List.mem_cons.mp h with rfl | h
        · obtain ⟨hc, hmem⟩ := hold q List.mem_cons_self
          refine ⟨fun hin => ?_, fun d hd => ?_⟩
          · rcases List.mem_cons.mp hin with rfl | hin
            · exact he rfl
            · exact hc hin
          · rcases List.mem_cons.mp hd with rfl | hd
            · exact List.mem_cons_self
            · exact hmem d hd
        · exact hold p (List.mem_cons_of_mem _ h)

theorem pieces_intercalate (hne : ps ≠ []) (h : ∀ p ∈ ps, c ∉ p) :
    pieces c ([c].intercalate ps) = ps := by
  induction ps with
  | nil => exact absurd rfl hne
  | cons p ps ih =>
    cases ps with
    | nil =>
      rw [List.intercalate_singleton]
      exact pieces_of_not_mem (h p List.mem_cons_self)
    | cons q ps =>
      rw [List.intercalate_cons_cons, List.append_assoc, List.singleton_append,
        pieces_append (h p List.mem_cons_self)]
      exact congrArg (p :: ·) (ih (List.cons_ne_nil _ _) fun r hr => h r (List.mem_cons_of_mem _ hr))

theorem mem_intercalate {s : Text} (h : c ∈ s.intercalate ps) : c ∈ s ∨ ∃ p ∈ ps, c ∈ p := by
  induction ps with
  | nil => exact nomatch h
  | cons p ps ih =>
    cases ps with
    | nil => exact .inr ⟨p, List.mem_cons_self, by rwa [List.intercalate_singleton] at h⟩
    | cons q ps =>
      rw [List.intercalate_cons_cons, List.mem_append, List.mem_append] at h
      rcases h with (h | h) | h
      · exact .inr ⟨p, List.mem_cons_self, h⟩
      · exact .inl h
      · rcases ih h with h | ⟨r, hr, h⟩
        · exact .inl h
        · exact .inr ⟨r, List.mem_cons_of_mem _ hr, h⟩

/-- `t:gmatch("[^c]+")`. -/
def fields (c : Char) (t : Text) : List Text := (pieces c t).filter fun p => !p.isEmpty

/-- `t:gsub(old, new)` for a text `old` without magic characters. The first argument counts the
characters of an occurrence still to be passed over. -/
def gsub (old new : Text) : Nat → Text → Text
  | _, [] => []
  | k + 1, _ :: t => gsub old new k t
  | 0, c :: t =>
    if (strip old (c :: t)).isSome then new ++ gsub old new (old.length - 1) t
    else c :: gsub old new 0 t

/-- `t:upper()` and `t:lower()`. -/
def upper (t : Text) : Text := t.map Char.toUpper
def lower (t : Text) : Text := t.map Char.toLower

/-- `${t:-default}`. -/
def orDefault (t default : Text) : Text := if t.isEmpty then default else t

end Text
end GlXe3000
