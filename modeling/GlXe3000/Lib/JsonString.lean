import GlXe3000.Lib.Text

/-! # JSON string literals

The characters of a string literal up to the delimiter that ends it, and what becomes of a text that
a script puts between two delimiters after escaping nothing but the delimiter in it. Such a text
comes out as it went in exactly if it has no backslash (`decode_escape`): every other escape makes
it shorter. -/

namespace GlXe3000.JsonString
open Text

def hexDigit (c : Char) : Option Nat :=
  if isDigit c then some (c.toNat - '0'.toNat)
  else if 'a' ≤ c ∧ c ≤ 'f' then some (c.toNat - 'a'.toNat + 10)
  else if 'A' ≤ c ∧ c ≤ 'F' then some (c.toNat - 'A'.toNat + 10)
  else none

def hex4 : Text → Option (Nat × Text)
  | a :: b :: c :: d :: t =>
    ([a, b, c, d].mapM hexDigit).map fun ds => (ds.foldl (fun n d => 16 * n + d) 0, t)
  | _ => none

def replacement : Char := Char.ofNat 0xFFFD

/-- What follows `\u`: a character of its own, or the first half of a surrogate pair. A half without
the other reads as the replacement character. -/
def unicode (t : Text) : Option (Char × Text) :=
  (hex4 t).map fun (n, rest) =>
    if 0xD800 ≤ n ∧ n < 0xDC00 then
      match (strip ['\\', 'u'] rest).bind hex4 with
      | some (m, rest') =>
        if 0xDC00 ≤ m ∧ m < 0xE000 then
          (Char.ofNat (0x10000 + (n - 0xD800) * 0x400 + (m - 0xDC00)), rest')
        else (replacement, rest)
      | none => (replacement, rest)
    else if 0xDC00 ≤ n ∧ n < 0xE000 then (replacement, rest)
    else (Char.ofNat n, rest)

/-- What follows a backslash, for a literal between two `q`. -/
def unescape (q : Char) : Text → Option (Char × Text)
  | [] => none
  | c :: t =>
    if c = q ∨ c = '\\' ∨ c = '/' then some (c, t)
    else if c = 'b' then some (Char.ofNat 8, t)
    else if c = 'f' then some (Char.ofNat 12, t)
    else if c = 'n' then some ('\n', t)
    else if c = 'r' then some ('\r', t)
    else if c = 't' then some ('\t', t)
    else if c = 'u' then unicode t
    else none

/-- The text of a literal and what follows it. The first argument bounds the steps. -/
def decodeFrom (q : Char) : Nat → Text → Option (Text × Text)
  | 0, _ => none
  | _ + 1, [] => none
  | n + 1, c :: t =>
    if c = q then some ([], t)
    else if c = '\\' then
      (unescape q t).bind fun r => (decodeFrom q n r.2).map fun s => (r.1 :: s.1, s.2)
    else (decodeFrom q n t).map fun s => (c :: s.1, s.2)

def decode (q : Char) (t : Text) : Option (Text × Text) := decodeFrom q t.length t

/-- `sed 's/q/\\q/g'`. -/
def escape (q : Char) (t : Text) : Text := t.flatMap fun c => if c = q then ['\\', q] else [c]

variable {q : Char}

theorem hex4_shorter {t rest : Text} (h : hex4 t = some (n, rest)) : rest.length < t.length := by
  unfold hex4 at h
  split at h
  · obtain ⟨ds, -, heq⟩ := Option.map_eq_some_iff.mp h
    obtain ⟨-, rfl⟩ := Prod.mk.inj heq
    simp only [List.length_cons]
    omega
  · cases h

theorem unicode_shorter {t rest : Text} (h : unicode t = some (c, rest)) :
    rest.length < t.length := by
  obtain ⟨⟨n, r⟩, hhex, heq⟩ := Option.map_eq_some_iff.mp h
  have hr := hex4_shorter hhex
  dsimp only at heq
  split_ifs at heq
  · split at heq
    · next m r' hpair =>
      obtain ⟨r'', hstrip, hlow⟩ := Option.bind_eq_some_iff.mp hpair
      have hr' := hex4_shorter hlow
      have hlen := congrArg List.length (strip_eq_some.mp hstrip)
      simp only [List.length_append, List.length_cons, List.length_nil] at hlen
      split_ifs at heq
      all_goals
        obtain ⟨-, rfl⟩ := Prod.mk.inj heq
        omega
    · obtain ⟨-, rfl⟩ := Prod.mk.inj heq
      exact hr
  all_goals
    obtain ⟨-, rfl⟩ := Prod.mk.inj heq
    exact hr

theorem unescape_shorter {t rest : Text} (h : unescape q t = some (c, rest)) :
    rest.length < t.length := by
  cases t with
  | nil => cases h
  | cons d t =>
    rw [unescape] at h
    split_ifs at h
    all_goals first
      | exact Nat.lt_succ_of_lt (unicode_shorter h)
      | obtain ⟨-, rfl⟩ := Prod.mk.inj (Option.some.inj h)
        exact Nat.lt_succ_self _

/-- A literal is longer than its text, by one character at least for every delimiter in the text
and for the one at the end. -/
theorem decodeFrom_length {t d rest : Text} (h : decodeFrom q n t = some (d, rest)) :
    d.length + d.count q + 1 + rest.length ≤ t.length := by
  induction n generalizing t d with
  | zero => cases h
  | succ n ih =>
    cases t with
    | nil => cases h
    | cons c t =>
      unfold decodeFrom at h
      split_ifs at h with hq hb
      · obtain ⟨rfl, rfl⟩ := Prod.mk.inj (Option.some.inj h)
        simp
        omega
      · obtain ⟨⟨e, r⟩, hesc, h⟩ := Option.bind_eq_some_iff.mp h
        obtain ⟨⟨d', rest'⟩, hrec, heq⟩ := Option.map_eq_some_iff.mp h
        obtain ⟨rfl, rfl⟩ := Prod.mk.inj heq
        have hlt : r.length < t.length := unescape_shorter hesc
        have hle : d'.length + d'.count q + 1 + rest'.length ≤ r.length := ih hrec
        have hcount : (e :: d').count q ≤ d'.count q + 1 := by
          rw [List.count_cons]
          split <;> omega
        simp only [List.length_cons]
        omega
      · obtain ⟨⟨d', rest'⟩, hrec, heq⟩ := Option.map_eq_some_iff.mp h
        obtain ⟨rfl, rfl⟩ := Prod.mk.inj heq
        have hle : d'.length + d'.count q + 1 + rest'.length ≤ t.length := ih hrec
        rw [List.count_cons_of_ne hq]
        simp only [List.length_cons]
        omega

theorem escape_cons (c : Char) (t : Text) :
    escape q (c :: t) = (if c = q then ['\\', q] else [c]) ++ escape q t := List.flatMap_cons

theorem escape_length (t : Text) : (escape q t).length = t.length + t.count q := by
  induction t with
  | nil => rfl
  | cons c t ih =>
    rw [escape_cons, List.length_append, ih, List.count_cons, List.length_cons]
    by_cases hc : c = q
    · simp [hc]
      omega
    · simp [hc]
      omega

theorem map_cons_eq_some {o : Option (Text × Text)} :
    o.map (fun s => (c :: s.1, s.2)) = some (c :: t, rest) ↔ o = some (t, rest) := by
  cases o with
  | none => simp
  | some s => simp [Prod.ext_iff]

theorem decodeFrom_escape (hq : q ≠ '\\') (hn : (escape q t ++ q :: rest).length ≤ n) :
    decodeFrom q n (escape q t ++ q :: rest) = some (t, rest) ↔ '\\' ∉ t := by
  induction t generalizing n with
  | nil =>
    obtain ⟨n, rfl⟩ : ∃ m, n = m + 1 := ⟨n - 1, by simp [escape] at hn; omega⟩
    simp [escape, decodeFrom]
  | cons c t ih =>
    rw [escape_cons] at hn ⊢
    by_cases hc : c = q
    · subst hc
      rw [if_pos rfl] at hn ⊢
      simp only [List.cons_append, List.nil_append, List.length_cons] at hn
      obtain ⟨n, rfl⟩ : ∃ m, n = m + 1 := ⟨n - 1, by omega⟩
      simp only [List.cons_append, List.nil_append, decodeFrom, if_neg hq.symm, if_true, unescape,
        true_or, Option.bind_some, map_cons_eq_some]
      rw [ih (by omega), List.mem_cons, or_iff_right hq.symm]
    · rw [if_neg hc] at hn ⊢
      simp only [List.cons_append, List.nil_append, List.length_cons] at hn
      obtain ⟨n, rfl⟩ : ∃ m, n = m + 1 := ⟨n - 1, by omega⟩
      by_cases hb : c = '\\'
      · subst hb
        refine iff_of_false (fun h => ?_) fun h => h List.mem_cons_self
        -- The escape takes a character that the rest of the text would need.
        simp only [List.cons_append, List.nil_append, decodeFrom, if_neg hc, if_true] at h
        obtain ⟨⟨e, r⟩, hesc, h⟩ := Option.bind_eq_some_iff.mp h
        obtain ⟨⟨d, rest'⟩, hrec, heq⟩ := Option.map_eq_some_iff.mp h
        obtain ⟨hd, rfl⟩ := Prod.mk.inj heq
        obtain ⟨-, rfl⟩ := List.cons.inj hd
        have hlt := unescape_shorter hesc
        have hle := decodeFrom_length hrec
        simp only [List.length_append, escape_length, List.length_cons] at hlt
        dsimp only at hle
        omega
      · simp only [List.cons_append, List.nil_append, decodeFrom, if_neg hc, if_neg hb,
          map_cons_eq_some]
        rw [ih (by omega), List.mem_cons, or_iff_right fun h => hb h.symm]

theorem decode_escape (hq : q ≠ '\\') :
    decode q (escape q t ++ q :: rest) = some (t, rest) ↔ '\\' ∉ t :=
  decodeFrom_escape hq (Nat.le_refl _)

end GlXe3000.JsonString
