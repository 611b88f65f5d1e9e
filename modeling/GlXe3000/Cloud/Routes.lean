import GlXe3000.Lib.Lua
import GlXe3000.Lib.Words

/-! # The routes of `/proc/net/route`

The kernel prints addresses and masks as the words of a little-endian machine, with the first octet
in the lowest byte. `get_routes` of `gl-cloud` takes addresses apart in that order, but for the
length of a mask it counts how often its word can be halved: all bits of the last octet that is not
zero count, whether they are set or not. -/

namespace GlXe3000.Cloud.Routes
open Text

def hexValue (c : Char) : Nat :=
  if isDigit c then c.toNat - '0'.toNat
  else if c ≤ 'F' then c.toNat - 'A'.toNat + 10
  else c.toNat - 'a'.toNat + 10

/-- `tonumber(t, 16)`, for a text without a sign. -/
def hexNumber (t : Text) : Option Nat :=
  if t ≠ [] && t.all isHex then some (t.foldl (fun n c => 16 * n + hexValue c) 0) else none

def dotted (a b c d : Nat) : Text :=
  Nat.toDigits 10 a ++ '.' :: Nat.toDigits 10 b ++ '.' :: Nat.toDigits 10 c ++ '.' ::
    Nat.toDigits 10 d

def ntoa (value : Text) : Text :=
  match hexNumber value with
  | none => "0.0.0.0"
  | some n => dotted (n % 256) (n / 256 % 256) (n / 256 / 256 % 256) (n / 256 / 256 / 256 % 256)

/-- The loop `while mask > 0`. -/
def bits (mask : Nat) : Nat := if mask = 0 then 0 else bits (mask / 2) + 1

structure Entry where
  destination : Text
  nexthop : Text
  metric : Option Rat
  iface : Text

/-- A line of the file, which is passed over, reported, or ends in an error of `tonumber`. -/
def routeOf (lua : Lua) (line : Text) : Except Result (Option Entry) :=
  match nonSpaces line with
  | iface :: destination :: gateway :: flags :: fields =>
    if iface = "Iface" then .ok none
    else if (hexNumber flags).getD 0 % 2 = 1 then
      match fields with
      | _ :: _ :: metric :: mask :: _ =>
        .ok (some {
          destination := ntoa destination ++ '/' :: Nat.toDigits 10 (bits ((hexNumber mask).getD 0))
          nexthop := ntoa gateway
          metric := lua.tonumber metric
          iface := iface })
      | _ => .error .raised
    else .ok none
  | fields => if fields.head? = some "Iface" then .ok none else .error .raised

def getRoutes (lua : Lua) (lines : List Text) : Except Result (List Entry) := do
  let routes ← lines.mapM (routeOf lua)
  return routes.filterMap fun r => r

/-! ## What the kernel prints -/

structure Address where
  (a b c d : Fin 256)

namespace Address

def text (x : Address) : Text := dotted x.a x.b x.c x.d

/-- The octets in memory, read as a number. -/
def word (x : Address) : Nat := x.a + 256 * x.b + 65536 * x.c + 16777216 * x.d

/-- The netmask with that many ones. -/
def mask (len : Nat) : Address :=
  let n := 2 ^ 32 - 2 ^ (32 - len)
  ⟨Fin.ofNat 256 (n / 16777216), Fin.ofNat 256 (n / 65536), Fin.ofNat 256 (n / 256), Fin.ofNat 256 n⟩

end Address

def hexDigit (n : Nat) : Char := "0123456789ABCDEF".toList.getD (n % 16) '0'

/-- `%0wX`. -/
def hexDigits : (w : Nat) → Nat → Text
  | 0, _ => []
  | w + 1, n => hexDigits w (n / 16) ++ [hexDigit n]

def header : Text :=
  "Iface\tDestination\tGateway \tFlags\tRefCnt\tUse\tMetric\tMask\t\tMTU\tWindow\tIRTT"

abbrev Word := { t : Text // NonSpace t }

/-- A route that is up. -/
structure Route where
  iface : Word
  destination : Address
  gateway : Address
  flags : Nat
  flags_lt : flags < 2 ^ 16
  up : flags % 2 = 1
  refcnt : Word
  use : Word
  metric : Word
  len : Nat
  len_le : len ≤ 32
  rest : List Word
  padding : Nat

namespace Route
variable (r : Route)

def words : List Text :=
  [r.iface.1, hexDigits 8 r.destination.word, hexDigits 8 r.gateway.word, hexDigits 4 r.flags,
    r.refcnt.1, r.use.1, r.metric.1, hexDigits 8 (Address.mask r.len).word] ++
      r.rest.map Subtype.val

def line : Text := ['\t'].intercalate r.words ++ List.replicate r.padding ' '

/-- The entry for the route, if its length is reported as `len`. -/
def entry (lua : Lua) (len : Nat) : Entry where
  destination := r.destination.text ++ '/' :: Nat.toDigits 10 len
  nexthop := r.gateway.text
  metric := lua.tonumber r.metric.1
  iface := r.iface.1

end Route

/-! ## Words in hexadecimal -/

theorem hexDigit_spec (n : Nat) : isHex (hexDigit n) = true ∧ isSpace (hexDigit n) = false ∧
    hexValue (hexDigit n) = n % 16 := by
  have hdigits : ∀ k < 16, isHex ("0123456789ABCDEF".toList.getD k '0') = true ∧
      isSpace ("0123456789ABCDEF".toList.getD k '0') = false ∧
      hexValue ("0123456789ABCDEF".toList.getD k '0') = k := by
    decide
  exact hdigits _ (Nat.mod_lt _ (by decide))

theorem mem_hexDigits (h : c ∈ hexDigits w n) : ∃ k, c = hexDigit k := by
  induction w generalizing n with
  | zero => cases h
  | succ w ih =>
    obtain h | h := List.mem_append.1 h
    · exact ih h
    · exact ⟨n, List.mem_singleton.1 h⟩

theorem nonSpace_hexDigits (w n : Nat) : NonSpace (hexDigits (w + 1) n) := by
  refine ⟨by simp [hexDigits], fun c hc => ?_⟩
  obtain ⟨k, rfl⟩ := mem_hexDigits hc
  exact (hexDigit_spec k).2.1

theorem foldl_hexDigits (w n : Nat) :
    (hexDigits w n).foldl (fun n c => 16 * n + hexValue c) 0 = n % 16 ^ w := by
  induction w generalizing n with
  | zero => simp [hexDigits, Nat.mod_one]
  | succ w ih =>
    rw [hexDigits, List.foldl_append, ih, List.foldl_cons, List.foldl_nil, (hexDigit_spec n).2.2,
      pow_succ, Nat.mul_comm (16 ^ w) 16, Nat.mod_mul, Nat.add_comm]

theorem hexNumber_hexDigits (h : n < 16 ^ (w + 1)) : hexNumber (hexDigits (w + 1) n) = some n := by
  have hall : (hexDigits (w + 1) n).all isHex = true := by
    refine List.all_eq_true.2 fun c hc => ?_
    obtain ⟨k, rfl⟩ := mem_hexDigits hc
    exact (hexDigit_spec k).1
  rw [hexNumber, foldl_hexDigits, Nat.mod_eq_of_lt h, hall]
  simp [(nonSpace_hexDigits w n).1]

theorem Address.word_lt (x : Address) : x.word < 16 ^ 8 := by
  unfold word
  omega

theorem ntoa_word (x : Address) : ntoa (hexDigits 8 x.word) = x.text := by
  rw [ntoa, hexNumber_hexDigits x.word_lt, Address.text]
  simp only [Address.word]
  congr 1 <;> omega

/-! ## The length of a mask -/

theorem bits_eq (hle : 2 ^ k ≤ m) (hlt : m < 2 ^ (k + 1)) : bits m = k + 1 := by
  induction k generalizing m with
  | zero =>
    obtain rfl : m = 1 := by omega
    simp [bits]
  | succ k ih =>
    rw [pow_succ] at hle hlt
    rw [bits, if_neg (by have := Nat.two_pow_pos k; omega), ih (by omega) (by omega)]

theorem bits_mask (h : len ≤ 32) : bits (Address.mask len).word = 8 * ((len + 7) / 8) := by
  have htable : ∀ l < 33, l = 0 ∨ (2 ^ (8 * ((l + 7) / 8) - 1) ≤ (Address.mask l).word ∧
      (Address.mask l).word < 2 ^ (8 * ((l + 7) / 8))) := by
    decide
  obtain rfl | ⟨hle, hlt⟩ := htable len (by omega)
  · rw [show (Address.mask 0).word = 0 by decide, bits]
    rfl
  · by_cases hzero : len = 0
    · subst hzero
      exact absurd hle (by decide)
    · have hk : 8 * ((len + 7) / 8) = 8 * ((len + 7) / 8) - 1 + 1 := by omega
      rw [hk] at hlt ⊢
      exact bits_eq hle hlt

/-! ## Lines -/

theorem nonSpaces_line (r : Route) : nonSpaces r.line = r.words := by
  have hwords : ∀ w ∈ r.words, NonSpace w := by
    intro w hw
    obtain hw | hw := List.mem_append.1 hw
    · simp only [List.mem_cons, List.not_mem_nil, or_false] at hw
      obtain rfl | rfl | rfl | rfl | rfl | rfl | rfl | rfl := hw
      · exact r.iface.2
      · exact nonSpace_hexDigits 7 _
      · exact nonSpace_hexDigits 7 _
      · exact nonSpace_hexDigits 3 _
      · exact r.refcnt.2
      · exact r.use.2
      · exact r.metric.2
      · exact nonSpace_hexDigits 7 _
    · obtain ⟨v, -, rfl⟩ := List.mem_map.1 hw
      exact v.2
  have hpadding : ∀ n t, nonSpaces (t ++ List.replicate n ' ') = nonSpaces t := by
    intro n
    induction n with
    | zero => simp
    | succ n ih =>
      intro t
      rw [List.replicate_succ, nonSpaces_append rfl, ← List.nil_append (List.replicate n ' '), ih]
      exact List.append_nil _
  rw [Route.line, hpadding, nonSpaces_intercalate rfl hwords]

theorem routeOf_line {r : Route} (h : r.iface.1 ≠ "Iface") :
    routeOf lua r.line = .ok (some (r.entry lua (8 * ((r.len + 7) / 8)))) := by
  have hflags : hexNumber (hexDigits 4 r.flags) = some r.flags := hexNumber_hexDigits r.flags_lt
  have hmask : hexNumber (hexDigits 8 (Address.mask r.len).word) = some (Address.mask r.len).word :=
    hexNumber_hexDigits (Address.word_lt _)
  simp only [routeOf, nonSpaces_line, Route.words, List.cons_append, List.nil_append, if_neg h,
    hflags, Option.getD_some, r.up, if_true, ntoa_word, hmask, bits_mask r.len_le, Route.entry]

theorem getRoutes_line {entry : Option Entry} (hbefore : getRoutes lua before = .ok es)
    (hline : routeOf lua line = .ok entry) (hafter : getRoutes lua after = .ok es') :
    getRoutes lua (header :: before ++ line :: after) = .ok (es ++ (entry.toList ++ es')) := by
  have hheader : routeOf lua header = .ok none := rfl
  obtain ⟨rs, hrs, heq⟩ := bind_eq_ok.1 hbefore
  obtain ⟨rs', hrs', heq'⟩ := bind_eq_ok.1 hafter
  cases heq
  cases heq'
  rw [getRoutes, List.cons_append, List.mapM_cons, hheader, List.mapM_append, hrs, List.mapM_cons,
    hline, hrs']
  cases entry <;> simp [pure, Except.pure, bind, Except.bind]

theorem entry_inj {r : Route} : r.entry lua m = r.entry lua n ↔ m = n := by
  refine ⟨fun h => ?_, fun h => h ▸ rfl⟩
  have hdigits := List.append_cancel_left (congrArg Entry.destination h)
  rw [← toNumber_toDigits m, (List.cons.inj hdigits).2, toNumber_toDigits]

/-- Wherever in the file it stands, a route that is up is reported with its destination, its length
and its next hop, if and only if its length is a multiple of 8 and its interface is not called like
the first column. -/
theorem route_reported_iff (lua : Lua) (r : Route) {before after : List Text} {es es' : List Entry}
    (hbefore : getRoutes lua before = .ok es) (hafter : getRoutes lua after = .ok es') :
    getRoutes lua (header :: before ++ r.line :: after) = .ok (es ++ r.entry lua r.len :: es') ↔
      r.iface.1 ≠ "Iface" ∧ r.len % 8 = 0 := by
  by_cases h : r.iface.1 = "Iface"
  · have hskipped : routeOf lua r.line = .ok none := by
      simp only [routeOf, nonSpaces_line, Route.words, List.cons_append, if_pos h]
    rw [getRoutes_line hbefore hskipped hafter]
    refine iff_of_false (fun heq => ?_) fun hne => hne.1 h
    have hlength := congrArg List.length (List.append_cancel_left (Except.ok.inj heq))
    simp at hlength
  · rw [getRoutes_line hbefore (routeOf_line h) hafter, Option.toList_some, List.singleton_append,
      Except.ok.injEq, List.append_cancel_left_eq, List.cons.injEq, entry_inj]
    constructor
    · rintro ⟨hlen, -⟩
      exact ⟨h, by omega⟩
    · rintro ⟨-, hlen⟩
      exact ⟨by omega, rfl⟩

/-- The route to `10.0.16.0` with that length. -/
def site (len : Nat) (h : len ≤ 32) : Route where
  iface := ⟨"wwan0", by decide⟩
  destination := ⟨10, 0, 16, 0⟩
  gateway := ⟨0, 0, 0, 0⟩
  flags := 1
  flags_lt := by decide
  up := rfl
  refcnt := ⟨['0'], by decide⟩
  use := ⟨['0'], by decide⟩
  metric := ⟨['0'], by decide⟩
  len := len
  len_le := h
  rest := []
  padding := 0

/-- A host route below the route of its network. -/
theorem route_reported_host :
    let r := site 24 (by decide)
    let host := site 32 (by decide)
    getRoutes .decimal [header, r.line, host.line] =
      .ok [r.entry .decimal 24, host.entry .decimal 32] := by
  intro r host
  have hlen : 8 * ((r.len + 7) / 8) = 24 := by decide
  have hline : routeOf .decimal r.line = .ok (some (r.entry .decimal 24)) :=
    hlen ▸ routeOf_line (by decide)
  have hbefore : getRoutes .decimal [r.line] = .ok [r.entry .decimal 24] := by
    rw [getRoutes, List.mapM_cons, hline]
    rfl
  exact (route_reported_iff .decimal host hbefore rfl).2 ⟨by decide, by decide⟩

/-- The route to `10.0.16.0/20` is reported as one to `10.0.16.0/24`. -/
theorem length_rounded_up :
    getRoutes .decimal [header, (site 20 (by decide)).line] =
      .ok [⟨"10.0.16.0/24", "0.0.0.0", some 0, "wwan0"⟩] := by
  have hnone : getRoutes .decimal [] = .ok [] := rfl
  exact (getRoutes_line hnone (routeOf_line (by decide)) hnone).trans rfl

end GlXe3000.Cloud.Routes
