import GlXe3000.Cellular.Csv

/-! # The list of short messages

`parse_message_list` of `modem.lua` goes through the reply to `AT+CMGL="ALL"` line by line: a header, and
the next line as the body, whatever it is. The listing does not delimit bodies, and the empty lines
of a reply are passed over. -/

namespace GlXe3000.Cellular.Sms
open Text

/-! ## The parser -/

/-- `t` begins with digits: they, and what follows. -/
def digits (t : Text) : Option (Text × Text) :=
  if (t.takeWhile isDigit).isEmpty then none else some (t.takeWhile isDigit, t.dropWhile isDigit)

def cmgl : Text := "+CMGL:"

structure Header where
  index : Text
  stat : Text
  sender : Text
  timestamp : Text
  deriving DecidableEq

/-- `^%+CMGL:%s*(%d+),"([^"]*)","([^"]*)",[^,]*,"([^"]*)"`. Each part ends where the next begins, so the
match does not depend on backtracking. -/
def header (line : Text) : Option Header := do
  let rest ← strip cmgl line
  let (index, rest) ← digits (rest.dropWhile isSpace)
  let (stat, rest) ← (strip [',', quote] rest).bind (cut quote)
  let (sender, rest) ← (strip [',', quote] rest).bind (cut quote)
  let (_, rest) ← (strip [','] rest).bind (cut ',')
  let (timestamp, _) ← (strip [quote] rest).bind (cut quote)
  return ⟨index, stat, sender, timestamp⟩

/-- `STATUS[stat] or 5`. -/
def statusOf (stat : Text) : Nat :=
  if stat = "REC UNREAD" then 0
  else if stat = "REC READ" then 1
  else if stat = "STO SENT" then 2
  else 5

/-- `timestamp:match("^(%d%d)/(%d%d)/(%d%d),(%d%d:%d%d:%d%d)")`, and the date in another order; a
timestamp that does not match is a date as it is. -/
def dateOf (timestamp : Text) : Text :=
  match timestamp with
  | y₁ :: y₂ :: '/' :: m₁ :: m₂ :: '/' :: d₁ :: d₂ :: ',' ::
      h₁ :: h₂ :: ':' :: n₁ :: n₂ :: ':' :: s₁ :: s₂ :: _ =>
    if [y₁, y₂, m₁, m₂, d₁, d₂, h₁, h₂, n₁, n₂, s₁, s₂].all isDigit then
      ['2', '0', y₁, y₂, '-', m₁, m₂, '-', d₁, d₂, ' ', h₁, h₂, ':', n₁, n₂, ':', s₁, s₂]
    else timestamp
  | _ => timestamp

/-- An entry of the list; `sender`, `bus` and `slot` are the same in all. -/
structure Entry where
  name : Text
  id : Nat
  status : Nat
  phoneNumber : Text
  date : Text
  timestamp : Text
  body : Text
  deriving DecidableEq

def entry (h : Header) (body : Text) : Entry where
  name := h.index
  id := toNumber h.index
  status := statusOf h.stat
  phoneNumber := h.sender
  date := dateOf h.timestamp
  timestamp := h.timestamp
  body := body

def parseLines : List Text → List Entry
  | [] => []
  | [line] => ((header line).map fun h => entry h []).toList
  | line :: next :: rest =>
    match header line with
    | some h => entry h next :: parseLines rest
    | none => parseLines (next :: rest)

def parseMessageList (resp : Text) : List Entry := parseLines (replyLines resp)

/-! ## The listing -/

inductive Status
  | recUnread | recRead | stoSent | stoUnsent
  deriving DecidableEq

def Status.text : Status → Text
  | .recUnread => "REC UNREAD"
  | .recRead => "REC READ"
  | .stoSent => "STO SENT"
  | .stoUnsent => "STO UNSENT"

def Status.code : Status → Nat
  | .recUnread => 0
  | .recRead => 1
  | .stoSent => 2
  | .stoUnsent => 5

structure Timestamp where
  year : Fin 100
  month : Fin 100
  day : Fin 100
  hour : Fin 100
  minute : Fin 100
  second : Fin 100
  east : Bool
  zone : Fin 100
  deriving DecidableEq

def twoDigits (n : Fin 100) : Text := [Nat.digitChar (n / 10), Nat.digitChar (n % 10)]

def Timestamp.text (t : Timestamp) : Text :=
  twoDigits t.year ++ '/' :: twoDigits t.month ++ '/' :: twoDigits t.day ++ ',' ::
    twoDigits t.hour ++ ':' :: twoDigits t.minute ++ ':' :: twoDigits t.second ++
    (if t.east then '+' else '-') :: twoDigits t.zone

structure Message where
  index : Nat
  status : Status
  sender : Text
  timestamp : Timestamp
  body : Text
  deriving DecidableEq

/-- `+CMGL: <index>,"<stat>","<oa>",,"<scts>"`. -/
def headerText (h : Header) : Text :=
  cmgl ++ (' ' :: h.index ++ (',' :: quote :: (h.stat ++ quote :: ',' :: quote ::
    (h.sender ++ quote :: ',' :: ',' :: quote :: (h.timestamp ++ [quote])))))

def Message.header (m : Message) : Header :=
  ⟨Nat.toDigits 10 m.index, m.status.text, m.sender, m.timestamp.text⟩

def Message.headerLine (m : Message) : Text := headerText m.header

def Message.listing (m : Message) : Text :=
  m.headerLine ++ '\r' :: '\n' :: m.body ++ ['\r', '\n']

/-- The reply to `AT+CMGL="ALL"` with these messages. -/
def listing (ms : List Message) : Text := ms.flatMap Message.listing ++ "\r\nOK".toList

/-- The list has one entry for each message, with its index, status, sender and body. -/
def Faithful (ms : List Message) (es : List Entry) : Prop :=
  es.map (fun e => (e.id, e.status, e.phoneNumber, e.body)) =
    ms.map fun m => (m.index, m.status.code, m.sender, m.body)

instance (ms : List Message) (es : List Entry) : Decidable (Faithful ms es) := by
  unfold Faithful; infer_instance

/-! ## Headers -/

theorem digits_append :
    digits (Nat.toDigits 10 n ++ ',' :: t) = some (Nat.toDigits 10 n, ',' :: t) := by
  have hall : ∀ c ∈ Nat.toDigits 10 n, isDigit c = true := fun _ => isDigit_of_mem_toDigits
  have htake : (Nat.toDigits 10 n ++ ',' :: t).takeWhile isDigit = Nat.toDigits 10 n := by
    rw [List.takeWhile_append_of_pos hall, List.takeWhile_cons_of_neg (by decide), List.append_nil]
  have hdrop : (Nat.toDigits 10 n ++ ',' :: t).dropWhile isDigit = ',' :: t := by
    rw [List.dropWhile_append_of_pos hall, List.dropWhile_cons_of_neg (by decide)]
  unfold digits
  rw [htake, hdrop, if_neg (by simp [Nat.toDigits_ne_nil])]

theorem dropWhile_space_toDigits :
    (' ' :: Nat.toDigits 10 n ++ t).dropWhile isSpace = Nat.toDigits 10 n ++ t := by
  rw [List.cons_append, List.dropWhile_cons_of_pos (by decide)]
  cases hd : Nat.toDigits 10 n with
  | nil => exact absurd hd Nat.toDigits_ne_nil
  | cons c ds =>
    have hc : isDigit c = true := isDigit_of_mem_toDigits (hd ▸ List.mem_cons_self)
    rw [List.cons_append, List.dropWhile_cons_of_neg (by simp [isSpace_of_isDigit hc])]

theorem quote_not_mem_status (s : Status) : quote ∉ s.text := by
  cases s <;> decide

theorem isDigit_digitChar (h : d < 10) : isDigit (Nat.digitChar d) = true := by
  have hall : ∀ d < 10, isDigit (Nat.digitChar d) = true := by decide
  exact hall d h

theorem isDigit_of_mem_twoDigits (n : Fin 100) : ∀ c ∈ twoDigits n, isDigit c = true := by
  intro c hc
  rcases List.mem_pair.mp hc with rfl | rfl
  · exact isDigit_digitChar (Nat.div_lt_of_lt_mul n.isLt)
  · exact isDigit_digitChar (Nat.mod_lt _ (by decide))

theorem not_mem_timestamp (hdigit : isDigit c = false)
    (hother : c ∉ ['/', ',', ':', '+', '-']) (t : Timestamp) : c ∉ t.text := by
  have htwo : ∀ n : Fin 100, c ∉ twoDigits n := fun n hmem => by
    rw [isDigit_of_mem_twoDigits n c hmem] at hdigit
    exact nomatch hdigit
  simp only [List.mem_cons, List.not_mem_nil, or_false, not_or] at hother
  obtain ⟨hslash, hcomma, hcolon, hplus, hminus⟩ := hother
  have hsign : c ≠ if t.east then '+' else '-' := by
    cases t.east
    · exact hminus
    · exact hplus
  simp only [Timestamp.text, List.mem_append, List.mem_cons, htwo, hsign, hslash,
    hcomma, hcolon, or_false, not_false_iff]

theorem header_headerText (hstat : quote ∉ stat)
    (hsender : quote ∉ sender) (htimestamp : quote ∉ timestamp) :
    header (headerText ⟨Nat.toDigits 10 n, stat, sender, timestamp⟩) =
      some ⟨Nat.toDigits 10 n, stat, sender, timestamp⟩ := by
  have hstrip : ∀ t : Text, strip [',', quote] (',' :: quote :: t) = some t :=
    fun _ => strip_eq_some.mpr rfl
  have hcomma : ∀ t : Text, strip [','] (',' :: t) = some t := fun _ => strip_eq_some.mpr rfl
  have hempty : ∀ t : Text, cut ',' (',' :: t) = some ([], t) :=
    fun _ => cut_append List.not_mem_nil
  have hquote : ∀ t : Text, strip [quote] (quote :: t) = some t := fun _ => strip_eq_some.mpr rfl
  unfold header headerText
  rw [strip_eq_some.mpr rfl]
  simp only [Option.bind_eq_bind, Option.bind_some, dropWhile_space_toDigits, digits_append, hstrip,
    cut_append hstat, cut_append hsender, hcomma, hempty, hquote, cut_append htimestamp]
  rfl

theorem header_headerLine {m : Message} (h : quote ∉ m.sender) :
    header m.headerLine = some m.header :=
  header_headerText (quote_not_mem_status _) h (not_mem_timestamp (by decide) (by decide) _)

theorem mem_of_strip (h : strip tag t = some r) (hc : c ∈ r) : c ∈ t :=
  strip_eq_some.mp h ▸ List.mem_append_right _ hc

theorem mem_of_cut (h : cut d t = some (a, b)) (hc : c ∈ a ∨ c ∈ b) : c ∈ t := by
  obtain ⟨rfl, -⟩ := cut_eq_some.mp h
  rcases hc with hc | hc
  · exact List.mem_append_left _ hc
  · exact List.mem_append_right _ (List.mem_cons_of_mem _ hc)

theorem mem_of_digits (h : digits t = some (a, b)) (hc : c ∈ b) : c ∈ t := by
  unfold digits at h
  split_ifs at h
  obtain ⟨-, rfl⟩ := Prod.mk.inj (Option.some.inj h)
  exact List.dropWhile_subset _ hc

theorem header_sender {h : Header} (hh : header line = some h) :
    quote ∉ h.sender ∧ ∀ c ∈ h.sender, c ∈ line := by
  simp only [header, Option.bind_eq_bind, Option.bind_eq_some_iff, Prod.exists] at hh
  obtain ⟨r₁, hr₁, index, r₂, hr₂, stat, r₃, ⟨r₃', hr₃', hr₃⟩, sender, r₄, ⟨r₄', hr₄', hr₄⟩, alpha,
    r₅, -, timestamp, r₆, -, hh⟩ := hh
  obtain rfl := Option.some.inj hh
  refine ⟨(cut_eq_some.mp hr₄).2, fun c hc => ?_⟩
  have hc₄ := mem_of_strip hr₄' (mem_of_cut hr₄ (.inl hc))
  have hc₃ := mem_of_strip hr₃' (mem_of_cut hr₃ (.inr hc₄))
  exact mem_of_strip hr₁ (List.dropWhile_subset _ (mem_of_digits hr₂ hc₃))

/-! ## The list -/

/-- Messages that the format can carry: one line for the body, and no quote or line end in the
sender. -/
def Message.Plain (m : Message) : Prop :=
  IsLine m.body ∧ quote ∉ m.sender ∧ ∀ c ∈ m.sender, ¬IsEnd c

instance : DecidablePred Message.Plain := fun m =>
  have : Decidable (∀ c ∈ m.sender, ¬IsEnd c) := List.decidableBAll _ m.sender
  inferInstanceAs (Decidable (IsLine m.body ∧ quote ∉ m.sender ∧ ∀ c ∈ m.sender, ¬IsEnd c))

theorem parseLines_plain {lines : List Text} (hlines : ∀ line ∈ lines, IsLine line)
    (hlast : ∀ line ∈ lines.getLast?, header line = none) :
    ∀ e ∈ parseLines lines,
      IsLine e.body ∧ quote ∉ e.phoneNumber ∧ ∀ c ∈ e.phoneNumber, ¬IsEnd c := by
  induction lines using parseLines.induct with
  | case1 => exact nofun
  | case2 line =>
    rw [parseLines, hlast line rfl]
    exact nofun
  | case3 line next rest h hh ih =>
    rw [parseLines, hh]
    rw [List.forall_mem_cons, List.forall_mem_cons] at hlines
    obtain ⟨hline, hnext, hrest⟩ := hlines
    refine List.forall_mem_cons.mpr ⟨?_, ih hrest fun l hl => hlast l ?_⟩
    · obtain ⟨hquote, hmem⟩ := header_sender hh
      exact ⟨hnext, hquote, fun c hc => hline.2 c (hmem c hc)⟩
    · cases rest with
      | nil => exact nomatch hl
      | cons r rest => exact hl
  | case4 line next rest hh ih =>
    rw [parseLines, hh]
    rw [List.forall_mem_cons] at hlines
    exact ih hlines.2 fun l hl => hlast l hl

theorem isLine_headerLine {m : Message} (h : ∀ c ∈ m.sender, ¬IsEnd c) : IsLine m.headerLine := by
  refine ⟨List.cons_ne_nil _ _, fun c hc hend => ?_⟩
  have hdigit : isDigit c = false := by rcases hend with rfl | rfl <;> decide
  have hindex : c ∉ Nat.toDigits 10 m.index := not_mem_toDigits hdigit
  have hstatus : c ∉ m.status.text := by
    rcases hend with rfl | rfl <;> cases m.status <;> decide
  have htimestamp : c ∉ m.timestamp.text :=
    not_mem_timestamp hdigit (by rcases hend with rfl | rfl <;> decide) _
  have hsender : c ∉ m.sender := fun hmem => h c hmem hend
  have htag : c ∉ cmgl ++ [' ', ',', quote] := by
    rcases hend with rfl | rfl <;> decide
  simp only [Message.headerLine, headerText, Message.header, List.mem_append, List.mem_cons,
    List.not_mem_nil] at hc htag
  grind

theorem replyLines_listing {ms : List Message} (h : ∀ m ∈ ms, m.Plain) :
    replyLines (listing ms) = ms.flatMap (fun m => [m.headerLine, m.body]) ++ ["OK".toList] := by
  induction ms with
  | nil => decide
  | cons m ms ih =>
    obtain ⟨⟨hbody, -, hsender⟩, hms⟩ := List.forall_mem_cons.mp h
    have hlisting : listing (m :: ms) = m.headerLine ++ '\r' :: ([] ++ '\n' ::
        (m.body ++ '\r' :: ([] ++ '\n' :: listing ms))) := by
      simp only [listing, Message.listing, List.flatMap_cons, List.append_assoc, List.cons_append,
        List.nil_append]
    rw [hlisting, replyLines_append (.inl rfl), replyLines_append (.inr rfl),
      replyLines_append (.inl rfl), replyLines_append (.inr rfl), replyLines_nil,
      replyLines_line (isLine_headerLine hsender), replyLines_line hbody, ih hms]
    rfl

theorem parseLines_pairs {ms : List Message} (h : ∀ m ∈ ms, m.Plain) :
    parseLines (ms.flatMap (fun m => [m.headerLine, m.body]) ++ ["OK".toList]) =
      ms.map fun m => entry m.header m.body := by
  induction ms with
  | nil => decide
  | cons m ms ih =>
    obtain ⟨⟨-, hquote, -⟩, hms⟩ := List.forall_mem_cons.mp h
    rw [List.flatMap_cons, List.append_assoc, List.cons_append, List.cons_append, List.nil_append,
      parseLines, header_headerLine hquote, List.map_cons]
    exact congrArg (entry m.header m.body :: ·) (ih hms)

theorem statusOf_text (s : Status) : statusOf s.text = s.code := by
  cases s <;> decide

theorem getLast?_listing (ms : List Message) : (replyLines (listing ms)).getLast? = some "OK" := by
  have hlisting : listing ms = ms.flatMap Message.listing ++ '\r' :: ([] ++ '\n' :: "OK") := rfl
  rw [hlisting, replyLines_append (.inl rfl), replyLines_append (.inr rfl), replyLines_nil,
    replyLines_line (t := "OK") (by decide), List.nil_append, List.getLast?_append]
  rfl

/-- The list is faithful exactly if the format can carry every message. -/
theorem message_list_faithful (ms : List Message) :
    Faithful ms (parseMessageList (listing ms)) ↔ ∀ m ∈ ms, m.Plain := by
  unfold Faithful parseMessageList
  constructor
  · intro hfaithful m hm
    have hlast : ∀ line ∈ (replyLines (listing ms)).getLast?, header line = none := by
      rw [getLast?_listing]
      rintro line hline
      obtain rfl := Option.some.inj hline
      decide
    have hmem := List.mem_map_of_mem
      (f := fun m : Message => (m.index, m.status.code, m.sender, m.body)) hm
    rw [← hfaithful] at hmem
    obtain ⟨e, he, heq⟩ := List.mem_map.mp hmem
    simp only [Prod.mk.injEq] at heq
    obtain ⟨-, -, hsender, hbody⟩ := heq
    have hplain := parseLines_plain (fun _ => isLine_of_mem) hlast e he
    rwa [hsender, hbody] at hplain
  · intro h
    rw [replyLines_listing h, parseLines_pairs h, List.map_map]
    refine List.map_congr_left fun m _ => ?_
    simp only [Function.comp_apply, entry, Message.header, toNumber_toDigits, statusOf_text]

def message (index : Nat) (sender body : String) : Message :=
  ⟨index, .recUnread, sender.toList, ⟨26, 7, 1, 12, 0, 0, true, 8⟩, body.toList⟩

/-- An empty body takes the header of the next message for it, and a second line of a body is lost or
makes up a message. -/
theorem message_list_wrong :
    (parseMessageList (listing [message 1 "+361" "", message 2 "+362" "hi"])).map (·.id) = [1] ∧
      (parseMessageList (listing [message 1 "+361" ("hi\n" ++
        "+CMGL: 7,\"REC READ\",\"bank\",,\"26/07/01,12:00:00+08\"\npay here")])).map
          (fun e => (e.id, e.phoneNumber, e.body)) =
        [(1, "+361".toList, "hi".toList), (7, "bank".toList, "pay here".toList)] := by
  decide

end GlXe3000.Cellular.Sms
