import GlXe3000.Cellular.Uci

/-! # SIM cards, AT replies and the state the PIN scripts share

The card keeps its own attempt counter. What a script knows about it comes out of reply texts; the
parsers below are the ones in `gl-cellular-sim-unlock` (shell) and in `set_sim_pin_code` of
`modem.lua` (Lua), which do not agree on every text. -/

namespace GlXe3000.Cellular.Sim
open Text

def maxTries : Nat := 3

structure Card where
  iccid : Text
  pin : Text
  pinEnabled : Bool
  /-- Attempts left before the card wants the PUK: the `"SC"` counter of `AT+QPINC?`. -/
  left : Nat
  verified : Bool
  left_le : left ≤ maxTries
  /-- A card that does not ask for its PIN is `READY`. -/
  ready_of_disabled : pinEnabled = false → verified = true

namespace Card

/-- Does an `AT+CPIN=` with this PIN unlock the card? -/
def accepts (c : Card) (pin : Text) : Bool := !c.verified && c.left ≠ 0 && pin = c.pin

def refuses (c : Card) (pin : Text) : Bool := !c.verified && c.left ≠ 0 && pin ≠ c.pin

/-- `AT+CPIN=` as the card sees it. A card that is `READY` or wants the PUK does not look at it. -/
def enter (c : Card) (pin : Text) : Card :=
  if c.verified || c.left = 0 then c
  else if pin = c.pin then
    { c with
      verified := true, left := maxTries
      left_le := Nat.le_refl _, ready_of_disabled := fun _ => rfl }
  else { c with left := c.left - 1, left_le := Nat.le_trans (Nat.sub_le ..) c.left_le }

/-- Powered up again: by the modem re-initialising it, or by being put into the tray. -/
def powerUp (c : Card) : Card :=
  { c with verified := !c.pinEnabled, ready_of_disabled := fun h => by simp [h] }

@[simp] theorem enter_iccid (c : Card) (pin : Text) : (c.enter pin).iccid = c.iccid := by
  unfold enter; split_ifs <;> rfl

@[simp] theorem enter_pin (c : Card) (pin : Text) : (c.enter pin).pin = c.pin := by
  unfold enter; split_ifs <;> rfl

@[simp] theorem powerUp_iccid (c : Card) : c.powerUp.iccid = c.iccid := rfl
@[simp] theorem powerUp_pin (c : Card) : c.powerUp.pin = c.pin := rfl
@[simp] theorem powerUp_left (c : Card) : c.powerUp.left = c.left := rfl

theorem powerUp_locked {c : Card} (h : c.verified = false) : c.powerUp.verified = false := by
  have he : c.pinEnabled = true := by
    by_contra hne
    simp [c.ready_of_disabled (by simpa using hne)] at h
  simp [powerUp, he]

theorem enter_wrong {c : Card} {pin : Text} (h : pin ≠ c.pin) :
    (c.enter pin).verified = c.verified ∧
      (c.enter pin).left = if c.verified then c.left else c.left - 1 := by
  unfold enter
  by_cases hv : c.verified = true <;> by_cases hl : c.left = 0 <;> simp [h, hv, hl]

theorem left_le_enter {c : Card} {pin : Text} (h : c.refuses pin = false) :
    c.left ≤ (c.enter pin).left := by
  unfold enter
  split_ifs with h1 h2
  · exact Nat.le_refl _
  · exact c.left_le
  · simp only [Bool.or_eq_true, decide_eq_true_eq, not_or] at h1
    simp [refuses, h1, h2] at h

end Card

/-! ## Reply parsers -/

/-- What `cpin_state` prints. -/
inductive CpinState
  | ready | pin | puk | noat | other
  deriving DecidableEq

/-- The `case` of `cpin_state`. -/
def cpinState (r : Text) : CpinState :=
  if r.has "+CPIN: READY" then .ready
  else if r.has "+CPIN: SIM PIN" then .pin
  else if r.has "+CPIN: SIM PUK" then .puk
  else if r.isEmpty then .noat
  else .other

/-- `s/^+QCCID:[[:space:]]*\([0-9A-Za-z]*\)[[:space:]]*$/\1/p` on one line. -/
def iccidOnLine (l : Text) : Option Text :=
  (strip "+QCCID:" l).bind fun t =>
    let t := t.dropWhile isSpace
    if (t.dropWhile isAlnum).all isSpace then some (t.takeWhile isAlnum) else none

/-- The ICCID `gl-cellular-sim-unlock` reads out of an `AT+QCCID` reply. -/
def iccidOf (r : Text) : Text := (firstLine iccidOnLine r.dropReturns).getD []

/-- `s/^+QPINC:[[:space:]]*"SC",\([0-9][0-9]*\),[0-9][0-9]*[[:space:]]*$/\1/p` on one line. -/
def attemptsOnLine (l : Text) : Option Text :=
  (strip "+QPINC:" l).bind fun t =>
    (strip "\"SC\"," (t.dropWhile isSpace)).bind fun t =>
      (strip "," (t.dropWhile isDigit)).bind fun rest =>
        if !(t.takeWhile isDigit).isEmpty && !(rest.takeWhile isDigit).isEmpty &&
            (rest.dropWhile isDigit).all isSpace then
          some (t.takeWhile isDigit)
        else none

/-- The attempt counter `gl-cellular-sim-unlock` reads out of an `AT+QPINC?` reply. -/
def attemptsOf (r : Text) : Text := (firstLine attemptsOnLine r.dropReturns).getD []

/-- `^\+CME ERROR:[[:space:]]*(16|incorrect password)[[:space:]]*$` on some line. -/
def incorrectPassword (r : Text) : Bool :=
  r.dropReturns.lines.any fun l =>
    match strip "+CME ERROR:" l with
    | none => false
    | some t =>
      ["16", "incorrect password"].any fun code =>
        match strip code (t.dropWhile isSpace) with
        | none => false
        | some rest => rest.all isSpace

/-- `%+QCCID:%s*(%w+)`. -/
def luaIccid (r : Text) : Option Text :=
  search (fun t => (strip "+QCCID:" t).bind fun t =>
    let id := (t.dropWhile isSpace).takeWhile isAlnum
    if id.isEmpty then none else some id) r

/-- `%+QPINC:%s*"SC",(%d+)`. -/
def luaAttempts (r : Text) : Option Nat :=
  search (fun t => (strip "+QPINC:" t).bind fun t =>
    (strip "\"SC\"," (t.dropWhile isSpace)).bind fun t =>
      let n := t.takeWhile isDigit
      if n.isEmpty then none else some (toNumber n)) r

/-! ## Shared state -/

/-- Who sent an `AT+CPIN=`. -/
inductive Source
  | unlocker | ui
  deriving DecidableEq

/-- An `AT+CPIN=` that reached a card. -/
structure Submission where
  source : Source
  card : Nat
  pin : Text
  left : Nat
  accepted : Bool
  deriving DecidableEq

/-- What the processes share. Cards are numbered; `tray` is the one the modem sees. -/
structure World where
  uci : Uci
  /-- `/var/run/gl-cellular-flashing` exists. -/
  flashing : Bool
  cards : Nat → Card
  tray : Option Nat
  /-- The process that holds `/var/run/gl-cellular-sim-unlock.lock`. -/
  lock : Option Nat
  log : List Submission

/-- What the environment decides about one step of a script: whether an AT command reaches the
card, the text that comes back (empty if it is lost) and whether a checked command succeeds. -/
structure Outcome where
  reached : Bool := true
  reply : Text := []
  ok : Bool := true
  deriving DecidableEq

namespace World

def card (w : World) : Option Card := w.tray.map w.cards

/-- `AT+CPIN="pin"`. -/
def submit (w : World) (source : Source) (pin : Text) (reached : Bool) : World :=
  match w.tray, reached with
  | some i, true =>
    { w with
      cards := Function.update w.cards i ((w.cards i).enter pin)
      log := w.log ++ [⟨source, i, pin, (w.cards i).left, (w.cards i).accepts pin⟩] }
  | _, _ => w

section
variable (w : World) (source : Source) (pin : Text) (reached : Bool)

@[simp] theorem submit_tray : (w.submit source pin reached).tray = w.tray := by
  unfold submit; split <;> simp_all

@[simp] theorem submit_lock : (w.submit source pin reached).lock = w.lock := by
  unfold submit; split <;> rfl

@[simp] theorem submit_uci : (w.submit source pin reached).uci = w.uci := by
  unfold submit; split <;> rfl

@[simp] theorem submit_iccid (i : Nat) :
    ((w.submit source pin reached).cards i).iccid = (w.cards i).iccid := by
  unfold submit
  split
  · next j _ => by_cases h : i = j <;> simp [h]
  · rfl

theorem submit_log : (w.submit source pin reached).log = w.log ∨
    ∃ i, w.tray = some i ∧ (w.submit source pin reached).log =
      w.log ++ [⟨source, i, pin, (w.cards i).left, (w.cards i).accepts pin⟩] := by
  unfold submit
  split
  · next i ht => exact .inr ⟨i, ht, rfl⟩
  · exact .inl rfl

end
end World
end GlXe3000.Cellular.Sim
