import GlXe3000.Lib.Machine
import GlXe3000.Cellular.Sim.PinEntry

/-! # Unlock runs, PIN requests, cards and users together

Any number of unlock runs and of PIN requests, each identified by a number, interleaved with the
modem re-initialising the card, the user swapping it, switching the connection on and off, and
`upgrade_cellular` raising its flag. Every process may be killed before any of its steps. -/

namespace GlXe3000.Cellular.Sim

structure Sys where
  world : World
  runs : Nat → Unlock.Pc
  requests : Nat → PinEntry.Pc

inductive Event
  /-- A caller starts `gl-cellular-sim-unlock`. -/
  | launch (p : Nat)
  | unlock (p : Nat) (o : Outcome)
  | killRun (p : Nat)
  /-- The UI calls `set_sim_pin_code`. -/
  | request (q : Nat) (pin : Text)
  | enter (q : Nat) (o : Outcome)
  | killRequest (q : Nat)
  | relock
  | swap (tray : Option Nat)
  | setGate (gate : Gate) (value : Text)
  | setFlashing (b : Bool)
  deriving DecidableEq

namespace World

def powerUp (w : World) : World :=
  match w.tray with
  | none => w
  | some i => { w with cards := Function.update w.cards i (w.cards i).powerUp }

section
variable (w : World)

@[simp] theorem powerUp_log : w.powerUp.log = w.log := by
  unfold powerUp; split <;> rfl

@[simp] theorem powerUp_tray : w.powerUp.tray = w.tray := by
  unfold powerUp; split <;> simp_all

@[simp] theorem powerUp_uci : w.powerUp.uci = w.uci := by
  unfold powerUp; split <;> rfl

@[simp] theorem powerUp_iccid (i : Nat) : (w.powerUp.cards i).iccid = (w.cards i).iccid := by
  unfold powerUp
  split
  · rfl
  · next j _ => by_cases h : i = j <;> simp [h]

end
end World

namespace Sys

def step (s : Sys) : Event → Sys
  | .launch p =>
    if (s.runs p).inactive then { s with runs := Function.update s.runs p .start } else s
  | .unlock p o =>
    let r := Unlock.step p o s.world (s.runs p)
    { s with world := r.2, runs := Function.update s.runs p r.1 }
  | .killRun p =>
    { s with world := Unlock.release p s.world, runs := Function.update s.runs p .idle }
  | .request q pin =>
    match s.requests q with
    | .idle | .done _ => { s with requests := Function.update s.requests q (.start pin) }
    | _ => s
  | .enter q o =>
    let r := PinEntry.step o s.world (s.requests q)
    { s with world := r.2, requests := Function.update s.requests q r.1 }
  | .killRequest q => { s with requests := Function.update s.requests q .idle }
  | .relock => { s with world := s.world.powerUp }
  | .swap tray => { s with world := { s.world with tray := tray }.powerUp }
  | .setGate g v => { s with world := { s.world with uci := g.set v s.world.uci } }
  | .setFlashing b => { s with world := { s.world with flashing := b } }

end Sys

def machine : Machine Sys Event := ⟨Sys.step⟩

/-- What a reply can say about the card at the moment of the exchange, as far as the scripts read
it. Lost replies and replies no parser recognises say nothing. -/
def Truthful (w : World) : Unlock.Query → Text → Prop
  | .cpin, r =>
    (cpinState r = .ready → ∃ c ∈ w.card, c.verified = true) ∧
      (cpinState r = .pin → ∃ c ∈ w.card, c.verified = false)
  | .qccid, r =>
    (iccidOf r ≠ [] → ∃ c ∈ w.card, c.iccid = iccidOf r) ∧
      ∀ id ∈ luaIccid r, ∃ c ∈ w.card, c.iccid = id
  | .qpinc, r => attemptsOf r ≠ [] → ∃ c ∈ w.card, c.left = Text.toNumber (attemptsOf r)

instance (w : World) : (q : Unlock.Query) → (r : Text) → Decidable (Truthful w q r)
  | .cpin, _ => by unfold Truthful; infer_instance
  | .qccid, _ => by unfold Truthful; infer_instance
  | .qpinc, _ => by unfold Truthful; infer_instance

/-- The reply a PIN request is about to read is true. It takes any `OK` for an acceptance. -/
def PinEntry.TrueReply (w : World) (o : Outcome) : PinEntry.Pc → Prop
  | .submit pin _ => Text.has o.reply "OK" = true →
      o.reached = true ∧ ∃ c ∈ w.card, c.accepts pin = true
  | .iccid _ => Truthful w .qccid o.reply
  | _ => True

instance (w : World) (o : Outcome) : (pc : PinEntry.Pc) → Decidable (PinEntry.TrueReply w o pc)
  | .submit .. | .iccid _ => by unfold PinEntry.TrueReply; infer_instance
  | .idle | .start _ | .state _ | .before _ | .after _ | .wait .. | .save .. | .done _ =>
    .isTrue trivial

def RepliesTrue (s : Sys) : Event → Prop
  | .unlock p o => ∀ q ∈ Unlock.query (s.runs p), Truthful s.world q o.reply
  | .enter q o => PinEntry.TrueReply s.world o (s.requests q)
  | _ => True

instance (s : Sys) : (e : Event) → Decidable (RepliesTrue s e)
  | .unlock .. | .enter .. => by unfold RepliesTrue; infer_instance
  | .launch _ | .killRun _ | .request .. | .killRequest _ | .relock
  | .swap _ | .setGate .. | .setFlashing _ => .isTrue trivial

structure Sys.Quiet (s : Sys) : Prop where
  runs : ∀ p, (s.runs p).inactive = true
  requests : ∀ q, s.requests q = .idle
  lock : s.world.lock = none

end GlXe3000.Cellular.Sim
