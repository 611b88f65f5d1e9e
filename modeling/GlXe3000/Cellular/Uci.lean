import GlXe3000.Lib.Text

/-! # The configuration options the cellular scripts share

Options of `network.wwan` and `gl-cellular.state`, with the merged view every `uci get` returns:
the committed file plus the uncommitted delta. An unset option is the empty text. -/

namespace GlXe3000.Cellular

structure Uci where
  /-- `network.wwan.pincode`: the saved PIN. -/
  pincode : Text := []
  /-- `network.wwan.pin_iccid`: the card the saved PIN belongs to. -/
  pinIccid : Text := []
  /-- `network.wwan.pin_failed`: `1` once the saved PIN was refused. -/
  pinFailed : Text := []
  /-- `network.wwan.pin_pending`: the attempt counter from just before the last `AT+CPIN=`. -/
  pinPending : Text := []
  auto : Text := []
  disabled : Text := []
  dialEnabled : Text := []
  scanInProgress : Text := []
  deriving DecidableEq

/-- The four tests of the user's intent, in the order in which `gl-cellular-sim-unlock`,
`gl-cellular-wwan-reconnect` and `gl-cellular-modem-reset` make them. -/
inductive Gate
  | auto | disabled | dialEnabled | scanInProgress
  deriving DecidableEq

namespace Gate

def get : Gate → Uci → Text
  | .auto, u => u.auto
  | .disabled, u => u.disabled
  | .dialEnabled, u => u.dialEnabled
  | .scanInProgress, u => u.scanInProgress

def set : Gate → Text → Uci → Uci
  | .auto, v, u => { u with auto := v }
  | .disabled, v, u => { u with disabled := v }
  | .dialEnabled, v, u => { u with dialEnabled := v }
  | .scanInProgress, v, u => { u with scanInProgress := v }

def closing : Gate → Text
  | .auto | .dialEnabled => ['0']
  | .disabled | .scanInProgress => ['1']

/-- `[ "$(uci -q get ...)" != value ]`. -/
def isOpen (g : Gate) (u : Uci) : Bool := g.get u ≠ g.closing

def next : Gate → Option Gate
  | .auto => some .disabled
  | .disabled => some .dialEnabled
  | .dialEnabled => some .scanInProgress
  | .scanInProgress => none

@[simp] theorem get_set_self (g : Gate) (v : Text) (u : Uci) : g.get (g.set v u) = v := by
  cases g <;> rfl

theorem get_set_of_ne {g h : Gate} (hne : g ≠ h) (v : Text) (u : Uci) :
    g.get (h.set v u) = g.get u := by
  cases g <;> cases h <;> first | rfl | exact absurd rfl hne

@[simp] theorem set_pincode (g : Gate) (v : Text) (u : Uci) :
    (g.set v u).pincode = u.pincode := by cases g <;> rfl

@[simp] theorem set_pinIccid (g : Gate) (v : Text) (u : Uci) :
    (g.set v u).pinIccid = u.pinIccid := by cases g <;> rfl

@[simp] theorem set_pinFailed (g : Gate) (v : Text) (u : Uci) :
    (g.set v u).pinFailed = u.pinFailed := by cases g <;> rfl

@[simp] theorem set_pinPending (g : Gate) (v : Text) (u : Uci) :
    (g.set v u).pinPending = u.pinPending := by cases g <;> rfl

end Gate
end GlXe3000.Cellular
