import GlXe3000.WanHealth.Daemon

/-! # The probes of an uplink stay fresh

A pass may take the growth of a counter for a probe. What vouches for that is a probe that passed,
and the skips since are bounded. Both hold of the history of each interface, whatever its device and
its counter do between the passes. Without a device there is nothing to probe, however often mwan3
calls the interface online. -/

namespace GlXe3000.WanHealth
open Text

/-! ## Evaluations -/

structure Evaluation where
  /-- The interface had an `l3_device`. -/
  device : Bool
  /-- `conn_ok` got to its first ping. -/
  probed : Bool
  ok : Bool
  deriving DecidableEq

def isSkipped (g : Gate) (ifc : Iface) : Bool :=
  rxGated ifc.name && !ifc.device.isEmpty && (rxSkipProbe g ifc).1

def evaluate (g : Gate) (ifc : Iface) : Evaluation where
  device := !ifc.device.isEmpty
  probed := !isSkipped g ifc && !ifc.device.isEmpty
  ok := (checkIface g ifc).1

/-- The evaluation of an interface of a pass, if it is the one that is followed and it could carry
traffic. -/
def evaluated (name : Text) (gates : Gates) (ifc : Iface) : List Evaluation :=
  if ifc.name = name ∧ (ifc.up || ifc.status = .online) then [evaluate (gates name) ifc] else []

def evaluations (name : Text) : Gates × Findings → List Iface → List Evaluation
  | _, [] => []
  | acc, ifc :: ifcs => evaluated name acc.1 ifc ++ evaluations name (probeIface acc ifc) ifcs

def history (cfg : Settings) (name : Text) : Run → List Pass → List Evaluation
  | _, [] => []
  | run, p :: ps =>
    evaluations name (run.state.gates, {}) (mwan3TrackedIfaces p.ifaces) ++
      history cfg name ((machine cfg).step run p) ps

/-- A probe has passed, and nothing has failed since. -/
def Vouched (l : List Evaluation) : Prop :=
  ∃ before e since, l = before ++ e :: since ∧ e.probed ∧ e.ok ∧ ∀ e' ∈ since, e'.ok

/-- There was a device each time, and no probe. -/
def Unprobed (l : List Evaluation) : Prop := ∀ e ∈ l, e.device = true ∧ e.probed = false

/-! ## One evaluation -/

structure Kept (name : Text) (g : Gate) (l : List Evaluation) : Prop where
  ungated : rxGated name = false → g.okPrev = none
  windows : ∀ w, w <:+: l → Unprobed w → w.length ≤ rxMaxSkip
  skips : ∀ w, w <:+ l → Unprobed w → w.length ≤ g.skips
  vouched : g.okPrev = some true → Vouched l
  skipped : ∀ before e after, l = before ++ e :: after → e.ok → e.probed = false → Vouched before

inductive Evaluates (g g' : Gate) : Evaluation → Prop
  | skip (hok : g.okPrev = some true) (hlt : g.skips < rxMaxSkip)
      (hskips : g'.skips = g.skips + 1) : Evaluates g g' ⟨true, false, true⟩
  /-- `conn_ok`, which probes where there is a device. -/
  | look {device ok : Bool} (hok : g'.okPrev = some true → ok = true)
      (hdevice : ok = true → device = true) : Evaluates g g' ⟨device, device, ok⟩

section
variable {name : Text} {g g' : Gate} {ifc : Iface} {e : Evaluation} {l : List Evaluation}

theorem rxSkipProbe_of_skip (h : (rxSkipProbe g ifc).1 = true) :
    g.okPrev = some true ∧ g.skips < rxMaxSkip ∧ (rxSkipProbe g ifc).2.skips = g.skips + 1 := by
  unfold rxSkipProbe at h ⊢
  split at h
  · cases h
  · next now hnow =>
    dsimp only at h ⊢
    rw [if_pos h]
    simp only [Gate.isOpen, Bool.and_eq_true, decide_eq_true_eq] at h
    exact ⟨h.1.1.1, h.2, rfl⟩

theorem evaluates (hungated : rxGated ifc.name = false → g.okPrev = none) :
    Evaluates g (checkIface g ifc).2 (evaluate g ifc) := by
  have hconn : connOk ifc = true → (!ifc.device.isEmpty) = true := fun h =>
    (Bool.and_eq_true_iff.1 h).1
  unfold evaluate isSkipped checkIface
  cases hgated : rxGated ifc.name with
  | false =>
    refine .look (fun hok => ?_) hconn
    rw [if_neg Bool.false_ne_true, hungated hgated] at hok
    cases hok
  | true =>
    rw [if_pos rfl, Bool.true_and]
    cases hdevice : ifc.device.isEmpty with
    | true =>
      rw [hdevice] at hconn
      exact .look Option.some.inj hconn
    | false =>
      rw [if_neg Bool.false_ne_true, Bool.not_false, Bool.true_and, Bool.and_true]
      cases hskip : (rxSkipProbe g ifc).1 with
      | false => exact .look Option.some.inj fun _ => rfl
      | true =>
        obtain ⟨hok, hlt, hskips⟩ := rxSkipProbe_of_skip hskip
        simp only [hskip, Bool.true_or, Bool.not_true]
        exact .skip hok hlt hskips

theorem okPrev_of_not_gated (h : rxGated ifc.name = false) :
    (checkIface g ifc).2.okPrev = g.okPrev := by
  unfold checkIface
  rw [h, if_neg Bool.false_ne_true]

theorem Vouched.concat (h : Vouched l) (he : e.ok) : Vouched (l ++ [e]) := by
  obtain ⟨before, e₀, since, rfl, hprobed, hok, hsince⟩ := h
  refine ⟨before, e₀, since ++ [e], by simp, hprobed, hok, ?_⟩
  intro e' he'
  obtain he' | he' := List.mem_append.1 he'
  · exact hsince e' he'
  · rw [List.mem_singleton.1 he']
    exact he

theorem eq_nil_of_unprobed (hw : Unprobed w) (hsuffix : w <:+ l ++ [e])
    (he : e.probed = e.device) : w = [] := by
  obtain rfl | ⟨t, rfl, -⟩ := List.suffix_concat_iff.1 hsuffix
  · rfl
  · obtain ⟨hdevice, hprobed⟩ := hw e (List.mem_append_right t List.mem_cons_self)
    rw [he, hdevice] at hprobed
    cases hprobed

theorem Evaluates.skips_concat (h : Evaluates g g' e)
    (hl : ∀ w, w <:+ l → Unprobed w → w.length ≤ g.skips) :
    ∀ w, w <:+ l ++ [e] → Unprobed w → w.length ≤ g'.skips ∧ w.length ≤ rxMaxSkip := by
  intro w hsuffix hw
  cases h with
  | look _ _ =>
    rw [eq_nil_of_unprobed hw hsuffix rfl]
    exact ⟨Nat.zero_le _, Nat.zero_le _⟩
  | skip hok hlt hskips =>
    obtain rfl | ⟨t, rfl, ht⟩ := List.suffix_concat_iff.1 hsuffix
    · exact ⟨Nat.zero_le _, Nat.zero_le _⟩
    · have hlen := hl t ht fun e' he' => hw e' (List.mem_append_left _ he')
      rw [List.length_append, List.length_singleton, hskips]
      omega

theorem Kept.concat (h : Kept name g l) (he : Evaluates g g' e)
    (hungated : rxGated name = false → g'.okPrev = none) : Kept name g' (l ++ [e]) where
  ungated := hungated
  windows := by
    intro w hw hun
    obtain hsuffix | hinfix := List.infix_concat_iff.1 hw
    · exact (he.skips_concat h.skips w hsuffix hun).2
    · exact h.windows w hinfix hun
  skips := fun w hw hun => (he.skips_concat h.skips w hw hun).1
  vouched := by
    intro hok
    cases he with
    | skip hok' _ _ => exact (h.vouched hok').concat rfl
    | look hok' hdevice =>
      exact ⟨l, _, [], rfl, hdevice (hok' hok), hok' hok, fun e' he' => nomatch he'⟩
  skipped := by
    intro before e' after heq hok hprobed
    obtain rfl | ⟨after, last, rfl⟩ := List.eq_nil_or_concat after
    · obtain ⟨rfl, hlast⟩ := List.append_inj' heq rfl
      cases hlast
      cases he with
      | skip hok' _ _ => exact h.vouched hok'
      | look _ hdevice =>
        rw [hdevice hok] at hprobed
        cases hprobed
    · rw [List.concat_eq_append, ← List.cons_append, ← List.append_assoc] at heq
      exact h.skipped before e' after (List.append_inj' heq rfl).1 hok hprobed

end

/-! ## A pass and a run -/

section
variable {cfg : Settings} {name : Text} {l : List Evaluation}

theorem Kept.probeIface {acc : Gates × Findings} (h : Kept name (acc.1 name) l) (ifc : Iface) :
    Kept name ((probeIface acc ifc).1 name) (l ++ evaluated name acc.1 ifc) := by
  unfold WanHealth.probeIface evaluated
  by_cases hname : ifc.name = name
  · subst hname
    split
    · next heval =>
      dsimp only
      rw [if_pos ⟨rfl, heval⟩, Function.update_self]
      exact h.concat (evaluates h.ungated) fun hgated =>
        (okPrev_of_not_gated hgated).trans (h.ungated hgated)
    · next heval =>
      rw [if_neg fun hand => heval hand.2, List.append_nil]
      exact h
  · rw [if_neg fun hand : ifc.name = name ∧ _ => hname hand.1, List.append_nil]
    split
    · dsimp only
      rw [Function.update_of_ne (Ne.symm hname)]
      exact h
    · exact h

theorem Kept.foldl {ifcs : List Iface} (h : Kept name (g name) l) :
    Kept name ((ifcs.foldl WanHealth.probeIface (g, f)).1 name)
      (l ++ evaluations name (g, f) ifcs) := by
  induction ifcs generalizing g f l with
  | nil =>
    rw [evaluations, List.append_nil]
    exact h
  | cons ifc ifcs ih =>
    rw [evaluations, ← List.append_assoc]
    exact ih (h.probeIface ifc)

theorem gates_contradicted (p : Pass) (f : Findings) (s : State) :
    (contradicted cfg p f s).1.gates = s.gates := by
  unfold contradicted
  split
  · rfl
  · split
    · rfl
    · unfold recover countReset doSleep
      dsimp only
      split <;> split <;> rfl

theorem gates_pass (p : Pass) (s : State) :
    (pass cfg p s).1.gates = (probe s.gates p.ifaces).1 := by
  unfold pass
  dsimp only
  split
  · exact gates_contradicted p _ _
  · rfl

theorem Kept.history {run : Run} (h : Kept name (run.state.gates name) l) :
    Kept name (((machine cfg).run run ps).state.gates name) (l ++ history cfg name run ps) := by
  induction ps generalizing run l with
  | nil =>
    rw [WanHealth.history, List.append_nil]
    exact h
  | cons p ps ih =>
    rw [WanHealth.history, ← List.append_assoc]
    have hstep : Kept name (((machine cfg).step run p).state.gates name)
        (l ++ evaluations name (run.state.gates, {}) (mwan3TrackedIfaces p.ifaces)) := by
      show Kept name ((pass cfg p run.state).1.gates name) _
      rw [gates_pass]
      exact h.foldl
    exact ih hstep

theorem kept_start (cfg : Settings) (now : Nat) (name : Text) :
    Kept name ((start cfg now).state.gates name) [] where
  ungated _ := rfl
  windows w hw _ := by
    rw [List.infix_nil.1 hw]
    exact Nat.zero_le _
  skips w hw _ := by
    rw [List.suffix_nil.1 hw]
    exact Nat.zero_le _
  vouched h := nomatch h
  skipped before e after h := by
    have := congrArg List.length h
    simp at this

/-- Of any three evaluations in a row with a device one runs a probe, and an interface that is counted
as connected without one has passed a probe before, and failed nothing since. -/
theorem probes_stay_fresh (cfg : Settings) (now : Nat) (name : Text) (ps : List Pass) :
    (∀ w, w <:+: history cfg name (start cfg now) ps → w.length = rxMaxSkip + 1 →
        (∀ e ∈ w, e.device = true) → ∃ e ∈ w, e.probed = true) ∧
      ∀ before e after, history cfg name (start cfg now) ps = before ++ e :: after →
        e.ok = true → e.probed = false → Vouched before := by
  have h : Kept name (((machine cfg).run (start cfg now) ps).state.gates name)
      ([] ++ history cfg name (start cfg now) ps) := (kept_start cfg now name).history
  rw [List.nil_append] at h
  refine ⟨fun w hw hlen hdevice => ?_, h.skipped⟩
  by_contra hnone
  have hun : Unprobed w := by
    intro e he
    refine ⟨hdevice e he, ?_⟩
    by_contra hprobed
    exact hnone ⟨e, he, Bool.not_eq_false _ ▸ hprobed⟩
  have := h.windows w hw hun
  omega

end

/-- A pass over a modem that mwan3 calls online, with its device and counter. -/
def modemPass (up : Bool) (device : Text) (rx : Option Nat) : Pass where
  ifaces := [⟨"wwan", true, true, up, .online, device, rx, ⟨[true], true, []⟩⟩]
  hasLed := true
  ledEnable := true
  probing := 1
  logging := 0
  repairing := 0
  wake := none
  late := 0

/-- The counter grows in every pass, and every third pass probes. -/
example : (history defaults "wwan" (start defaults 0)
      ([1, 2, 3, 4, 5].map fun rx => modemPass true "rmnet0" (some rx))).map Evaluation.probed =
    [true, false, false, true, false] := by decide

/-- An interface that is down has no device, and is evaluated without a probe as long as mwan3 calls
it online. -/
theorem no_probe_without_device :
    history defaults "wwan" (start defaults 0) (List.replicate 3 (modemPass false [] none)) =
      List.replicate 3 ⟨false, false, false⟩ := by
  decide

end GlXe3000.WanHealth
