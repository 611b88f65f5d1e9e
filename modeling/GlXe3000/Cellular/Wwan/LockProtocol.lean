import GlXe3000.Cellular.Wwan.Scripts

/-! # The protocol of the lock

Every script but `upgrade_cellular` touches wwan only while it holds
`/var/run/gl-net-reconfig.lock`, and keeps it from its `ifdown` to its end. -/

namespace GlXe3000.Cellular.Wwan

inductive Phase
  | free
  | held
  | down
  | returned
  deriving DecidableEq

def Phase.allows : Phase → Act → Prop
  | .returned, _ | .free, .ifdown | .free, .ifup | .free, .unlock | _, .spawnWorker _ => False
  | _, _ => True

def Phase.next : Phase → (a : Act) → Answer a → Phase
  | .free, .flock, true => .held
  | .held, .ifdown, _ => .down
  | .down, .ifup, _ => .held
  | .held, .unlock, _ => .free
  | .down, .unlock, _ => .returned
  | phase, _, _ => phase

def Serial (phase : Phase) (m : Script Bool) : Prop :=
  m.Obeys Phase.allows Phase.next phase fun _ _ => True

/-- An action of the protocol, or one that starts a run that is not under it. -/
def moves : Act → Prop
  | .flock | .unlock | .ifdown | .ifup | .spawnWorker _ => True
  | _ => False

section
variable {α : Type} {phase : Phase} {m : Script α} {Q : α → Prop}

theorem obeys_of_quiet (hphase : phase ≠ .returned) (hm : m.Covered moves (fun _ _ => False) Q) :
    m.Obeys Phase.allows Phase.next phase fun phase' x => phase' = phase ∧ Q x := by
  refine .of_covered hm fun a ha => ?_
  cases a with
  | flock | unlock | ifdown | ifup | spawnWorker => exact absurd trivial ha
  | _ => cases phase <;> first | exact absurd rfl hphase | exact ⟨trivial, fun _ => rfl⟩

theorem obeys_acquire (n : Nat) :
    (acquire n).Obeys Phase.allows Phase.next .free
      fun phase ok => phase = if ok then .held else .free := by
  induction n with
  | zero => exact rfl
  | succ n ih =>
    refine ⟨trivial, fun r => ?_⟩
    cases r with
    | false => exact ih
    | true => exact rfl

end

/-! ## The scripts -/

abbrev Quiet {α : Type} (m : Script α) : Prop := m.Covered moves (fun _ _ => False) fun _ => True

section
variable {α : Type} {phase : Phase} {f : α → Script Bool}

theorem Serial.quiet_bind (hphase : phase ≠ .returned) (hm : Quiet m)
    (hf : ∀ x, Serial phase (f x)) : Serial phase (m >>= f) :=
  (obeys_of_quiet hphase hm).bind fun _ x h => h.1 ▸ hf x

theorem Serial.acquire_bind {f : Bool → Script Bool} (n : Nat) (hheld : Serial .held (f true))
    (hfree : Serial .free (f false)) : Serial .free (acquire n >>= f) := by
  refine (obeys_acquire n).bind fun phase ok h => ?_
  subst h
  cases ok with
  | false => exact hfree
  | true => exact hheld

theorem Serial.ifdown_bind {f : Bool → Script Bool} (hf : ∀ ok, Serial .down (f ok)) :
    Serial .held (ifdown >>= f) :=
  ⟨trivial, hf⟩

theorem Serial.ret (phase : Phase) (b : Bool) : Serial phase (pure b) := trivial

theorem Serial.ifup (h : phase = .held ∨ phase = .down) : Serial phase Wwan.ifup := by
  rcases h with rfl | rfl <;> exact ⟨trivial, fun _ => trivial⟩

end

theorem quiet_flashing : Quiet flashing := .of_not_use id

theorem quiet_ask (q : Question) : Quiet (ask q) := .of_not_use id

theorem quiet_gatesOpen : Quiet gatesOpen := by
  simp [Quiet, gatesOpen, get, moves]

theorem quiet_enabled : Quiet enabled := by
  simp [Quiet, enabled, administrativelyEnabled, getBoth, setScan, ask, moves]

theorem quiet_removeEnded (n : Nat) : Quiet (removeEnded n) := by
  induction n with
  | zero => trivial
  | succ n ih => simp [Quiet, removeEnded, removeAlive, moves, ih]

theorem quiet_cycleFunction : Quiet cycleFunction := by
  simp [Quiet, cycleFunction, remove, rescan, ask, moves, quiet_removeEnded]

theorem quiet_cycleAgain (rc : Cycle) : Quiet (cycleAgain rc) := by
  cases rc with
  | missing => simp [Quiet, cycleAgain, ask, moves, quiet_cycleFunction]
  | back | failed => trivial

theorem serial_restoreWwan : Serial .down restoreWwan := by
  refine Serial.quiet_bind (by decide) quiet_gatesOpen fun ok => ?_
  split
  · exact Serial.ifup (.inr rfl)
  · exact Serial.ret _ _

theorem serial_modemReset : Serial .free modemReset := by
  refine Serial.quiet_bind (by decide) quiet_flashing fun raised => ?_
  split
  · exact Serial.ret _ _
  refine Serial.quiet_bind (by decide) (quiet_ask _) fun found => ?_
  split
  · refine Serial.acquire_bind 30 ?_ (Serial.ret _ _)
    refine Serial.quiet_bind (by decide) quiet_gatesOpen fun ok => ?_
    split
    · refine Serial.ifdown_bind fun ok => ?_
      split
      · refine Serial.quiet_bind (by decide) quiet_cycleFunction fun rc => ?_
        refine Serial.quiet_bind (by decide) (quiet_cycleAgain rc) fun rc => ?_
        exact Proc.Obeys.bind serial_restoreWwan fun _ _ _ => trivial
      · exact Serial.ret _ _
    · exact Serial.ret _ _
  · exact Serial.ret _ _

theorem serial_wwanReconnect : Serial .free wwanReconnect := by
  refine Serial.quiet_bind (by decide) quiet_flashing fun raised => ?_
  split
  · exact Serial.ret _ _
  refine Serial.acquire_bind 20 ?_ (Serial.ret _ _)
  refine Serial.quiet_bind (by decide) quiet_gatesOpen fun ok => ?_
  split
  · refine Serial.ifdown_bind fun ok => ?_
    split
    · refine Serial.quiet_bind (by decide) (quiet_ask _) fun _ => ?_
      refine Serial.quiet_bind (by decide) quiet_gatesOpen fun ok => ?_
      split
      · exact Serial.ifup (.inr rfl)
      · exact Serial.ret _ _
    · exact Serial.ret _ _
  · exact Serial.ret _ _

theorem serial_doRedial : Serial .free doRedial := by
  refine Serial.acquire_bind 10 ?_ (Serial.ret _ _)
  refine Serial.ifdown_bind fun _ => ?_
  refine Serial.quiet_bind (by decide) (quiet_ask _) fun _ => ?_
  refine Serial.quiet_bind (by decide) quiet_enabled fun ok => ?_
  split
  · exact Serial.ifup (.inr rfl)
  · exact Serial.ret _ _

abbrev Rounds {α : Type} (m : Script α) : Prop :=
  m.Obeys Phase.allows Phase.next .held fun phase _ => phase = .held

theorem Rounds.bind {α β : Type} {m : Script α} {f : α → Script β} (hm : Rounds m)
    (hf : ∀ x, Rounds (f x)) : Rounds (m >>= f) := by
  refine Proc.Obeys.bind hm fun phase x h => ?_
  subst h
  exact hf x

theorem Rounds.of_quiet {α : Type} {m : Script α} (hm : Quiet m) : Rounds m :=
  (obeys_of_quiet (by decide) hm).mono fun _ _ h => h.1

theorem rounds_redialIfDown : Rounds redialIfDown := by
  refine .bind (.of_quiet (quiet_ask _)) fun up => ?_
  split
  · exact rfl
  refine .bind (.of_quiet (.of_not_use id)) fun auto => ?_
  split
  · refine .bind (.of_quiet (.of_not_use id)) fun disabled => ?_
    split
    · refine ⟨trivial, fun _ => ?_⟩
      have hdown : Phase.down ≠ .returned := by decide
      refine (obeys_of_quiet hdown (quiet_ask _)).bind fun phase _ h => ?_
      rw [h.1]
      exact ⟨trivial, fun _ => rfl⟩
    · exact rfl
  · exact rfl

theorem rounds_redialOrUp : Rounds redialOrUp := by
  refine .bind rounds_redialIfDown fun redialled => ?_
  split
  · exact rfl
  · exact ⟨trivial, fun _ => rfl⟩

theorem rounds_channelReset : Rounds channelReset := by
  refine .bind (.of_quiet (quiet_ask _)) fun reset => ?_
  split
  · refine .bind (.of_quiet (quiet_ask _)) fun back => ?_
    split
    · exact rfl
    · refine .bind rounds_redialIfDown fun redialled => ?_
      split
      · exact .of_quiet (quiet_ask _)
      · exact rfl
  · exact rfl

theorem rounds_controllerReset : Rounds controllerReset := by
  refine .bind (.of_quiet (quiet_ask _)) fun reset => ?_
  split
  · refine .bind (.of_quiet (quiet_ask _)) fun _ => ?_
    exact .bind rounds_redialOrUp fun _ => .of_quiet (quiet_ask _)
  · exact rfl

theorem serial_mhiReset : Serial .free mhiReset := by
  refine Serial.quiet_bind (by decide) quiet_flashing fun raised => ?_
  split
  · exact Serial.ret _ _
  refine Serial.acquire_bind 15 ?_ (Serial.ret _ _)
  refine Serial.quiet_bind (by decide) (quiet_ask _) fun debugfs => ?_
  split
  · refine Proc.Obeys.bind rounds_channelReset fun phase done h => ?_
    subst h
    split
    · exact Serial.ret _ _
    · exact rounds_controllerReset.mono fun _ _ _ => trivial
  · exact Serial.ret _ _

theorem serial_netRun {command : Script Bool}
    (h : command.Obeys Phase.allows Phase.next .held fun phase _ => phase = .held ∨ phase = .down) :
    Serial .free (netRun command) := by
  refine Serial.acquire_bind 30 (h.bind fun phase status hphase => ?_) (Serial.ret _ _)
  rcases hphase with rfl | rfl <;> exact ⟨trivial, fun _ => trivial⟩

theorem serial_disconnect : Serial .free disconnect :=
  serial_netRun ⟨trivial, fun _ => .inr rfl⟩

theorem serial_pinBounce : Serial .free pinBounce :=
  serial_netRun ⟨trivial, fun _ => ⟨trivial, fun _ => .inl rfl⟩⟩

theorem serial_script (j : Job) (h : j ≠ .upgradeCellular) (h' : j ≠ .scanOperatorList) :
    Serial .free j.script := by
  cases j with
  | modemReset => exact serial_modemReset
  | wwanReconnect => exact serial_wwanReconnect
  | doRedial => exact serial_doRedial
  | mhiReset => exact serial_mhiReset
  | disconnect => exact serial_disconnect
  | pinBounce => exact serial_pinBounce
  | scanOperatorList => exact absurd rfl h'
  | upgradeCellular => exact absurd rfl h

/-- `upgrade_cellular` starts no run beside itself. -/
def spawns : Act → Prop
  | .spawnWorker _ => True
  | _ => False

abbrev Single (m : Script Bool) : Prop := m.Covered spawns (fun _ _ => False) fun _ => True

theorem single_upgradeCellular : Single upgradeCellular := by
  simp [Single, upgradeCellular, raise, lower, ifdown, ifup, ask, spawns]

end GlXe3000.Cellular.Wwan
