import GlXe3000.Cellular.At.Daemon

/-! # Which command a reply belongs to

`send_at` serialises the commands and returns whatever lines it reads up to the first one that looks
like a result code. Nothing empties the port before a command is written, so the lines of a command
that timed out answer the next one (`late_reply_answers_next_command`), and a payload line that
looks like a result code ends a reply early. A reply is the command's own, and whole, when the modem
has nothing left to say about earlier commands as a command is written, no other line looks like a
result code, and the result code comes in time. -/

namespace GlXe3000.Cellular.At

namespace Kind

/-- The line belongs into the reply to command `k`. -/
def Of (k : Nat) : Kind → Prop
  | .urc => True
  | .part j | .final j => j = k

def isAnswer : Kind → Bool
  | .urc => false
  | .part _ | .final _ => true

def isFinal : Kind → Bool
  | .final _ => true
  | .urc | .part _ => false

theorem of_urc_of_not_answer {kind : Kind} (h : kind.isAnswer = false) (k : Nat) : kind.Of k := by
  cases kind with
  | urc => trivial
  | part | final => simp [isAnswer] at h

theorem Of.eq_final {kind : Kind} (h : kind.Of k) (hf : kind.isFinal = true) : kind = .final k := by
  cases kind with
  | final j => rw [show j = k from h]
  | urc | part => simp [isFinal] at hf

end Kind

/-- A reply has the lines of its own command, unsolicited ones at most between them, and the
command's own result code. -/
def Result.Own : Result → Prop
  | .reply _ k lines => (∀ l ∈ lines, l.kind.Of k) ∧ ∃ l ∈ lines, l.kind = .final k
  | .failed .. => True

def Daemon.settled (s : Daemon) : Bool := s.owed.isEmpty && s.inbox.all (!·.kind.isAnswer)

/-- A read that ends the loop without a result code ends it behind the command's own. -/
def Daemon.InTime (s : Daemon) (error : Bool) : Prop :=
  match s.phase with
  | .reading _ k deadline buf =>
    deadline ≤ s.now ∨ error = true → ∃ l ∈ buf, l.kind = .final k
  | _ => True

/-- Commands are written to a settled port, only result codes look like result codes, and a read
loop does not end before the command's own. -/
def Undisturbed (s : Daemon) : Event → Prop
  | .write _ => s.settled = true
  | .emit l => looksFinal l.text = true → l.kind.isFinal = true
  | .read error => s.InTime error
  | _ => True

instance (s : Daemon) (error : Bool) : Decidable (s.InTime error) := by
  unfold Daemon.InTime
  cases s.phase <;> infer_instance

instance (s : Daemon) : (e : Event) → Decidable (Undisturbed s e)
  | .write _ | .emit _ | .read _ => by unfold Undisturbed; infer_instance
  | .tick _ | .call .. | .attempt _ | .openPort _ | .urcTick | .setCfunLock _ | .setDev _ =>
    .isTrue trivial

def After.Own : After → Prop
  | .proceed _ => True
  | .give r => r.Own

def Daemon.PhaseOwn (s : Daemon) : Phase → Prop
  | .reading _ k _ buf =>
    (∀ l ∈ s.inbox, l.kind.Of k) ∧ (∀ l ∈ buf, l.kind.Of k) ∧ ∀ j ∈ s.owed, j = k
  | .drain _ after | .choose _ after | .probe _ _ _ after => after.Own
  | .idle | .ready _ | .urc => True

/-- No line in the port looks like a result code without being one, and no reply so far was wrong. -/
structure Daemon.Clear (s : Daemon) : Prop where
  inbox : ∀ l ∈ s.inbox, looksFinal l.text = true → l.kind.isFinal = true
  results : ∀ r ∈ s.results, r.Own

structure Daemon.Own (s : Daemon) : Prop where
  clear : s.Clear
  phase : s.PhaseOwn s.phase

namespace Daemon
variable {c : Config} {s t : Daemon}

theorem foldl_react (buf : List Line) (cmd : Option Text) :
    ∀ s : Daemon, ∃ watch, buf.foldl (fun s l => s.react l cmd) s = { s with watch := watch } := by
  induction buf with
  | nil => exact fun s => ⟨s.watch, rfl⟩
  | cons l buf ih =>
    intro s
    obtain ⟨watch, h⟩ := ih (s.react l cmd)
    exact ⟨watch, by rw [List.foldl_cons, h]; rfl⟩

namespace Clear

theorem mono (h : s.Clear) (hin : t.inbox ⊆ s.inbox) (hres : t.results = s.results) : t.Clear :=
  ⟨fun l hl => h.inbox l (hin hl), hres ▸ h.results⟩

theorem concat (h : s.Clear) {r : Result} (hr : r.Own) (hin : t.inbox = s.inbox)
    (hres : t.results = s.results ++ [r]) : t.Clear := by
  refine ⟨hin ▸ h.inbox, fun r' hr' => ?_⟩
  rw [hres] at hr'
  rcases List.mem_append.mp hr' with hr' | hr'
  · exact h.results r' hr'
  · rw [List.mem_singleton.mp hr']; exact hr

theorem give (h : s.Clear) {r : Result} (hr : r.Own) : (s.give r).Own :=
  ⟨h.concat hr rfl rfl, trivial⟩

theorem reopen (h : s.Clear) {after : After} (ha : after.Own) : (s.reopen c after).Own := by
  unfold Daemon.reopen
  split <;> exact ⟨⟨h.inbox, h.results⟩, ha⟩

theorem resume (h : s.Clear) {after : After} (ha : after.Own) : (s.resume after).Own := by
  cases after with
  | give r => exact h.give ha
  | proceed call =>
    unfold Daemon.resume
    split_ifs
    · exact ⟨⟨h.inbox, h.results⟩, trivial⟩
    · exact h.give trivial

theorem finish (h : s.Clear) {call : Call}
    (hr : Result.Own (.reply call.cmd k buf)) : (s.finish c call k buf readErr).Own := by
  obtain ⟨watch, hfold⟩ := foldl_react buf (some call.cmd) s
  unfold Daemon.finish
  rw [hfold]
  refine iteInduction (fun _ => ?_) (fun _ => ?_)
  · refine reopen ?_ hr
    exact ⟨h.inbox, h.results⟩
  · refine give ?_ hr
    exact ⟨h.inbox, h.results⟩

theorem tail (h : s.Clear) (hin : s.inbox = l :: rest)
    (ht : t.inbox = rest) (hres : t.results = s.results) : t.Clear :=
  h.mono (by rw [ht, hin]; exact List.subset_cons_self _ _) hres

end Clear

namespace Own

theorem stepWrite (h : s.Own) (ok : Bool) (hg : s.settled = true) : (s.stepWrite c ok).Own := by
  unfold Daemon.stepWrite
  split
  · next call hpc =>
    split_ifs
    · exact h.clear.give trivial
    · -- Nothing but reports in the port and nothing owed but this command.
      simp only [settled, Bool.and_eq_true, List.isEmpty_iff, List.all_eq_true,
        Bool.not_eq_true'] at hg
      refine ⟨⟨h.clear.inbox, h.clear.results⟩, fun l hl => ?_, by simp, ?_⟩
      · exact Kind.of_urc_of_not_answer (hg.2 l hl) _
      · simp [Daemon.send, hg.1]
    · exact h.clear.reopen trivial
  · exact h

theorem read (h : s.Own)
    (hpc : s.phase = .reading call k deadline buf) (error : Bool) (hg : s.InTime error) :
    (s.stepRead c error).Own := by
  obtain ⟨hin, hbuf, howed⟩ : s.PhaseOwn (.reading call k deadline buf) := hpc ▸ h.phase
  simp only [Daemon.InTime, hpc] at hg
  simp only [Daemon.stepRead, hpc]
  split_ifs with hdead herr
  · exact h.clear.finish ⟨hbuf, hg (.inl hdead)⟩
  · exact h.clear.finish ⟨hbuf, hg (.inr herr)⟩
  · split
    · exact h
    · next l rest hbox =>
      have hl : l.kind.Of k := hin l (by rw [hbox]; exact List.mem_cons_self)
      have hbuf' : ∀ l' ∈ buf ++ [l], l'.kind.Of k := by
        intro l' hl'
        rcases List.mem_append.mp hl' with hl' | hl'
        · exact hbuf l' hl'
        · rw [List.mem_singleton.mp hl']; exact hl
      split_ifs with hfin
      · have hfinal := h.clear.inbox l (by rw [hbox]; exact List.mem_cons_self) hfin
        refine Clear.finish ?_ ⟨hbuf', l, by simp, hl.eq_final hfinal⟩
        exact h.clear.tail hbox rfl rfl
      · refine ⟨h.clear.tail hbox rfl rfl, fun l' hl' => ?_, hbuf', howed⟩
        exact hin l' (by rw [hbox]; exact List.mem_cons_of_mem _ hl')

theorem stepRead (h : s.Own) (error : Bool) (hg : s.InTime error) : (s.stepRead c error).Own := by
  have hphase := h.phase
  cases hpc : s.phase with
  | reading call k deadline buf => exact h.read hpc error hg
  | drain n after =>
    rw [hpc] at hphase
    simp only [Daemon.stepRead, hpc]
    split
    · next l rest hbox _ => exact ⟨h.clear.tail hbox rfl rfl, hphase⟩
    · exact ⟨h.clear.mono (by simp [Daemon.inbox]) rfl, hphase⟩
  | probe path cands deadline after =>
    rw [hpc] at hphase
    simp only [Daemon.stepRead, hpc]
    split_ifs
    · exact ⟨h.clear.mono (by simp [Daemon.inbox]) rfl, hphase⟩
    · split
      · exact h
      · next l rest hbox =>
        split_ifs
        · refine Clear.resume ?_ hphase
          exact h.clear.tail hbox rfl rfl
        · exact ⟨h.clear.tail hbox rfl rfl, hphase⟩
  | urc =>
    simp only [Daemon.stepRead, hpc]
    split
    · next l rest hbox => exact ⟨h.clear.tail hbox rfl rfl, by simp [Daemon.react, PhaseOwn]⟩
    · exact ⟨⟨h.clear.inbox, h.clear.results⟩, trivial⟩
  | idle | ready | choose => simpa only [Daemon.stepRead, hpc] using h

theorem stepOpen (h : s.Own) (ok : Bool) : (s.stepOpen ok).Own := by
  have hphase := h.phase
  unfold Daemon.stepOpen
  split
  · next after hpc => rw [hpc] at hphase; exact h.clear.resume hphase
  · next path cands after hpc =>
    rw [hpc] at hphase
    split_ifs
    · exact ⟨h.clear.mono (by simp [Daemon.inbox]) rfl, hphase⟩
    · exact ⟨⟨h.clear.inbox, h.clear.results⟩, hphase⟩
  · exact h

theorem stepAttempt (h : s.Own) (i : Nat) : (s.stepAttempt c i).Own := by
  unfold Daemon.stepAttempt
  split
  · exact h
  · dsimp only
    split_ifs
    · exact ⟨⟨h.clear.inbox, h.clear.results⟩, trivial⟩
    · refine Clear.reopen ?_ trivial
      exact ⟨h.clear.inbox, h.clear.results⟩
    · exact ⟨h.clear.concat (r := .failed ..) trivial rfl rfl, h.phase⟩
    · exact h

theorem emitted (h : s.Own) {l : Line} (hg : looksFinal l.text = true → l.kind.isFinal = true)
    (hkind : ∀ k, (∀ j ∈ s.owed, j = k) → l.kind.Of k) {owed : List Nat} (howed : owed ⊆ s.owed) :
    Daemon.Own { s with port := s.port.map (· ++ [l]), owed := owed } := by
  have hmem : ∀ l' ∈ (s.port.map (· ++ [l])).getD [], l' ∈ s.inbox ∨ l' = l := by
    unfold Daemon.inbox
    cases s.port <;> simp
  refine ⟨⟨fun l' hl' => ?_, h.clear.results⟩, ?_⟩
  · rcases hmem l' hl' with hl' | rfl
    · exact h.clear.inbox l' hl'
    · exact hg
  · have hphase := h.phase
    show Daemon.PhaseOwn _ s.phase
    cases hpc : s.phase with
    | reading call k deadline buf =>
      obtain ⟨hin, hbuf, hk⟩ : s.PhaseOwn (.reading call k deadline buf) := hpc ▸ hphase
      refine ⟨fun l' hl' => ?_, hbuf, fun j hj => hk j (howed hj)⟩
      rcases hmem l' hl' with hl' | rfl
      · exact hin l' hl'
      · exact hkind k hk
    | drain | choose | probe => rw [hpc] at hphase; exact hphase
    | idle | ready | urc => trivial

theorem stepEmit (h : s.Own) (l : Line) (hg : looksFinal l.text = true → l.kind.isFinal = true) :
    (s.stepEmit l).Own := by
  unfold Daemon.stepEmit
  cases hkind : l.kind with
  | urc => exact h.emitted hg (fun _ _ => by rw [hkind]; trivial) (List.Subset.refl _)
  | part k =>
    dsimp only
    split_ifs with hk
    · exact h.emitted hg (fun j hj => by rw [hkind]; exact hj k hk) (List.Subset.refl _)
    · exact h
  | final k =>
    dsimp only
    split_ifs with hk
    · exact h.emitted hg (fun j hj => by rw [hkind]; exact hj k hk) (List.filter_subset_self _)
    · exact h

theorem step (h : s.Own) (e : Event) (hg : Undisturbed s e) : (s.step c e).Own := by
  cases e with
  | write ok => exact h.stepWrite ok hg
  | read error => exact h.stepRead error hg
  | emit l => exact h.stepEmit l hg
  | openPort ok => exact h.stepOpen ok
  | attempt i => exact h.stepAttempt i
  | urcTick =>
    simp only [Daemon.step]
    split
    · exact ⟨⟨h.clear.inbox, h.clear.results⟩, trivial⟩
    · exact h
  | tick | call | setCfunLock | setDev => exact ⟨⟨h.clear.inbox, h.clear.results⟩, h.phase⟩

end Own
end Daemon
/-- Replies belong to their commands and are whole, in every run that leaves the port undisturbed. -/
theorem reply_is_own (c : Config) (s : Daemon) (es : List Event) (hidle : s.phase = .idle)
    (hempty : s.port = some []) (hresults : s.results = [])
    (hes : (machine c).Admits Undisturbed s es) :
    ∀ cmd k lines, .reply cmd k lines ∈ ((machine c).run s es).results →
      (∀ l ∈ lines, l.kind = .urc ∨ l.kind = .part k ∨ l.kind = .final k) ∧
        ∃ l ∈ lines, l.kind = .final k := by
  have hstart : s.Own := by
    refine ⟨⟨by simp [Daemon.inbox, hempty], by simp [hresults]⟩, ?_⟩
    rw [hidle]
    trivial
  have hown : ((machine c).run s es).Own :=
    Machine.invariant (I := Daemon.Own) (fun _ e hg h => h.step e hg) hes hstart
  intro cmd k lines hr
  obtain ⟨hlines, hfinal⟩ := hown.clear.results _ hr
  refine ⟨fun l hl => ?_, hfinal⟩
  have hof := hlines l hl
  cases hkind : l.kind with
  | urc => exact .inl rfl
  | part j => rw [hkind] at hof; exact .inr (.inl (congrArg _ hof))
  | final j => rw [hkind] at hof; exact .inr (.inr (congrArg _ hof))

def send (cmd : Text) : List Event := [.call cmd none, .attempt 0, .write true]

/-- The modem answers command `k` in one line and a result code. -/
def answer (k : Nat) (text : Text) : List Event :=
  [.emit ⟨.part k, text⟩, .emit ⟨.final k, "OK\r"⟩]

theorem reply_is_own_with_report :
    let es := send "AT+QCCID".toList ++ [Event.emit ⟨.urc, "+QIND: \"csq\",20,99\r"⟩] ++
      answer 0 "+QCCID: 8988\r".toList ++
      [Event.read false, .read false, .read false]
    (machine {}).Admits Undisturbed (fresh 100) es ∧
      ((machine {}).run (fresh 100) es).results.map Result.text =
        [some "+QIND: \"csq\",20,99\r\n+QCCID: 8988\r\nOK\r".toList] ∧
      ∀ cmd k lines, .reply cmd k lines ∈ ((machine {}).run (fresh 100) es).results →
        (∀ l ∈ lines, l.kind = .urc ∨ l.kind = .part k ∨ l.kind = .final k) ∧
          ∃ l ∈ lines, l.kind = .final k := by
  intro es
  have hes : (machine {}).Admits Undisturbed (fresh 100) es := by decide
  exact ⟨hes, by decide, reply_is_own {} (fresh 100) es rfl rfl rfl hes⟩

/-- The modem answers `AT+QCCID` a second after the daemon gave up on it; the answer is returned for
`AT+QPINC?`, whose own answer is then left for the command after that. -/
theorem late_reply_answers_next_command :
    let es := send "AT+QCCID".toList ++ [Event.tick 5, .read false, .tick 1] ++
      answer 0 "+QCCID: 8988\r".toList ++ send "AT+QPINC?".toList ++
      [Event.read false, .read false] ++
      answer 1 "+QPINC: \"SC\",3,10\r"
    let lines : List Line := [⟨.part 0, "+QCCID: 8988\r"⟩, ⟨.final 0, "OK\r"⟩]
    .reply "AT+QPINC?" 1 lines ∈ ((machine {}).run (fresh 100) es).results ∧
      lines.all (·.kind ≠ .final 1) = true := by
  decide

end GlXe3000.Cellular.At
