import GlXe3000.Repeater.Disconnect

/-! # The attempts of one selection

The daemon counts the attempts that fail in a row in a file. The count decides how long it waits, and
when it gives up. The calls reset it: `connect` and `disconnect` do, and so does a link that is up. -/

namespace GlXe3000.Repeater.Timeout

def Note.begins : Note → Bool
  | .selected | .up => true
  | .failed | .enabled _ _ => false

def Note.selects : Note → Bool
  | .selected => true
  | .up | .failed | .enabled _ _ => false

/-- The wait before the station was enabled again, for a network that was not known. -/
def Note.wait : Note → Option Nat
  | .enabled _ (some (wait, false)) => some wait
  | _ => none

def recent (log : List Note) : List Note := log.takeWhile fun n => !n.begins

def waits (log : List Note) : List Nat := (recent log).filterMap Note.wait

/-- The waits since the user has selected the network, also those before the link was up. -/
def attempts (log : List Note) : List Nat :=
  (log.takeWhile fun n => !n.selects).filterMap Note.wait

section
variable {n : Note} {log : List Note}

theorem recent_begins (h : n.begins = true) : recent (n :: log) = [] := by
  rw [recent, List.takeWhile_cons, h]
  rfl

theorem recent_cons (h : n.begins = false) : recent (n :: log) = n :: recent log := by
  rw [recent, List.takeWhile_cons, h]
  rfl

theorem waits_begins (h : n.begins = true) : waits (n :: log) = [] := by
  rw [waits, recent_begins h]
  rfl

theorem waits_of_head? (h : log.head? = some n) (hn : n.begins = true) : waits log = [] := by
  obtain ⟨log, rfl⟩ := List.head?_eq_some_iff.1 h
  exact waits_begins hn

theorem mem_recent_of_head? (h : log.head? = some n) (hn : n.begins = false) : n ∈ recent log := by
  obtain ⟨log, rfl⟩ := List.head?_eq_some_iff.1 h
  rw [recent_cons hn]
  exact List.mem_cons_self

theorem waits_silent (hn : n.begins = false) (hwait : n.wait = none) :
    waits (n :: log) = waits log := by
  rw [waits, recent_cons hn, List.filterMap_cons_none hwait, waits]

theorem waits_wait (hn : n.begins = false) (hwait : n.wait = some wait) :
    waits (n :: log) = wait :: waits log := by
  rw [waits, recent_cons hn, List.filterMap_cons_some hwait, waits]

theorem attempts_silent (hn : n.selects = false) (hwait : n.wait = none) :
    attempts (n :: log) = attempts log := by
  rw [attempts, List.takeWhile_cons, hn]
  exact List.filterMap_cons_none hwait

theorem attempts_wait (hn : n.selects = false) (hwait : n.wait = some wait) :
    attempts (n :: log) = wait :: attempts log := by
  rw [attempts, List.takeWhile_cons, hn]
  exact List.filterMap_cons_some hwait

theorem attempts_cons (hn : n.begins = false) (h : attempts log = waits log) :
    attempts (n :: log) = waits (n :: log) := by
  have hne : n.selects = false := by
    cases n with
    | selected | up => cases hn
    | failed | enabled disconnected retry => rfl
  cases hwait : n.wait with
  | none => rw [attempts_silent hne hwait, waits_silent hn hwait, h]
  | some wait => rw [attempts_wait hne hwait, waits_wait hn hwait, h]

end

/-- `RETRY_COUNT_FLAG`, which may be missing. -/
def Files.count (files : Files) : Nat := files.retryCount.getD 0

def Files.Full (files : Files) : Prop := files.retryCount = none ∧ files.retryAt = none

theorem backoff_mono (h : m ≤ n) : backoff m ≤ backoff n :=
  min_le_min_left _ (Nat.mul_le_mul_left _ h)

/-! ## What the log shows -/

/-- The attempts are fewer than the limit, and the waits grow up to the longest. -/
structure Within (max : Nat) (waits : List Nat) : Prop where
  few : waits.length ≤ max - 1
  grow : waits.Pairwise (· ≥ ·)
  short : ∀ wait ∈ waits, wait ≤ retryBackoffMax

theorem within_nil {max : Nat} : Within max [] := ⟨Nat.zero_le _, .nil, fun _ h => nomatch h⟩

def pending : Option (Nat × Bool) → Nat
  | some (_, false) => 1
  | _ => 0

def AtPc (files : Files) (retry : Option (Nat × Bool)) (log : List Note) : Pc → Prop
  | .top | .noStation | .checkRetry | .clearRetry => True
  | .readRetry | .lockRetry _ | .enable => retry.isSome = true
  | .noteUp | .resetCount => files.retryAt = none ∧ log.head? = some .up
  | .writeCount _ _ retries => files.retryAt = none ∧ retries = files.count + 1
  | .writeFail _ _ retries | .writeRetry _ _ retries =>
    files.retryAt = none ∧ files.count = retries ∧ (waits log).length + 1 ≤ retries ∧
      log.head? = some .failed
  | _ => files.retryAt = none

/-- The count covers the attempts that have been made, and the one that is due. -/
structure Live (max : Nat) (pc : Pc) (files : Files) (retry : Option (Nat × Bool))
    (log : List Note) : Prop where
  spent : (waits log).length + pending retry ≤ files.count
  due : ∀ wait, retry = some (wait, false) → files.count < max ∧ wait = backoff files.count
  paid : ∀ wait ∈ waits log, wait ≤ backoff files.count
  atPc : AtPc files retry log pc

structure Linked (pc : Pc) (files : Files) (retry : Option (Nat × Bool)) : Prop where
  file : files.retryAt = none → retry = none
  retry : files.retryAt.isSome = true → retry.isSome = true ∨ pc = .clearRetry

section
variable {max : Nat} {pc pc' : Pc} {files files' : Files} {retry : Option (Nat × Bool)}
  {log : List Note}

theorem Live.goto (h : Live max pc files retry log) (hpc : AtPc files retry log pc') :
    Live max pc' files retry log := ⟨h.spent, h.due, h.paid, hpc⟩

theorem Live.of_count (h : Live max pc files retry log) (hcount : files'.retryCount = files.retryCount)
    (hpc : AtPc files' retry log pc') : Live max pc' files' retry log := by
  have hcount' : files'.count = files.count := by rw [Files.count, hcount, Files.count]
  refine ⟨?_, ?_, ?_, hpc⟩
  · rw [hcount']
    exact h.spent
  · rw [hcount']
    exact h.due
  · rw [hcount']
    exact h.paid

theorem Live.forget (h : Live max pc files retry log) (hcount : files'.retryCount = files.retryCount)
    (hpc : AtPc files' none log pc') : Live max pc' files' none log := by
  refine ⟨?_, (fun _ hwait => nomatch hwait), ?_, hpc⟩
  · rw [Files.count, hcount]
    exact (Nat.le_add_right _ _).trans h.spent
  · rw [Files.count, hcount]
    exact h.paid

theorem live_nil (hwaits : waits log = []) (hretry : ∀ wait, retry ≠ some (wait, false))
    (hpc : AtPc files retry log pc) : Live max pc files retry log := by
  refine ⟨?_, fun wait hwait => absurd hwait (hretry wait), fun wait hmem => ?_, hpc⟩
  · have hpending : pending retry = 0 := by
      unfold pending
      split
      · next wait => exact absurd rfl (hretry wait)
      · rfl
    rw [hwaits, hpending]
    exact Nat.zero_le _
  · rw [hwaits] at hmem
    cases hmem

theorem Live.within (h : Live max pc files (some (wait, false)) log)
    (hwaits : waits log = rest) (hwithin : Within max rest) : Within max (wait :: rest) := by
  obtain ⟨hlt, rfl⟩ := h.due wait rfl
  subst hwaits
  refine ⟨?_, List.pairwise_cons.2 ⟨h.paid, hwithin.grow⟩, fun w hw => ?_⟩
  · have hspent : (waits log).length + 1 ≤ files.count := h.spent
    rw [List.length_cons]
    omega
  · obtain rfl | hw := List.mem_cons.1 hw
    · exact Nat.min_le_left _ _
    · exact hwithin.short w hw

end

/-! ## The daemon -/

theorem Linked.goto {pc pc' : Pc} {files files' : Files} {retry : Option (Nat × Bool)}
    (h : Linked pc files retry) (hpc : pc ≠ .clearRetry) (hfile : files'.retryAt = files.retryAt) :
    Linked pc' files' retry := by
  refine ⟨fun hnone => h.file (hfile ▸ hnone), fun hsome => .inl ?_⟩
  exact (h.retry (hfile ▸ hsome)).resolve_right hpc

theorem linked_none {pc : Pc} {files : Files} (h : files.retryAt = none) :
    Linked pc files none := by
  refine ⟨fun _ => rfl, fun hsome => ?_⟩
  rw [h] at hsome
  cases hsome

section
variable {s : State} {max : Nat} {e : Reply}

theorem runDaemon_linked (h : Linked s.daemon.pc s.world.files s.retry) :
    Linked (s.runDaemon max e).daemon.pc (s.runDaemon max e).world.files (s.runDaemon max e).retry := by
  obtain ⟨w, ⟨pc, station, since, nak⟩, acts, disconnected, retry, log⟩ := s
  unfold State.runDaemon State.nextRetry Daemon.step
  cases pc with
  | noStation => exact linked_none rfl
  | enable => exact ⟨fun _ => rfl, fun _ => .inr rfl⟩
  | clearRetry => exact linked_none rfl
  | writeRetry now known retries =>
    dsimp only
    split
    · exact ⟨nofun, fun _ => .inl rfl⟩
    · split
      · exact linked_none rfl
      · exact ⟨nofun, fun _ => .inl rfl⟩
  | top | checkDisabled | checkUp | timing | autofix now known =>
    dsimp only
    split
    all_goals exact h.goto nofun rfl
  | lockAutofix now known type count tries =>
    dsimp only
    split
    · exact h.goto nofun rfl
    · split
      all_goals exact h.goto nofun rfl
  | _ => exact h.goto nofun rfl

theorem atPc_nextTry {again : Nat → Pc} (hheld : AtPc files retry log held)
    (hbusy : AtPc files retry log busy) (hagain : ∀ n, AtPc files retry log (again n)) :
    AtPc files retry log (nextTry free tries held busy again) := by
  unfold nextTry
  split
  · exact hheld
  · split
    · exact hbusy
    · exact hagain _

theorem atPc_expire {d : Daemon} {files : Files} (h : files.retryAt = none) :
    AtPc files retry log (d.expire now known).pc := by
  unfold Daemon.expire Daemon.goto
  dsimp only
  split
  · exact h
  · trivial

theorem Live.enabled (h : Live max pc files retry log) :
    Live max .clearRetry files none (.enabled disconnected retry :: log) := by
  match retry, h with
  | none, h => exact ⟨h.spent, h.due, h.paid, trivial⟩
  | some (wait, true), h => exact ⟨h.spent, (fun _ hwait => nomatch hwait), h.paid, trivial⟩
  | some (wait, false), h =>
    have hwaits : waits (.enabled disconnected (some (wait, false)) :: log) = wait :: waits log :=
      waits_wait rfl rfl
    refine ⟨?_, (fun _ hwait => nomatch hwait), fun w hw => ?_, trivial⟩
    · rw [hwaits]
      exact h.spent
    · rw [hwaits] at hw
      obtain rfl | hw := List.mem_cons.1 hw
      · exact (h.due w rfl).2.le
      · exact h.paid w hw

theorem Live.failed {pc : Pc} {files : Files} {log : List Note} {now retries : Nat} {known : Bool}
    (h : Live max pc files none log) (hfile : files.retryAt = none)
    (hretries : retries = files.count + 1) :
    Live max (.writeFail now known retries) { files with retryCount := some retries } none
      (.failed :: log) := by
  have hwaits : waits (.failed :: log) = waits log := waits_silent rfl rfl
  have hspent : (waits log).length ≤ files.count := h.spent
  subst hretries
  refine ⟨?_, (fun _ hwait => nomatch hwait), fun w hw => ?_, hfile, rfl, ?_, rfl⟩
  · rw [hwaits]
    exact Nat.le_succ_of_le hspent
  · rw [hwaits] at hw
    exact (h.paid w hw).trans (backoff_mono (Nat.le_succ _))
  · rw [hwaits]
    exact Nat.succ_le_succ hspent

theorem runDaemon_live (h : Live max s.daemon.pc s.world.files s.retry s.log)
    (hlinked : Linked s.daemon.pc s.world.files s.retry) :
    Live max (s.runDaemon max e).daemon.pc (s.runDaemon max e).world.files (s.runDaemon max e).retry
      (s.runDaemon max e).log := by
  obtain ⟨w, ⟨pc, station, since, nak⟩, acts, disconnected, retry, log⟩ := s
  have hat := h.atPc
  unfold State.runDaemon State.nextRetry State.notes Daemon.step
  cases pc with
  | top =>
    dsimp only
    split
    all_goals exact h.goto trivial
  | noStation => exact h.forget rfl trivial
  | checkRetry =>
    refine h.goto ?_
    dsimp only [Daemon.goto]
    split
    · next hsome => exact (hlinked.retry hsome).resolve_right nofun
    · next hsome => exact Option.not_isSome_iff_eq_none.1 hsome
  | readRetry =>
    refine h.goto ?_
    dsimp only [Daemon.goto]
    split
    · exact hat
    · trivial
  | lockRetry tries => exact h.goto (atPc_nextTry hat trivial fun _ => hat)
  | enable => exact h.enabled
  | clearRetry => exact h.forget rfl trivial
  | checkDisabled =>
    dsimp only
    split
    · exact h.goto trivial
    · exact h.goto hat
  | checkUp =>
    obtain rfl : retry = none := hlinked.file hat
    dsimp only
    split
    · exact live_nil (waits_begins rfl) (fun _ hwait => nomatch hwait) ⟨hat, rfl⟩
    · exact h.goto hat
  | noteUp => exact h.of_count rfl hat
  | resetCount =>
    obtain rfl : retry = none := hlinked.file hat.1
    exact live_nil (waits_of_head? hat.2 rfl) (fun _ hwait => nomatch hwait) trivial
  | timing =>
    dsimp only
    split
    · exact h.of_count rfl trivial
    · exact h.goto hat
  | autofix now known =>
    dsimp only
    split
    · exact h.goto (atPc_expire hat)
    · exact h.goto hat
  | lockAutofix now known type count tries =>
    dsimp only
    split
    · exact h.goto hat
    · split
      · exact h.goto (atPc_expire hat)
      · exact h.goto hat
  | applyEap now type count => exact h.goto hat
  | countAutofix now count => exact h.of_count rfl trivial
  | lockTimeout now known tries => exact h.goto (atPc_nextTry hat trivial fun _ => hat)
  | disable now known => exact h.goto hat
  | readCount now known => exact h.goto ⟨hat, rfl⟩
  | writeCount now known retries =>
    obtain rfl : retry = none := hlinked.file hat.1
    exact h.failed hat.1 hat.2
  | writeFail now known retries => exact h.of_count rfl hat
  | writeRetry now known retries =>
    obtain ⟨-, hcount, hspent, -⟩ := hat
    dsimp only
    split
    · exact ⟨(Nat.le_add_right _ _).trans h.spent, (fun _ hwait => nomatch hwait), h.paid, trivial⟩
    · split
      · exact h.forget rfl trivial
      · next hmax =>
        refine ⟨hspent.trans hcount.ge, fun wait hwait => ?_, h.paid, trivial⟩
        cases hwait
        exact ⟨hcount.trans_lt (Nat.lt_of_not_le hmax), congrArg backoff hcount.symm⟩

theorem Quiet.notes (h : Quiet s.world s.daemon) : s.notes e = [] := by
  unfold State.notes
  obtain hpc | hpc | ⟨hpc | hpc, -⟩ := h.pc
  all_goals rw [hpc]

theorem notes_within (h : Live max s.daemon.pc s.world.files s.retry s.log)
    (hwithin : Within max (waits s.log)) : Within max (waits (s.notes e ++ s.log)) := by
  unfold State.notes
  split
  · split
    · rw [List.singleton_append, waits_begins rfl]
      exact within_nil
    · exact hwithin
  · rw [List.singleton_append, waits_silent rfl rfl]
    exact hwithin
  · rw [List.singleton_append]
    cases hretry : s.retry with
    | none =>
      rw [waits_silent rfl rfl]
      exact hwithin
    | some retry =>
      obtain ⟨wait, known⟩ := retry
      cases known with
      | true =>
        rw [waits_silent rfl rfl]
        exact hwithin
      | false =>
        rw [waits_wait rfl rfl]
        rw [hretry] at h
        exact h.within rfl hwithin
  · exact hwithin

theorem enabled_none_not_mem_notes (h : Live max s.daemon.pc s.world.files s.retry s.log) :
    .enabled disconnected none ∉ s.notes e := by
  have hat := h.atPc
  unfold State.notes
  split
  · split
    all_goals simp
  · simp
  · next hpc =>
    rw [hpc] at hat
    intro hmem
    injection List.mem_singleton.1 hmem with _ hretry
    rw [← hretry] at hat
    cases hat
  · simp

def Pc.resets (pc : Pc) : Prop := pc = .noteUp ∨ pc = .resetCount

theorem step_full (h : .failed ∉ recent s.log → s.world.files.Full ∨ s.daemon.pc.resets)
    (hat : AtPc s.world.files s.retry s.log s.daemon.pc)
    (hnot : .failed ∉ recent (s.notes e ++ s.log)) :
    (s.daemon.step max e s.world).1.files.Full ∨ (s.daemon.step max e s.world).2.pc.resets := by
  obtain ⟨w, ⟨pc, station, since, nak⟩, acts, disconnected, retry, log⟩ := s
  have hfull : pc ≠ .noteUp → pc ≠ .resetCount → .failed ∉ recent log → w.files.Full :=
    fun hup hreset hnot => (h hnot).resolve_right fun hpc => hpc.elim hup hreset
  unfold Daemon.step
  cases pc with
  | checkUp =>
    obtain ⟨free, up, nak⟩ := e
    cases up with
    | true => exact .inr (.inl rfl)
    | false => exact .inl (hfull nofun nofun hnot)
  | noteUp => exact .inr (.inr rfl)
  | resetCount => exact .inl ⟨rfl, hat.1⟩
  | writeCount now known retries => exact absurd (mem_recent_of_head? rfl rfl) hnot
  | writeFail now known retries | writeRetry now known retries =>
    exact absurd (mem_recent_of_head? hat.2.2.2 rfl) hnot
  | noStation | clearRetry =>
    exact .inl ⟨(hfull nofun nofun hnot).1, rfl⟩
  | enable =>
    have hlog : recent (.enabled disconnected retry :: log) = .enabled disconnected retry :: recent log :=
      recent_cons rfl
    refine .inl (hfull nofun nofun fun hin => hnot ?_)
    exact hlog ▸ List.mem_cons_of_mem _ hin
  | top | checkDisabled | timing | autofix now known =>
    have hfull := hfull nofun nofun hnot
    dsimp only
    split
    all_goals exact .inl hfull
  | lockAutofix now known type count tries =>
    have hfull := hfull nofun nofun hnot
    dsimp only
    split
    · exact .inl hfull
    · split
      all_goals exact .inl hfull
  | _ => exact .inl (hfull nofun nofun hnot)

theorem Quiet.retryCount (h : Quiet s.world s.daemon) :
    (s.daemon.step max e s.world).1.files.retryCount = s.world.files.retryCount := by
  unfold Daemon.step
  obtain hpc | hpc | ⟨hpc | hpc, -⟩ := h.pc
  · rw [hpc]
    dsimp only
    split
    all_goals rfl
  · rw [hpc]
    rfl
  · rw [hpc]
  · rw [hpc]
    dsimp only
    split
    all_goals rfl

end

/-! ## Attempts of a network that is not known -/

/-- Whether the network is known, at the commands at which the daemon has looked. -/
def Pc.known : Pc → Bool
  | .autofix _ known | .lockAutofix _ known _ _ _ | .lockTimeout _ known _ | .disable _ known
  | .readCount _ known | .writeCount _ known _ | .writeFail _ known _ | .writeRetry _ known _ => known
  | _ => true

/-- The daemon deals with a network that is not known. -/
def Unknown (pc : Pc) (retry : Option (Nat × Bool)) : Prop :=
  pc.known = false ∨ ∃ wait, retry = some (wait, false)

section
variable {s : State} {max : Nat} {e : Reply}

theorem known_nextTry {again : Nat → Pc} (hbusy : busy.known = true)
    (h : (nextTry free tries held busy again).known = false) :
    held.known = false ∨ ∃ n, (again n).known = false := by
  unfold nextTry at h
  split_ifs at h
  · exact .inl h
  · rw [hbusy] at h
    cases h
  · exact .inr ⟨_, h⟩

theorem known_expire {d : Daemon} (h : (d.expire now known).pc.known = false) : known = false := by
  unfold Daemon.expire Daemon.goto at h
  dsimp only at h
  split at h
  · exact h
  · cases h

/-- What is not known was not known before the step, or it is looked up in the step. -/
theorem unknown_of_step (h : Unknown (s.runDaemon max e).daemon.pc (s.runDaemon max e).retry) :
    Unknown s.daemon.pc s.retry ∨
      s.daemon.pc = .timing ∧ isKnown s.world s.daemon.station = false := by
  obtain ⟨w, ⟨pc, station, since, nak⟩, acts, disconnected, retry, log⟩ := s
  unfold State.runDaemon State.nextRetry Daemon.step at h
  obtain h | ⟨wait, h⟩ := h
  · cases pc with
    | timing =>
      dsimp only at h
      split at h
      · cases h
      · exact .inr ⟨rfl, h⟩
    | autofix now known =>
      dsimp only at h
      split at h
      · exact .inl (.inl (known_expire h))
      · exact .inl (.inl h)
    | lockAutofix now known type count tries =>
      dsimp only at h
      split at h
      · cases h
      · split at h
        · exact .inl (.inl (known_expire h))
        · exact .inl (.inl h)
    | lockTimeout now known tries =>
      obtain h | ⟨n, h⟩ := known_nextTry rfl h
      · exact .inl (.inl h)
      · exact .inl (.inl h)
    | lockRetry tries =>
      obtain h | ⟨n, h⟩ := known_nextTry rfl h
      · cases h
      · cases h
    | disable now known | readCount now known | writeCount now known retries
      | writeFail now known retries => exact .inl (.inl h)
    | top | checkRetry | readRetry | checkDisabled | checkUp =>
      dsimp only [Daemon.goto, Daemon.reset] at h
      split at h
      all_goals cases h
    | _ => cases h
  · cases pc with
    | writeRetry now known retries =>
      cases known with
      | true => cases h
      | false => exact .inl (.inl rfl)
    | noStation | enable | clearRetry => cases h
    | _ => exact .inl (.inr ⟨wait, h⟩)

theorem attempts_notes (h : attempts s.log = waits s.log)
    (hup : ¬(s.daemon.pc = .checkUp ∧ e.up = true)) :
    attempts (s.notes e ++ s.log) = waits (s.notes e ++ s.log) := by
  unfold State.notes
  split
  · next hpc =>
    split
    · next hlink => exact absurd ⟨hpc, hlink⟩ hup
    · exact h
  · exact attempts_cons rfl h
  · exact attempts_cons rfl h
  · exact h

theorem attempts_within (hunknown : Unknown s.daemon.pc s.retry → attempts s.log = waits s.log)
    (hwithin : Within max (attempts s.log)) (hwaits : Within max (waits (s.notes e ++ s.log))) :
    Within max (attempts (s.notes e ++ s.log)) := by
  by_cases hretry : s.daemon.pc = .enable ∧ ∃ wait, s.retry = some (wait, false)
  · rw [attempts_notes (hunknown (.inr hretry.2)) fun hup => by cases hretry.1.symm.trans hup.1]
    exact hwaits
  · have hsame : attempts (s.notes e ++ s.log) = attempts s.log := by
      unfold State.notes
      split
      · split
        · exact attempts_silent rfl rfl
        · rfl
      · exact attempts_silent rfl rfl
      · next hpc =>
        refine attempts_silent rfl ?_
        match hr : s.retry with
        | none | some (wait, true) => rfl
        | some (wait, false) => exact absurd ⟨hpc, wait, hr⟩ hretry
      · rfl
    rw [hsame]
    exact hwithin

end

/-! ## The invariant -/

def Act.joins : Act → Bool
  | .enable | .apply _ _ => true
  | .clear | .disable | .setBand _ => false

structure Budget (max : Nat) (s : State) : Prop where
  within : Within max (waits s.log)
  attempts : Within max (attempts s.log)
  unknown : Unknown s.daemon.pc s.retry → Timeout.attempts s.log = waits s.log
  retry : ∀ disconnected, .enabled disconnected none ∉ s.log
  linked : Linked s.daemon.pc s.world.files s.retry
  live : s.disconnected = false → .disable ∉ s.acts →
    Live max s.daemon.pc s.world.files s.retry s.log
  cleared : .clear ∈ s.acts → .disable ∉ s.acts → waits s.log = []
  joins : ∀ a ∈ s.acts, a.joins = true → s.disconnected = false
  asleep : s.acts ≠ [] → s.daemon.pc = .top
  /-- A `disconnect` resets the count. -/
  aborted : s.disconnected = true ∨ s.acts = [.disable] → s.world.files.retryCount = none
  full : .failed ∉ recent s.log →
    (s.world.files.Full ∨ s.daemon.pc.resets) ∨ ∃ acts, s.acts = .clear :: acts

/-- The daemon and the calls take turns, `set_config` does not select a network after an attempt has
failed, unless the user has disconnected, and no call moves the station to another radio after a
`disconnect`. A network that was tried again before the link came up is away for less than the window
in which it is known. -/
def TakesTurns (s : State) : Event → Prop
  | .call c => s.daemon.pc = .top ∧ ∀ env args, c = .select env args →
      s.disconnected = true ∨ .failed ∉ recent s.log
  | .daemon _ => s.acts = [] ∧ (s.daemon.pc = .timing → attempts s.log ≠ waits s.log →
      isKnown s.world s.daemon.station = true)
  | .act => ∀ args, s.acts.head? = some (.setBand args) → s.disconnected = true →
      ¬Moves args s.world.config
  | .clock _ => True

theorem TakesTurns.sleeps (h : TakesTurns s e) : Sleeps s e := by
  cases e with
  | call c => exact fun _ _ => h.1
  | act => exact h
  | daemon e =>
    have hacts : s.acts = [] := h.1
    intro hmem
    rw [hacts] at hmem
    cases hmem
  | clock now => trivial

section
variable {s : State} {max : Nat}

theorem Budget.live_selected (h : Budget max s) (hinv : Inv s) (hacts : s.acts = [])
    (hpc : s.daemon.pc = .top) (hwaits : waits log = []) :
    Live max s.daemon.pc s.world.files s.retry log := by
  have hat : AtPc s.world.files s.retry log s.daemon.pc := by
    rw [hpc]
    trivial
  cases hd : s.disconnected with
  | true =>
    have hnone : s.retry = none := h.linked.file (hinv.quiet hd).retryAt
    rw [hnone] at hat ⊢
    exact live_nil hwaits (fun _ hwait => nomatch hwait) hat
  | false =>
    have hlive := h.live hd (by rw [hacts]; exact List.not_mem_nil)
    refine ⟨?_, hlive.due, fun wait hmem => ?_, hat⟩
    · rw [hwaits]
      exact (Nat.add_le_add_right (Nat.zero_le _) _).trans hlive.spent
    · rw [hwaits] at hmem
      cases hmem

theorem Budget.full_of_not_mem (h : Budget max s) (hacts : s.acts = []) (hpc : s.daemon.pc = .top)
    (hnot : .failed ∉ recent s.log) : s.world.files.Full := by
  obtain (hfull | hpc' | hpc') | ⟨acts, heq⟩ := h.full hnot
  · exact hfull
  · rw [hpc] at hpc'
    cases hpc'
  · rw [hpc] at hpc'
    cases hpc'
  · rw [hacts] at heq
    cases heq

theorem startCall_budget {c : Call} (h : Budget max s) (hinv : Inv s)
    (hturn : TakesTurns s (.call c)) : Budget max (s.startCall c) := by
  obtain ⟨hpc, hselect⟩ := hturn
  unfold State.startCall
  split
  · exact h
  · next hacts =>
    have hselected : waits (.selected :: s.log) = [] := waits_begins rfl
    have hunknown : Unknown s.daemon.pc s.retry →
        attempts (.selected :: s.log) = waits (.selected :: s.log) := fun _ => rfl
    have hretry : ∀ disconnected, Note.enabled disconnected none ∉ Note.selected :: s.log :=
      fun disconnected hmem =>
        h.retry disconnected ((List.mem_cons.1 hmem).resolve_left fun heq => by cases heq)
    have hbegin := h.live_selected hinv hacts hpc hselected
    have hfull := h.full_of_not_mem hacts hpc
    have haborted : ∀ acts : List Act, acts ≠ [.disable] →
        (s.disconnected && !c.selects) = true ∨ acts = [.disable] →
        s.world.files.retryCount = none := fun acts hne hd =>
      h.aborted (.inl (Bool.and_eq_true_iff.1 (hd.resolve_right hne)).1)
    cases c with
    | disconnect =>
      refine ⟨h.within, h.attempts, h.unknown, h.retry, h.linked, fun _ hmem => ?_, fun _ hmem => ?_, ?_, fun _ => hpc,
        haborted _ (fun heq => by cases heq), fun hnot => .inl (.inl (hfull hnot))⟩
      · exact absurd (List.mem_cons_of_mem _ List.mem_cons_self) hmem
      · exact absurd (List.mem_cons_of_mem _ List.mem_cons_self) hmem
      · simp [Call.acts, Act.joins]
    | connect =>
      exact ⟨within_nil, within_nil, hunknown, hretry, h.linked, fun _ _ => hbegin, fun _ _ => hselected,
        fun _ _ _ => Bool.and_false _, fun _ => hpc, haborted _ (fun heq => by cases heq),
        fun _ => .inr ⟨_, rfl⟩⟩
    | connectTo env args =>
      exact ⟨within_nil, within_nil, hunknown, hretry, h.linked, fun _ _ => hbegin, fun _ _ => hselected,
        fun _ _ _ => Bool.and_false _, fun _ => hpc, haborted _ (fun heq => by cases heq),
        fun _ => .inr ⟨_, rfl⟩⟩
    | select env args =>
      refine ⟨within_nil, within_nil, hunknown, hretry, h.linked, fun _ _ => hbegin, fun _ _ => hselected,
        fun _ _ _ => Bool.and_false _, fun _ => hpc, haborted _ (fun heq => by cases heq),
        fun _ => .inl (.inl ?_)⟩
      obtain hd | hnot := hselect env args rfl
      · exact ⟨h.aborted (.inl hd), (hinv.quiet hd).retryAt⟩
      · exact hfull hnot
    | setBand args =>
      refine ⟨h.within, h.attempts, h.unknown, h.retry, h.linked, fun hd _ => ?_, fun hmem => ?_, ?_, fun _ => hpc,
        haborted _ (fun heq => by cases heq), fun hnot => .inl (.inl (hfull hnot))⟩
      · refine h.live ?_ (by rw [hacts]; exact List.not_mem_nil)
        exact (Bool.and_true s.disconnected).symm.trans hd
      · simp [Call.acts] at hmem
      · simp [Call.acts, Act.joins]

theorem act_budget (h : Budget max s) (hinv : Inv s) : Budget max s.act := by
  unfold State.act
  split
  · exact h
  · next a acts hacts =>
    have hpc : s.daemon.pc = .top := h.asleep (by rw [hacts]; exact List.cons_ne_nil _ _)
    have hmem : ∀ b, b ∈ acts → b ∈ s.acts := fun b hb => hacts ▸ List.mem_cons_of_mem _ hb
    have hself : a ∈ s.acts := hacts ▸ List.mem_cons_self
    have hclear : a ≠ .clear → .disable ∉ acts := hinv.disable_not_mem hacts
    have hrest : a ≠ .clear → acts ≠ [.disable] := fun hne heq =>
      hclear hne (heq ▸ List.mem_cons_self)
    -- a call with another access than `disable` does not disable the station at all
    have hother : a ≠ .disable → .disable ∉ acts → .disable ∉ s.acts := fun hne hnot hin => by
      rw [hacts] at hin
      exact (List.mem_cons.1 hin).elim (fun heq => hne heq.symm) hnot
    have hfull : a ≠ .clear → .failed ∉ recent s.log → s.world.files.Full ∨ s.daemon.pc.resets := by
      intro hne hnot
      obtain hfull | ⟨rest, heq⟩ := h.full hnot
      · exact hfull
      · rw [hacts] at heq
        exact absurd (List.cons.inj heq).1 hne
    cases a with
    | clear =>
      refine ⟨h.within, h.attempts, ?_, h.retry, linked_none rfl, fun _ hnot => ?_, fun hin hnot => ?_,
        fun b hb => h.joins b (hmem b hb), fun _ => hpc, fun _ => rfl, fun _ => .inl (.inl ⟨rfl, rfl⟩)⟩
      · rintro (hknown | ⟨wait, ⟨⟩⟩)
        rw [hpc] at hknown
        cases hknown
      · have hwaits := h.cleared hself (hother nofun hnot)
        exact live_nil hwaits (fun _ hwait => nomatch hwait) (by rw [hpc]; trivial)
      · exact h.cleared hself (hother nofun hnot)
    | disable =>
      have hnil : acts = [] := by
        obtain ⟨-, heq | ⟨heq, -⟩⟩ := hinv.served hself
        · rw [hacts] at heq
          cases (List.cons.inj heq).1
        · rw [hacts] at heq
          exact (List.cons.inj heq).2
      subst hnil
      exact ⟨h.within, h.attempts, h.unknown, h.retry, h.linked, nofun, nofun,
        (fun b hb => nomatch hb), fun _ => hpc, fun _ => h.aborted (.inr hacts),
        fun hnot => .inl (hfull nofun hnot)⟩
    | enable | apply env args =>
      have hd := h.joins _ hself rfl
      exact ⟨h.within, h.attempts, h.unknown, h.retry, h.linked, fun _ hnot => h.live hd (hother nofun hnot),
        fun hin hnot => h.cleared (hmem _ hin) (hother nofun hnot),
        fun _ _ _ => rfl, fun _ => hpc,
        (fun hd => absurd (hd.resolve_left nofun) (hrest nofun)),
        fun hnot => .inl (hfull nofun hnot)⟩
    | setBand args =>
      exact ⟨h.within, h.attempts, h.unknown, h.retry, h.linked,
        fun hd hnot => h.live hd (hother nofun hnot),
        fun hin hnot => h.cleared (hmem _ hin) (hother nofun hnot),
        fun b hb => h.joins b (hmem b hb), fun _ => hpc,
        fun hd => h.aborted (.inl (hd.resolve_right (hrest nofun))),
        fun hnot => .inl (hfull nofun hnot)⟩

theorem Budget.atPc (h : Budget max s) (hinv : Inv s) (hacts : s.acts = []) :
    AtPc s.world.files s.retry s.log s.daemon.pc := by
  cases hd : s.disconnected with
  | true =>
    obtain hpc | hpc | ⟨hpc | hpc, -⟩ := (hinv.quiet hd).pc
    all_goals rw [hpc]
    · trivial
    · trivial
    · trivial
    · exact (hinv.quiet hd).retryAt
  | false => exact (h.live hd (by rw [hacts]; exact List.not_mem_nil)).atPc

theorem Budget.unknown_step (h : Budget max s) (hinv : Inv s) (hturn : TakesTurns s (.daemon e))
    (hunknown : Unknown (s.runDaemon max e).daemon.pc (s.runDaemon max e).retry) :
    Timeout.attempts (s.notes e ++ s.log) = waits (s.notes e ++ s.log) := by
  obtain ⟨hacts, hwindow⟩ := hturn
  have hsame : Timeout.attempts s.log = waits s.log := by
    obtain hbefore | ⟨hpc, hknown⟩ := unknown_of_step hunknown
    · exact h.unknown hbefore
    · by_contra hne
      rw [hwindow hpc hne] at hknown
      cases hknown
  refine attempts_notes hsame fun ⟨hpc, hup⟩ => ?_
  -- a link that is up is seen when no retry is due
  have hretry : s.retry = none := by
    have hat := h.atPc hinv hacts
    rw [hpc] at hat
    exact h.linked.file hat
  unfold State.runDaemon State.nextRetry Daemon.step at hunknown
  rw [hpc, hretry] at hunknown
  dsimp only at hunknown
  rw [hup] at hunknown
  obtain hknown | ⟨wait, hwait⟩ := hunknown
  · cases hknown
  · cases hwait

theorem runDaemon_budget (h : Budget max s) (hinv : Inv s)
    (hturn : TakesTurns s (.daemon e)) : Budget max (s.runDaemon max e) := by
  have hacts := hturn.1
  have hempty : ∀ a, a ∉ s.acts := fun a ha => by
    rw [hacts] at ha
    cases ha
  have hfull : .failed ∉ recent (s.notes e ++ s.log) →
      (s.runDaemon max e).world.files.Full ∨ (s.runDaemon max e).daemon.pc.resets := by
    refine step_full (fun hnot => (h.full hnot).resolve_right fun ⟨acts, heq⟩ => ?_)
      (h.atPc hinv hacts)
    cases hacts.symm.trans heq
  have hlog : Within max (waits (s.notes e ++ s.log)) ∧
      ∀ disconnected, .enabled disconnected none ∉ s.notes e ++ s.log := by
    cases hd : s.disconnected with
    | true =>
      rw [(hinv.quiet hd).notes]
      exact ⟨h.within, h.retry⟩
    | false =>
      have hlive := h.live hd (hempty _)
      refine ⟨notes_within hlive h.within, fun disconnected hmem => ?_⟩
      obtain hmem | hmem := List.mem_append.1 hmem
      · exact enabled_none_not_mem_notes hlive hmem
      · exact h.retry disconnected hmem
  refine ⟨hlog.1, attempts_within h.unknown h.attempts hlog.1, h.unknown_step hinv hturn, hlog.2,
    runDaemon_linked h.linked,
    fun hd hnot => runDaemon_live (h.live hd hnot) h.linked, fun hin => absurd hin (hempty _),
    fun a ha => absurd ha (hempty a), fun hne => absurd hacts hne, fun hd => ?_,
    fun hnot => .inl (hfull hnot)⟩
  obtain hd | hd := hd
  · exact (hinv.quiet hd).retryCount.trans (h.aborted (.inl hd))
  · cases hacts.symm.trans hd

theorem Budget.full_of_selected (h : Budget max s) (hinv : Inv s) (hacts : s.acts = [])
    (hhead : s.log.head? = some .selected) : s.world.files.Full := by
  have hat := h.atPc hinv hacts
  obtain ⟨log, hlog⟩ := List.head?_eq_some_iff.1 hhead
  have hnot : .failed ∉ recent s.log := by
    rw [hlog, recent_begins rfl]
    exact List.not_mem_nil
  obtain (hfull | hpc | hpc) | ⟨acts, heq⟩ := h.full hnot
  · exact hfull
  · rw [hpc] at hat
    cases hhead.symm.trans hat.2
  · rw [hpc] at hat
    cases hhead.symm.trans hat.2
  · cases hacts.symm.trans heq

theorem step_budget (h : Budget max s) (hinv : Inv s) (hturn : TakesTurns s e) :
    Budget max ((machine max).step s e) := by
  cases e with
  | call c => exact startCall_budget h hinv hturn
  | act => exact act_budget h hinv
  | daemon e => exact runDaemon_budget h hinv hturn
  | clock now =>
    exact ⟨h.within, h.attempts, h.unknown, h.retry, h.linked, h.live, h.cleared, h.joins, h.asleep, h.aborted, h.full⟩

end

structure State.Boot (s : State) : Prop extends State.Fresh s where
  pc : s.daemon.pc = .top
  files : s.world.files.Full
  retry : s.retry = none

theorem State.Boot.budget {max : Nat} {s : State} (h : s.Boot) : Budget max s := by
  have hnot : ∀ a, a ∉ s.acts := fun a ha => by
    rw [h.acts] at ha
    cases ha
  have hwaits : waits s.log = [] := by
    rw [h.log]
    rfl
  have hempty : ∀ n, n ∉ s.log := fun n hn => by
    rw [h.log] at hn
    cases hn
  have hattempts : attempts s.log = [] := by
    rw [h.log]
    rfl
  refine ⟨hwaits ▸ within_nil, hattempts ▸ within_nil, fun _ => hattempts.trans hwaits.symm,
    fun _ => hempty _, ?_, fun _ _ => ?_, fun hin => absurd hin (hnot _),
    fun a ha => absurd ha (hnot a), fun _ => h.pc, fun _ => h.files.1, fun _ => .inl (.inl h.files)⟩
  · rw [h.retry]
    exact linked_none h.files.2
  · rw [h.retry, h.pc]
    exact live_nil hwaits (fun _ hwait => nomatch hwait) trivial

/-- If the daemon and the calls take turns, `set_config` does not select a network after an attempt has
failed, and a network that has come up late is not away for long, a network that is not known is tried
again fewer times than the limit since the user has selected it. It is waited for longer each time, up
to the longest wait. The station is enabled only for a retry that is due, and a selection finds the
full budget. -/
theorem retry_budget {max : Nat} {s : State} {es : List Event} (hs : s.Boot)
    (hes : (machine max).Admits TakesTurns s es) :
    Within max (attempts ((machine max).run s es).log) ∧
      (∀ disconnected, .enabled disconnected none ∉ ((machine max).run s es).log) ∧
      (((machine max).run s es).log.head? = some .selected → ((machine max).run s es).acts = [] →
        ((machine max).run s es).world.files.Full) := by
  obtain ⟨hinv, hbudget⟩ : Inv ((machine max).run s es) ∧ Budget max ((machine max).run s es) :=
    Machine.invariant (I := fun s => Inv s ∧ Budget max s)
      (fun _ _ hturn h => ⟨step_inv h.1 hturn.sleeps, step_budget h.2 h.1 hturn⟩) hes
      ⟨hs.toFresh.inv, hs.budget⟩
  exact ⟨hbudget.attempts, hbudget.retry, fun hhead hacts => hbudget.full_of_selected hinv hacts hhead⟩

theorem admits_down {max n : Nat} {s : State} (hacts : s.acts = [])
    (hlog : attempts s.log = waits s.log) :
    (machine max).Admits TakesTurns s (List.replicate n (.daemon down)) := by
  induction n generalizing s with
  | zero => trivial
  | succ n ih =>
    have hnotes : attempts (s.notes down ++ s.log) = waits (s.notes down ++ s.log) :=
      attempts_notes hlog fun hup => by cases hup.2
    exact ⟨⟨hacts, fun _ hne => absurd hlog hne⟩, ih (s := s.runDaemon max down) hacts hnotes⟩

def booted : State :=
  { waiting with
    world :=
      { waiting.world with
        config := (enableUplink waiting.world.config).2
        files := ⟨none, false, none, none, none⟩ }
    retry := none }

def failing : List Event :=
  List.replicate 5 (.daemon down) ++ .clock 90 :: (List.replicate 12 (.daemon down) ++
    .clock 120 :: List.replicate 6 (.daemon down))

theorem failing_admits : (machine 6).Admits TakesTurns booted failing :=
  Machine.admits_append.2 ⟨admits_down rfl rfl, trivial,
    Machine.admits_append.2 ⟨admits_down rfl rfl, trivial, admits_down rfl (by decide)⟩⟩

/-- The user connects after that. -/
theorem retry_budget_connected :
    let s := (machine 6).run booted failing
    let t := (machine 6).run booted (failing ++ [.call .connect, .act, .act])
    attempts s.log = [30] ∧ s.world.files.retryCount = some 1 ∧ Within 6 (attempts t.log) ∧
      t.world.files.Full := by
  have hboot : booted.Boot := ⟨⟨rfl, rfl, rfl⟩, rfl, ⟨rfl, rfl⟩, rfl⟩
  have hadmits : (machine 6).Admits TakesTurns booted (failing ++ [.call .connect, .act, .act]) := by
    refine Machine.admits_append.2 ⟨failing_admits, ⟨by decide, fun _ _ heq => nomatch heq⟩, ?_, ?_,
      trivial⟩
    · exact fun _ heq => nomatch heq
    · exact fun _ heq => nomatch heq
  obtain ⟨hwithin, -, hfull⟩ := retry_budget hboot hadmits
  exact ⟨by decide, by decide, hwithin, hfull (by decide) rfl⟩

/-- As `booted`, with a network. -/
def travelling : State :=
  { booted with
    world :=
      { booted.world with
        config :=
          { booted.world.config with
            wireless := booted.world.config.wireless.set "sta0" "ssid" (.text "train") } } }

/-- The link comes up after a retry, and is lost for longer than the window. -/
def lost : List Event :=
  failing ++ (List.replicate 6 (.daemon { down with up := true }) ++ .clock 2000 ::
    (List.replicate 5 (.daemon down) ++ .clock 2060 :: (List.replicate 12 (.daemon down) ++
      .clock 2090 :: List.replicate 6 (.daemon down))))

/-- The user selects a network by its SSID: its count goes on where the other one was. And without a
call, a network that has come up late has the budget twice. -/
theorem budget_not_full :
    let args := .obj [("ssid", .str "hotel")]
    let t := (machine 6).run booted (failing ++ [.call (.select someEnv args), .act])
    booted.Boot ∧ t.log.head? = some .selected ∧ t.acts = [] ∧ ¬t.world.files.Full ∧
      travelling.Boot ∧ attempts ((machine 2).run travelling lost).log = [30, 30] ∧
      ¬Within 2 (attempts ((machine 2).run travelling lost).log) := by
  intro args t
  have hcount : t.world.files.retryCount = some 1 := by decide
  have hattempts : attempts ((machine 2).run travelling lost).log = [30, 30] := by
    decide +kernel
  refine ⟨⟨⟨rfl, rfl, rfl⟩, rfl, ⟨rfl, rfl⟩, rfl⟩, by decide, rfl, fun hfull => ?_,
    ⟨⟨rfl, rfl, rfl⟩, rfl, ⟨rfl, rfl⟩, rfl⟩, hattempts, fun hwithin => ?_⟩
  · rw [hfull.1] at hcount
    cases hcount
  · rw [hattempts] at hwithin
    exact absurd hwithin.few (by decide)

end GlXe3000.Repeater.Timeout
