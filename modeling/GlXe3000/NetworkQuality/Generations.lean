import GlXe3000.NetworkQuality.SpeedTest

/-! # The generations of the speed test

A start takes the next generation of the state, and a run is cancelled once the table has another one
than its own. As long as a start and a stop do not overlap, every run of a state has a generation of
its own, and as long as no reload drops a state with a run in it, only the state that is published
has a run that is not cancelled. -/

namespace GlXe3000.NetworkQuality

namespace State
variable (s : State)

def generation (n : Nat) : Nat := (s.worlds n).table.generation

def isLive (r : Run) : Bool := !r.stage.isEnded && !cancelled (s.worlds r.world) r.generation

def AtMostOneLive : Prop :=
  ∀ (i j : Nat) (r r' : Run), s.runs[i]? = some r → s.runs[j]? = some r' → s.isLive r = true →
    s.isLive r' = true → i = j

def acting : Event → Option Run
  | .resume i _ => s.runs[i]?
  | .proceed i reply =>
    match s.calls[i]? with
    | some (.starting n) => some (beginRun n (s.worlds n) reply).2
    | _ => none
  | _ => none

end State

def Call.isDisabling (n : Nat) : Call → Bool
  | .disabling m _ => m = n
  | _ => false

/-- No start is let through while a stop is at work, no stop comes while a start is at work, and no
reload switches the daemon off while a start is at work or a run of the current generation is in
flight. -/
def Orderly (s : State) : Event → Prop
  | .start | .enable =>
    s.published.state = .running ∨ ∀ c ∈ s.calls, c.isDisabling s.world = false
  | .disable => .starting s.world ∉ s.calls
  | .reload false => .starting s.world ∉ s.calls ∧
    ∀ r ∈ s.runs, r.world = s.world → r.generation = s.generation s.world → r.stage.isEnded = true
  | _ => True

instance (s : State) : DecidablePred (Orderly s)
  | .start | .enable => inferInstanceAs (Decidable (_ ∨ _))
  | .disable => inferInstanceAs (Decidable (¬_))
  | .reload false => inferInstanceAs (Decidable (_ ∧ _))
  | .reload true | .proceed _ _ | .resume _ _ => .isTrue trivial

/-! ## Steps of runs -/

section
variable {s : State} {n m : Nat} {w : World}

@[simp] theorem worlds_setWorld_self : (s.setWorld n w).worlds n = w := Function.update_self ..

theorem worlds_setWorld_of_ne (h : m ≠ n) : (s.setWorld n w).worlds m = s.worlds m :=
  Function.update_of_ne h ..

theorem generation_setWorld (h : w.table.generation = s.generation n) :
    (s.setWorld n w).generation m = s.generation m := by
  unfold State.generation
  by_cases hm : m = n
  · subst hm
    rw [worlds_setWorld_self]
    exact h
  · rw [worlds_setWorld_of_ne hm]

theorem published_setWorld_of_ne (h : n ≠ s.world) : (s.setWorld n w).published = s.published :=
  congrArg World.table (worlds_setWorld_of_ne h.symm)

theorem eq_world_of_published (h : (s.setWorld n w).published ≠ s.published) : n = s.world := by
  by_contra hn
  exact h (published_setWorld_of_ne hn)

theorem resume_eq {r : Run} (hr : s.runs[i]? = some r) :
    s.resume i reply =
      { s.setWorld r.world (advance (s.worlds r.world) r reply).1 with
        runs := s.runs.set i (advance (s.worlds r.world) r reply).2 } := by
  unfold State.resume
  rw [hr]

theorem proceed_starting (hn : s.calls[i]? = some (.starting n)) :
    s.proceed i reply =
      { s.setWorld n (beginRun n (s.worlds n) reply).1 with
        runs := s.runs ++ [(beginRun n (s.worlds n) reply).2]
        calls := s.calls.set i .over } := by
  unfold State.proceed
  rw [hn]

theorem cancelled_of_ne (h : w.table.generation ≠ g) : cancelled w g = true := by
  unfold cancelled
  rw [Bool.or_eq_true, decide_eq_true_iff]
  exact .inr h

theorem resume_current {r : Run} (hr : s.runs[i]? = some r)
    (h : (s.resume i reply).published ≠ s.published) :
    r.world = s.world ∧ r.generation = s.published.generation := by
  rw [resume_eq hr] at h
  have hworld : r.world = s.world := eq_world_of_published h
  refine ⟨hworld, ?_⟩
  by_contra hgen
  have hcancelled : cancelled (s.worlds r.world) r.generation = true :=
    cancelled_of_ne (hworld ▸ Ne.symm hgen)
  refine h (congrArg World.table ?_)
  dsimp only [State.setWorld]
  rw [(advance_advances _ r reply).of_cancelled hcancelled, Function.update_eq_self]

theorem begin_current (hn : s.calls[i]? = some (.starting n))
    (h : (s.proceed i reply).published ≠ s.published) : n = s.world := by
  rw [proceed_starting hn] at h
  exact eq_world_of_published h

theorem acting_current {r : Run} (hr : s.acting e = some r)
    (h : (s.step e).published ≠ s.published) :
    r.world = s.world ∧ r.generation = s.published.generation := by
  cases e with
  | resume i reply => exact resume_current hr h
  | proceed i reply =>
    unfold State.acting at hr
    dsimp only at hr
    split at hr
    · rename_i n hn
      obtain rfl := Option.some.inj hr
      have hworld : n = s.world := begin_current hn h
      subst hworld
      have hbegin := beginRun_begins s.world (s.worlds s.world) reply
      exact ⟨hbegin.world, hbegin.generation⟩
    · cases hr
  | start => cases hr
  | enable => cases hr
  | disable => cases hr
  | reload enabled => cases hr

end

/-! ## The invariant -/

def Run.key (r : Run) : Nat × Nat := (r.world, r.generation)

structure Inv (s : State) : Prop where
  run_world : ∀ r ∈ s.runs, r.world ≤ s.world
  run_le : ∀ r ∈ s.runs, r.generation ≤ s.generation r.world
  distinct : (s.runs.map Run.key).Nodup
  current : ∀ r ∈ s.runs, r.stage.isEnded = false → r.generation = s.generation r.world →
    r.world = s.world
  starting : ∀ n, .starting n ∈ s.calls → n = s.world ∧ (s.worlds n).table.state = .running ∧
    ∀ r ∈ s.runs, r.world = n → r.generation < s.generation n
  starting_unique : ∀ (i j n m : Nat), s.calls[i]? = some (.starting n) →
    s.calls[j]? = some (.starting m) → i = j
  disabling : ∀ n g, .disabling n g ∈ s.calls → n ≤ s.world ∧
    ∀ r ∈ s.runs, r.world = n → r.generation < g
  apart : ∀ n g, .starting n ∈ s.calls → .disabling n g ∉ s.calls

theorem init_inv : Inv init where
  run_world := fun _ h => nomatch h
  run_le := fun _ h => nomatch h
  distinct := .nil
  current := fun _ h => nomatch h
  starting := fun _ h => nomatch h
  starting_unique := fun _ _ _ _ h => nomatch h
  disabling := fun _ _ h => nomatch h
  apart := fun _ _ h => nomatch h

section
variable {s : State}

theorem Inv.atMostOneLive (h : Inv s) : s.AtMostOneLive := by
  intro i j r r' hi hj hr hr'
  have hlive {r : Run} (hmem : r ∈ s.runs) (hr : s.isLive r = true) :
      r.key = (s.world, s.generation s.world) := by
    unfold State.isLive cancelled at hr
    obtain ⟨hended, hgen⟩ : r.stage.isEnded = false ∧ s.generation r.world = r.generation := by
      simp only [Bool.and_eq_true, Bool.not_eq_true', Bool.or_eq_false_iff,
        decide_eq_false_iff_not, not_not] at hr
      exact ⟨hr.1, hr.2.2⟩
    have hworld : r.world = s.world := h.current r hmem hended hgen.symm
    unfold Run.key
    rw [← hworld, hgen]
  have hkey : (s.runs.map Run.key)[i]? = (s.runs.map Run.key)[j]? := by
    rw [List.getElem?_map, List.getElem?_map, hi, hj, Option.map_some, Option.map_some,
      hlive (List.mem_of_getElem? hi) hr, hlive (List.mem_of_getElem? hj) hr']
  have hlt : i < (s.runs.map Run.key).length := by
    rw [List.length_map]
    exact (List.getElem?_eq_some_iff.1 hi).1
  exact (List.getElem?_inj hlt h.distinct).1 hkey

theorem Inv.of_same {s' : State} (h : Inv s) (hworld : s'.world = s.world)
    (hcalls : s'.calls = s.calls) (hgen : ∀ n, s'.generation n = s.generation n)
    (hkeys : s'.runs.map Run.key = s.runs.map Run.key)
    (hruns : ∀ r' ∈ s'.runs, ∃ r ∈ s.runs, r'.world = r.world ∧ r'.generation = r.generation ∧
      (r.stage.isEnded = true → r'.stage.isEnded = true))
    (hstate : .starting s.world ∈ s.calls →
      (s'.worlds s.world).table.state = (s.worlds s.world).table.state) : Inv s' where
  run_world r' hr' := by
    obtain ⟨r, hr, hw, -, -⟩ := hruns r' hr'
    rw [hw, hworld]
    exact h.run_world r hr
  run_le r' hr' := by
    obtain ⟨r, hr, hw, hg, -⟩ := hruns r' hr'
    rw [hw, hg, hgen]
    exact h.run_le r hr
  distinct := hkeys ▸ h.distinct
  current r' hr' hended hcur := by
    obtain ⟨r, hr, hw, hg, hend⟩ := hruns r' hr'
    rw [hw, hg, hgen] at hcur
    rw [hw, hworld]
    refine h.current r hr ?_ hcur
    cases hr' : r.stage.isEnded with
    | true => exact (hend hr').symm.trans hended
    | false => rfl
  starting n hn := by
    rw [hcalls] at hn
    obtain ⟨rfl, hrunning, hlt⟩ := h.starting n hn
    refine ⟨hworld.symm, (hstate hn).trans hrunning, fun r' hr' hw' => ?_⟩
    obtain ⟨r, hr, hw, hg, -⟩ := hruns r' hr'
    rw [hg, hgen]
    exact hlt r hr (hw.symm.trans hw')
  starting_unique := hcalls ▸ h.starting_unique
  disabling n g hn := by
    rw [hcalls] at hn
    obtain ⟨hle, hlt⟩ := h.disabling n g hn
    refine ⟨hworld ▸ hle, fun r' hr' hw' => ?_⟩
    obtain ⟨r, hr, hw, hg, -⟩ := hruns r' hr'
    rw [hg]
    exact hlt r hr (hw.symm.trans hw')
  apart := hcalls ▸ h.apart

theorem map_key_set {rs : List Run} {r r' : Run} (hi : rs[i]? = some r)
    (hr : r'.key = r.key) : (rs.set i r').map Run.key = rs.map Run.key := by
  obtain ⟨hlt, rfl⟩ := List.getElem?_eq_some_iff.1 hi
  have hlt' : i < (rs.map Run.key).length := (List.length_map Run.key).symm ▸ hlt
  rw [List.map_set, hr, ← List.getElem_map Run.key (h := hlt'), List.set_getElem_self]

theorem Inv.resume (h : Inv s) : Inv (s.resume i reply) := by
  cases hi : s.runs[i]? with
  | none =>
    unfold State.resume
    rw [hi]
    exact h
  | some r =>
    rw [resume_eq hi]
    have hr : r ∈ s.runs := List.mem_of_getElem? hi
    have hadv := advance_advances (s.worlds r.world) r reply
    refine h.of_same rfl rfl (fun n => generation_setWorld hadv.table) ?_ ?_ ?_
    · exact map_key_set hi (Prod.ext hadv.world hadv.generation)
    · intro r' hr'
      obtain hr' | rfl := List.mem_or_eq_of_mem_set hr'
      · exact ⟨r', hr', rfl, rfl, fun h => h⟩
      · exact ⟨r, hr, hadv.world, hadv.generation, hadv.isEnded⟩
    · intro hstart
      obtain ⟨-, -, hlt⟩ := h.starting _ hstart
      by_cases hw : r.world = s.world
      · -- the start has taken a generation that no run has
        have hcancelled : cancelled (s.worlds r.world) r.generation = true :=
          cancelled_of_ne (hw ▸ (hlt r hr hw).ne')
        dsimp only [State.setWorld]
        rw [hadv.of_cancelled hcancelled, Function.update_eq_self]
      · exact congrArg (fun w : World => w.table.state) (worlds_setWorld_of_ne (Ne.symm hw))

theorem mem_of_mem_set_over {cs : List Call} (h : c ∈ cs.set i .over)
    (hc : c ≠ .over) : c ∈ cs := (List.mem_or_eq_of_mem_set h).resolve_right hc

theorem getElem?_of_set_over {cs : List Call}
    (h : (cs.set i .over)[j]? = some c) (hc : c ≠ .over) : i ≠ j ∧ cs[j]? = some c := by
  by_cases hij : i = j
  · subst hij
    obtain ⟨hlt, hget⟩ := List.getElem?_eq_some_iff.1 h
    rw [List.getElem_set_self] at hget
    exact absurd hget.symm hc
  · rw [List.getElem?_set_ne hij] at h
    exact ⟨hij, h⟩

theorem Inv.proceed_starting (h : Inv s)
    (hn : s.calls[i]? = some (.starting n)) : Inv (s.proceed i reply) := by
  rw [NetworkQuality.proceed_starting hn]
  have hmem : Call.starting n ∈ s.calls := List.mem_of_getElem? hn
  obtain ⟨rfl, -, hlt⟩ := h.starting n hmem
  have hbegin := beginRun_begins s.world (s.worlds s.world) reply
  have hgen (m : Nat) : (s.setWorld s.world (beginRun s.world (s.worlds s.world) reply).1).generation
      m = s.generation m := generation_setWorld hbegin.table
  have hnone (m : Nat) : Call.starting m ∉ s.calls.set i .over := by
    intro hm
    obtain ⟨j, hj⟩ := List.mem_iff_getElem?.1 hm
    obtain ⟨hij, hj⟩ := getElem?_of_set_over hj (by simp)
    exact hij (h.starting_unique i j _ _ hn hj)
  generalize beginRun s.world (s.worlds s.world) reply = b at hbegin hgen ⊢
  have hcases {P : Run → Prop} (hold : ∀ r ∈ s.runs, P r) (hnew : P b.2) :
      ∀ r ∈ s.runs ++ [b.2], P r := by
    intro r hr
    obtain hr | hr := List.mem_append.1 hr
    · exact hold r hr
    · exact List.mem_singleton.1 hr ▸ hnew
  refine ⟨?_, ?_, ?_, ?_, ?_, ?_, ?_, ?_⟩
  · exact hcases h.run_world (Nat.le_of_eq hbegin.world)
  · refine hcases (fun r hr => (hgen _).symm ▸ h.run_le r hr) ?_
    rw [hbegin.generation, hbegin.world]
    exact Nat.le_of_eq (hgen _).symm
  · dsimp only
    rw [List.map_append, List.map_singleton]
    refine List.nodup_append.2 ⟨h.distinct, List.nodup_singleton _, fun k hk k' hk' => ?_⟩
    obtain ⟨r, hr, rfl⟩ := List.mem_map.1 hk
    obtain rfl := List.mem_singleton.1 hk'
    intro heq
    obtain ⟨hw, hg⟩ := Prod.ext_iff.1 heq
    have := hlt r hr (hw.trans hbegin.world)
    exact absurd (hg.trans hbegin.generation) (Nat.ne_of_lt this)
  · refine hcases (fun r hr hend hcur => h.current r hr hend (hcur.trans (hgen _))) ?_
    exact fun _ _ => hbegin.world
  · exact fun m hm => absurd hm (hnone m)
  · exact fun j _ m _ hj => absurd (List.mem_of_getElem? hj) (hnone m)
  · intro m g hm
    have hm := mem_of_mem_set_over hm (by simp)
    obtain ⟨hle, hlt'⟩ := h.disabling m g hm
    refine ⟨hle, hcases hlt' fun hw => ?_⟩
    exact absurd ((hbegin.world.symm.trans hw) ▸ hm) (h.apart s.world g hmem)
  · exact fun m g hm => absurd hm (hnone m)

theorem Inv.renew (h : Inv s) (s' : State) (n : Nat) (hworld : s.world ≤ s'.world)
    (hruns : s'.runs = s.runs) (hother : ∀ m, m ≠ n → s'.worlds m = s.worlds m)
    (hlt : ∀ r ∈ s.runs, r.world = n → r.generation < s'.generation n) :
    (∀ r ∈ s'.runs, r.world ≤ s'.world) ∧
    (∀ r ∈ s'.runs, r.generation ≤ s'.generation r.world) ∧ (s'.runs.map Run.key).Nodup ∧
    ∀ r ∈ s'.runs, r.stage.isEnded = false → r.generation = s'.generation r.world →
      r.world = s.world := by
  rw [hruns]
  have hgen {m : Nat} (hm : m ≠ n) : s'.generation m = s.generation m :=
    congrArg (fun w : World => w.table.generation) (hother m hm)
  refine ⟨fun r hr => Nat.le_trans (h.run_world r hr) hworld, fun r hr => ?_, h.distinct,
    fun r hr hend hcur => ?_⟩
  · by_cases hw : r.world = n
    · rw [hw]
      exact Nat.le_of_lt (hlt r hr hw)
    · rw [hgen hw]
      exact h.run_le r hr
  · by_cases hw : r.world = n
    · rw [hw] at hcur
      exact absurd hcur (Nat.ne_of_lt (hlt r hr hw))
    · exact h.current r hr hend (hcur.trans (hgen hw))

theorem Inv.proceed_disabling (h : Inv s)
    (hn : s.calls[i]? = some (.disabling n g)) : Inv (s.proceed i reply) := by
  have heq : s.proceed i reply =
      { s.setWorld n ((s.worlds n).replace { generation := g }) with
        calls := s.calls.set i .over } := by
    unfold State.proceed
    rw [hn]
  rw [heq]
  have hmem : Call.disabling n g ∈ s.calls := List.mem_of_getElem? hn
  obtain ⟨-, hlt⟩ := h.disabling n g hmem
  have hself : (s.setWorld n ((s.worlds n).replace { generation := g })).generation n = g :=
    congrArg (fun w : World => w.table.generation) worlds_setWorld_self
  have hstarting {m : Nat} (hm : Call.starting m ∈ s.calls.set i .over) :
      Call.starting m ∈ s.calls ∧ m ≠ n := by
    have hm := mem_of_mem_set_over hm (by simp)
    exact ⟨hm, fun hmn => h.apart m g hm (hmn ▸ hmem)⟩
  obtain ⟨hworld, hle, hdistinct, hcur⟩ := h.renew
    { s.setWorld n ((s.worlds n).replace { generation := g }) with
      calls := s.calls.set i .over } n (Nat.le_refl _) rfl
    (fun m hm => worlds_setWorld_of_ne hm) fun r hr hw => (hlt r hr hw).trans_eq hself.symm
  refine ⟨hworld, hle, hdistinct, hcur, fun m hm => ?_, fun j k m m' hj hk => ?_,
    fun m g' hm => h.disabling m g' (mem_of_mem_set_over hm (by simp)), fun m g' hm hm' => ?_⟩
  · obtain ⟨hm, hmn⟩ := hstarting hm
    have hsame : (s.setWorld n ((s.worlds n).replace { generation := g })).worlds m = s.worlds m :=
      worlds_setWorld_of_ne hmn
    obtain ⟨hmw, hrunning, hlt'⟩ := h.starting m hm
    refine ⟨hmw, ?_, fun r hr hw => ?_⟩
    · dsimp only
      rw [hsame]
      exact hrunning
    · unfold State.generation
      dsimp only
      rw [hsame]
      exact hlt' r hr hw
  · exact h.starting_unique j k m m' (getElem?_of_set_over hj (by simp)).2
      (getElem?_of_set_over hk (by simp)).2
  · exact h.apart m g' (hstarting hm).1 (mem_of_mem_set_over hm' (by simp))

theorem Inv.lt_succ (h : Inv s) {r : Run} (hr : r ∈ s.runs) (hw : r.world = s.world) :
    r.generation < s.published.generation + 1 := by
  have hle := h.run_le r hr
  rw [hw] at hle
  exact Nat.lt_succ_of_le hle

theorem Inv.letThrough (h : Inv s) (hstate : s.published.state ≠ .running)
    (hcalls : ∀ c ∈ s.calls, c.isDisabling s.world = false) : Inv s.letThrough := by
  have hnone (m : Nat) : Call.starting m ∉ s.calls := by
    intro hm
    obtain ⟨rfl, hrunning, -⟩ := h.starting m hm
    exact hstate hrunning
  have hself : s.letThrough.worlds s.world = (s.worlds s.world).replace s.published.started :=
    worlds_setWorld_self
  have hgen : s.letThrough.generation s.world = s.published.generation + 1 :=
    congrArg (fun w : World => w.table.generation) hself
  obtain ⟨hworld, hle, hdistinct, hcur⟩ := h.renew s.letThrough s.world
    (Nat.le_refl _) rfl (fun m hm => worlds_setWorld_of_ne hm)
    fun r hr hw => (h.lt_succ hr hw).trans_eq hgen.symm
  -- the new start is the only one at work
  have hstarting {m : Nat} (hm : Call.starting m ∈ s.letThrough.calls) : m = s.world := by
    obtain hm | hm := List.mem_append.1 hm
    · exact absurd hm (hnone m)
    · exact Call.starting.inj (List.mem_singleton.1 hm)
  have hindex {j m : Nat} (hj : s.letThrough.calls[j]? = some (.starting m)) :
      j = s.calls.length := by
    by_contra hne
    have hlt : j < s.calls.length := by
      have := (List.getElem?_eq_some_iff.1 hj).1
      simp only [State.letThrough, List.length_append, List.length_singleton] at this
      omega
    have hj' : s.calls[j]? = some (.starting m) := (List.getElem?_append_left hlt).symm.trans hj
    exact hnone m (List.mem_of_getElem? hj')
  have hdisabling {m g : Nat} (hm : Call.disabling m g ∈ s.letThrough.calls) :
      Call.disabling m g ∈ s.calls :=
    (List.mem_append.1 hm).resolve_right (by simp)
  refine ⟨hworld, hle, hdistinct, hcur, fun m hm => ?_, fun j k m m' hj hk => ?_,
    fun m g hm => h.disabling m g (hdisabling hm), fun m g hm hm' => ?_⟩
  · obtain rfl := hstarting hm
    refine ⟨rfl, ?_, fun r hr hw => (h.lt_succ hr hw).trans_eq hgen.symm⟩
    rw [hself]
    rfl
  · exact (hindex hj).trans (hindex hk).symm
  · obtain rfl := hstarting hm
    have hfalse : decide (s.world = s.world) = false := hcalls _ (hdisabling hm')
    exact absurd rfl (of_decide_eq_false hfalse)

theorem Inv.disable (h : Inv s) (hcalls : .starting s.world ∉ s.calls) : Inv s.disable := by
  have hgen : s.disable.generation s.world = s.published.generation + 1 :=
    congrArg (fun w : World => w.table.generation) worlds_setWorld_self
  obtain ⟨hworld, hle, hdistinct, hcur⟩ := h.renew s.disable s.world
    (Nat.le_refl _) rfl (fun m hm => worlds_setWorld_of_ne hm)
    fun r hr hw => (h.lt_succ hr hw).trans_eq hgen.symm
  have hnone (m : Nat) : Call.starting m ∉ s.disable.calls := by
    intro hm
    have hm : Call.starting m ∈ s.calls := (List.mem_append.1 hm).resolve_right (by simp)
    obtain ⟨rfl, -, -⟩ := h.starting m hm
    exact hcalls hm
  refine ⟨hworld, hle, hdistinct, hcur, fun m hm => absurd hm (hnone m),
    fun j _ m _ hj => absurd (List.mem_of_getElem? hj) (hnone m), fun m g hm => ?_,
    fun m g hm => absurd hm (hnone m)⟩
  obtain hm | hm := List.mem_append.1 hm
  · exact h.disabling m g hm
  · obtain ⟨rfl, rfl⟩ := Call.disabling.inj (List.mem_singleton.1 hm)
    exact ⟨Nat.le_refl _, fun r hr hw => h.lt_succ hr hw⟩

theorem Inv.reload (h : Inv s) (hguard : Orderly s (.reload enabled)) : Inv (s.reload enabled) := by
  cases enabled with
  | true => exact h
  | false =>
    obtain ⟨hcalls, hruns⟩ := hguard
    obtain ⟨hworld, hle, hdistinct, hcur⟩ := h.renew (s.reload false) (s.world + 1)
      (Nat.le_succ _) rfl (fun m hm => worlds_setWorld_of_ne hm)
      fun r hr hw => absurd (h.run_world r hr) (by omega)
    have hnone (m : Nat) : Call.starting m ∉ s.calls := by
      intro hm
      obtain ⟨rfl, -, -⟩ := h.starting m hm
      exact hcalls hm
    refine ⟨hworld, hle, hdistinct, fun r hr hend hgen => ?_, fun m hm => absurd hm (hnone m),
      h.starting_unique, fun m g hm => ?_, h.apart⟩
    · -- the state that is dropped has no such run
      have hw : r.world = s.world := hcur r hr hend hgen
      have hgen' : r.generation = s.generation s.world := by
        rw [hgen, hw]
        exact congrArg (fun w : World => w.table.generation)
          (worlds_setWorld_of_ne (Nat.ne_of_lt (Nat.lt_succ_self _)))
      rw [hruns r hr hw hgen'] at hend
      cases hend
    · obtain ⟨hm', hlt⟩ := h.disabling m g hm
      exact ⟨Nat.le_succ_of_le hm', hlt⟩

theorem Inv.flags (h : Inv s) :
    Inv (s.setWorld s.world ((s.worlds s.world).modify Table.enable)) := by
  refine h.of_same rfl rfl (fun n => generation_setWorld rfl) rfl
    (fun r hr => ⟨r, hr, rfl, rfl, fun h => h⟩) fun _ => ?_
  rw [worlds_setWorld_self]
  rfl

theorem Inv.start (h : Inv s) (hguard : Orderly s .start) : Inv s.start := by
  unfold State.start
  split
  · exact h
  · split
    · exact h
    · rename_i hstate
      exact h.letThrough hstate (hguard.resolve_left hstate)

theorem step_inv (h : Inv s) (he : Orderly s e) : Inv (s.step e) := by
  cases e with
  | start => exact h.start he
  | enable =>
    refine h.flags.start ?_
    have hself : (s.setWorld s.world ((s.worlds s.world).modify Table.enable)).worlds s.world =
        (s.worlds s.world).modify Table.enable := worlds_setWorld_self
    exact he.imp_left (congrArg (fun w : World => w.table.state) hself).trans
  | disable => exact h.disable he
  | reload enabled => exact h.reload he
  | proceed i reply =>
    have hself (hi : s.calls[i]? = none ∨ s.calls[i]? = some .over) :
        Inv (s.proceed i reply) := by
      unfold State.proceed
      obtain hi | hi := hi
      all_goals
        rw [hi]
        exact h
    cases hi : s.calls[i]? with
    | none => exact hself (.inl hi)
    | some c =>
      cases c with
      | starting n => exact h.proceed_starting hi
      | disabling n g => exact h.proceed_disabling hi
      | «over» => exact hself (.inr hi)
  | resume i reply => exact h.resume

end

/-- In a run that is orderly, a run changes what is published only while it has the current
generation, and at most one run that is not cancelled is in flight. -/
theorem one_generation {es : List Event} (hes : machine.Admits Orderly init es) :
    (∀ e r, (machine.run init es).acting e = some r →
      ((machine.run init es).step e).published ≠ (machine.run init es).published →
      r.world = (machine.run init es).world ∧
        r.generation = (machine.run init es).published.generation) ∧
    (machine.run init es).AtMostOneLive := by
  have hrun : Inv (machine.run init es) :=
    Machine.invariant (I := Inv) (fun _ _ hguard h => step_inv h hguard) hes init_inv
  exact ⟨fun _ _ hr h => acting_current hr h, hrun.atMostOneLive⟩

def slow : Reply where
  hasCurl := true
  pingSpawns := true
  ping := some 20
  sampleSpawns := true
  value := some 4000000
  loaded := some 35

/-- A run is stopped and the next one is started while the first is still waiting for its ping: it
does not come back. -/
theorem one_generation_restarted :
    let s := machine.run init
      [.enable, .proceed 0 slow, .disable, .proceed 1 slow, .enable, .proceed 2 slow]
    s.runs.map s.isLive = [false, true] ∧ s.AtMostOneLive ∧
      (s.resume 0 slow).published = s.published := by
  have hes : machine.Admits Orderly init
      [.enable, .proceed 0 slow, .disable, .proceed 1 slow, .enable, .proceed 2 slow] := by
    decide
  obtain ⟨hacting, hlive⟩ := one_generation hes
  refine ⟨by decide, hlive, ?_⟩
  by_contra hchanged
  obtain ⟨-, hgen⟩ := hacting (.resume 0 slow) _ rfl hchanged
  revert hgen
  decide

/-- A reload drops a state with a run in it, and two runs are in flight. A start comes while a stop is
at work, and its generation is given out again. A stop comes while a start is at work, and the run
of that start takes the generation of the next. -/
theorem two_live :
    (let s := machine.run init
      [.enable, .proceed 0 slow, .reload false, .enable, .proceed 1 slow]
    s.runs.map s.isLive = [true, true]) ∧
    (let s := machine.run init
      [.disable, .enable, .proceed 1 slow, .proceed 0 slow, .enable, .proceed 2 slow]
    s.runs.map s.isLive = [true, true]) ∧
    (let s := machine.run init
      [.enable, .disable, .proceed 1 slow, .enable, .proceed 0 slow, .proceed 2 slow]
    s.runs.map s.isLive = [true, true]) := by
  decide

end GlXe3000.NetworkQuality
