import GlXe3000.Cellular.Radio.Report

/-! # The cached serving cell is read only

The coroutines of the daemon in any interleaving, each on the terms of its own. What a request
replies is decided by the snapshot that was cached when it took its copy and by what it is told
itself, so between two refreshes no request changes what another one reports
(`replies_of_snapshot`). -/

namespace GlXe3000.Cellular.Radio.Daemon
open Text Terms

variable {lua : Lua} {jobs : Nat → Job} {i : Nat}

/-! ## Runs -/

def start (lua : Lua) (jobs : Nat → Job) : Pool Nat Action Action.Answer Store Reply where
  store := {}
  threads i := (jobs i).task.program lua

def daemon (jobs : Nat → Job) : Machine (Pool Nat Action Action.Answer Store Reply) Nat :=
  Pool.machine (answer jobs)

/-- The next step of `i` is a refresh. -/
def refreshes (p : Pool Nat Action Action.Answer Store Reply) (i : Nat) : Bool :=
  match (p.threads i).next with
  | some (.setCellCache _ _) => true
  | _ => false

def Replies (lua : Lua) (jobs : Nat → Job) (i : Nat) (reply : Reply) (w : Store) : Prop :=
  ∀ m, (jobs i).task = .request m → Reported lua jobs i m reply w

theorem replies_stable (i : Nat) (reply : Reply) :
    (terms jobs).Stable i (Replies lua jobs i reply) := by
  intro w w' hrely hw m hm
  obtain ⟨v, hv, hreply⟩ := hw m hm
  exact ⟨v, hrely.2.trans hv, hreply⟩

theorem safe_start : (terms jobs).Safe (Replies lua jobs) (start lua jobs) := by
  have hinv : CacheShared (start lua jobs).store := fun r hr => nomatch hr
  refine ⟨hinv, fun i => ?_⟩
  show (terms jobs).Meets i ((jobs i).task.program lua) _ _
  cases htask : (jobs i).task with
  | request m =>
    refine (sat_request m).post (fun reply w hw m' hm' => ?_) _ hinv trivial
    cases htask.symm.trans hm'
    exact hw
  | sample =>
    refine (sat_signalSample htask).post (fun reply w _ m' hm' => ?_) _ hinv trivial
    cases htask.symm.trans hm'

theorem safe_step (hp : (terms jobs).Safe (Replies lua jobs) p) (i : Nat) :
    (terms jobs).Safe (Replies lua jobs) ((daemon jobs).step p i) := hp.step replies_stable i

theorem safe_run (is : List Nat) :
    (terms jobs).Safe (Replies lua jobs) ((daemon jobs).run (start lua jobs) is) :=
  safe_start.run replies_stable is

/-! ## Between two refreshes -/

section
variable {p : Pool Nat Action Action.Answer Store Reply}

theorem snapshot_keep {w w' : Store} (hw : CacheShared w) (hcell : w'.cellCache = w.cellCache)
    (hk : Heap.Keeps i w.tables w'.tables) : w'.snapshot = w.snapshot := by
  unfold Store.snapshot
  rw [hcell]
  cases hr : w.cellCache with
  | none => rfl
  | some r =>
    obtain ⟨q, hq⟩ := hw r hr
    exact congrArg some ((hq.keep hk).picture.trans hq.picture.symm)

theorem cellCache_step (hp : refreshes p i = false) :
    ((daemon jobs).step p i).store.cellCache = p.store.cellCache := by
  show ((p.threads i).advance (answer jobs i) p.store).2.cellCache = _
  unfold refreshes at hp
  revert hp
  cases p.threads i with
  | ret x => exact fun _ => rfl
  | act a k =>
    cases a with
    | setCellCache cell now => exact fun hp => nomatch hp
    | addSample s => exact fun _ => by unfold Proc.advance answer Store.addSample; rfl
    | ask q => exact fun _ => rfl
    | cellCache => exact fun _ => rfl
    | new kept t => exact fun _ => rfl
    | read r => exact fun _ => rfl
    | write r f => exact fun _ => rfl
    | signalHistory => exact fun _ => rfl

theorem snapshot_step (hp : (terms jobs).Safe (Replies lua jobs) p) (hr : refreshes p i = false) :
    ((daemon jobs).step p i).store.snapshot = p.store.snapshot :=
  snapshot_keep hp.inv (cellCache_step hr) ((hp.guar i).relies (i + 1) (Nat.succ_ne_self i)).1

theorem taken_look (w : Store) (i j : Nat) :
    (w.look j).taken i = w.taken i ∨
      j = i ∧ (w.look j).taken i = some ⟨w.snapshot, w.signalHistory⟩ := by
  by_cases hij : i = j
  · subst hij
    exact .inr ⟨rfl, Function.update_self _ _ _⟩
  · exact .inl (Function.update_of_ne hij _ _)

theorem taken_step (i j : Nat) :
    ((daemon jobs).step p j).store.taken i = p.store.taken i ∨
      j = i ∧ ((daemon jobs).step p j).store.taken i =
        some ⟨p.store.snapshot, p.store.signalHistory⟩ := by
  show ((p.threads j).advance (answer jobs j) p.store).2.taken i = _ ∨
    j = i ∧ ((p.threads j).advance (answer jobs j) p.store).2.taken i = _
  cases p.threads j with
  | ret x => exact .inl rfl
  | act a k =>
    cases a with
    | cellCache => exact taken_look p.store i j
    | signalHistory => exact taken_look p.store i j
    | addSample s => exact .inl (by unfold Proc.advance answer Store.addSample; rfl)
    | ask q => exact .inl rfl
    | setCellCache cell now => exact .inl rfl
    | new kept t => exact .inl rfl
    | read r => exact .inl rfl
    | write r f => exact .inl rfl

theorem taken_eq_none (hp : p.store.taken i = none) (hi : i ∉ is) :
    ((daemon jobs).run p is).store.taken i = none := by
  induction is generalizing p with
  | nil => exact hp
  | cons j is ih =>
    obtain ⟨hj, his⟩ := List.ne_and_not_mem_of_not_mem_cons hi
    refine ih ?_ his
    rcases taken_step (p := p) i j with h | ⟨hji, -⟩
    · exact h.trans hp
    · exact absurd hji.symm hj

/-- What a request has seen at the end it saw before, or it is the snapshot and the samples there
were at some point. -/
theorem taken_run (hp : (terms jobs).Safe (Replies lua jobs) p)
    (his : (daemon jobs).Admits (fun p i => refreshes p i = false) p is) :
    ((daemon jobs).run p is).store.taken i = p.store.taken i ∨
      ∃ looked, looked <+: is ∧ ((daemon jobs).run p is).store.taken i =
        some ⟨p.store.snapshot, ((daemon jobs).run p looked).store.signalHistory⟩ := by
  induction is generalizing p with
  | nil => exact .inl rfl
  | cons j is ih =>
    obtain ⟨hj, his⟩ := his
    rcases ih (safe_step hp j) his with h | ⟨looked, hprefix, h⟩
    · rcases taken_step (p := p) i j with h' | ⟨-, h'⟩
      · exact .inl (h.trans h')
      · exact .inr ⟨[], List.nil_prefix, h.trans h'⟩
    · refine .inr ⟨j :: looked, (List.prefix_cons_inj j).mpr hprefix, ?_⟩
      rw [snapshot_step hp hj] at h
      exact h

theorem history_run (hp : (terms jobs).Safe (Replies lua jobs) p)
    (his : ∀ j ∈ is, (jobs j).task ≠ .sample) :
    ((daemon jobs).run p is).store.signalHistory = p.store.signalHistory := by
  induction is generalizing p with
  | nil => rfl
  | cons j is ih =>
    obtain ⟨hj, his⟩ := List.forall_mem_cons.mp his
    exact (ih (safe_step hp j) his).trans ((hp.guar j).history hj)

end

inductive Served
  | cell (p : Picture)
  | signal (rsrp rsrq rssi sinr : Option Rat) (nr : Option Fields)
  | strength (bars : Nat)
  | place (tac cellId : Option Text)
  | nothing

def Reply.served : Reply → Served
  | .networksInfo r => .cell r.cellInfo
  | .networksStatus r => .signal r.rsrp r.rsrq r.rssi r.sinr r.nr
  | .simsStatus r => .strength r.strength
  | .simCardEntry r => .strength r.strength
  | .cellInfo r => .place r.tac r.cellId
  | .signalsHistory _ | .leds _ => .nothing

def served (snapshot : Option Picture) : Method → Served
  | .networksInfo => .cell ((snapshot.map presented).getD {})
  | .networksStatus =>
    let p := snapshot.getD {}
    let signal := p.nr.getD p.cell
    .signal signal.rsrp signal.rsrq signal.rssi signal.sinr p.nr
  | .simsStatus | .simCardEntry => .strength (strength (snapshot.getD {}))
  | .cellInfo => .place (snapshot.getD {}).cell.tac (enbLabel (snapshot.getD {}).cell.cellId)
  | .signalsHistory _ => .nothing

theorem served_report (lua : Lua) (o : Outside) (v : View) (m : Method) :
    (report lua o v m).served = served v.cell m := by
  cases m <;> rfl

/-- Between two refreshes of the cache, in any interleaving, with any coroutines under way, a
request replies the `report` of the snapshot that is cached, of what it is told itself and, for the
history, of the samples there are when it looks; and only the sampler adds to these. -/
theorem replies_of_snapshot (lua : Lua) (jobs : Nat → Job) (before is : List Nat) {i : Nat}
    {m : Method} {reply : Reply} (hm : (jobs i).task = .request m) (hi : i ∉ before)
    (his : (daemon jobs).Admits (fun p i => refreshes p i = false)
      ((daemon jobs).run (start lua jobs) before) is)
    (hreply : ((daemon jobs).run (start lua jobs) (before ++ is)).result i = some reply) :
    reply.served = served ((daemon jobs).run (start lua jobs) before).store.snapshot m ∧
      (∃ looked, looked <+: is ∧ reply = report lua (jobs i).outside
        ⟨((daemon jobs).run (start lua jobs) before).store.snapshot,
          ((daemon jobs).run (start lua jobs) (before ++ looked)).store.signalHistory⟩ m) ∧
      ∀ looked, looked <+: is → (∀ j ∈ looked, (jobs j).task ≠ .sample) →
        ((daemon jobs).run (start lua jobs) (before ++ looked)).store.signalHistory =
          ((daemon jobs).run (start lua jobs) before).store.signalHistory := by
  have hsafe : (terms jobs).Safe (Replies lua jobs) ((daemon jobs).run (start lua jobs) before) :=
    safe_run before
  obtain ⟨v, hv, hreported⟩ := (safe_run (before ++ is)).result hreply m hm
  have hnone : ((daemon jobs).run (start lua jobs) before).store.taken i = none :=
    taken_eq_none rfl hi
  rw [Machine.run_append] at hv
  obtain ⟨looked, hlooked, hview⟩ :=
    (taken_run hsafe his).resolve_left fun h => nomatch (h.trans hnone).symm.trans hv
  cases hview.symm.trans hv
  refine ⟨?_, ⟨looked, hlooked, ?_⟩, fun looked _ hlooked => ?_⟩
  · rw [hreported, served_report]
  · rw [hreported, Machine.run_append]
  · rw [Machine.run_append]
    exact history_run hsafe hlooked

/-- A coroutine that is told these replies to the two queries, and nothing else. -/
def told (servingcell qcainfo : Option Text) : Outside
  | .sendAt (.servingcell _) => servingcell
  | .sendAt .qcainfo => qcainfo
  | .sendAt _ | .config _ | .status _ => none
  | .time _ => (0 : Int)
  | .traffic => ([] : Text)

def integers : Lua where
  tonumber
    | '-' :: t => if isNumber t then some (-(toNumber t : Rat)) else none
    | t => if isNumber t then some (toNumber t : Rat) else none
  tostring _ := []

def anchored : Text :=
  ("+QENG: \"servingcell\",\"NOCONN\"\n+QENG: \"LTE\",\"FDD\",,,1A2B,,,7\n" ++
    "+QENG: \"NR5G-NSA\",,,21,-88,,,,78").toList

def nr78 : Fields :=
  { band := some "n78", cellId := some "21", rsrp := some (-88) }

def anchoredCell : Picture where
  cell :=
    { mode := some (anchorMode (some "FDD"))
      band := some ['7']
      cellId := some "1A2B" }
  nr := some nr78

/-- `networks_info` and `networks_status` behind a refresh of the sampler. -/
def polled : Nat → Job
  | 0 => ⟨.sample, told (some anchored) none⟩
  | 1 => ⟨.request .networksInfo, told none none⟩
  | _ => ⟨.request .networksStatus, told none none⟩

def refreshed : List Nat := List.replicate 5 0

/-- `networks_info` rewrites its copy while `networks_status` holds its own. -/
def rewriting : List Nat := List.replicate 5 2 ++ List.replicate 15 1 ++ List.replicate 7 2

theorem polled_snapshot :
    ((daemon polled).run (start integers polled) refreshed).store.snapshot = some anchoredCell := by
  decide

set_option maxRecDepth 20000 in
theorem polled_replies : (((daemon polled).run (start integers polled)
    (refreshed ++ rewriting)).result 2).isSome = true := by decide

set_option maxRecDepth 20000 in
theorem replies_of_snapshot_polled :
    ∃ reply, ((daemon polled).run (start integers polled) (refreshed ++ rewriting)).result 2 =
        some reply ∧
      reply.served = .signal (some (-88)) none none none (some nr78) := by
  obtain ⟨reply, hreply⟩ := Option.isSome_iff_exists.mp polled_replies
  have hserved := (replies_of_snapshot integers polled refreshed rewriting (i := 2) rfl (by decide)
    (by decide) hreply).1
  rw [polled_snapshot] at hserved
  exact ⟨reply, hreply, hserved⟩

def Reply.rows : Reply → List Row
  | .cellInfo r => r.signal
  | .signalsHistory r => r.signals.flatMap (·.signal)
  | _ => []

/-- Two carrier requests and two history requests behind a refresh of the sampler. -/
def listed : Nat → Job
  | 0 => ⟨.sample, told (some anchored) none⟩
  | 1 => ⟨.request .cellInfo,
      told none (some "+QCAINFO: \"PCC\",1300,50,\"LTE BAND 3\",1,98,-95")⟩
  | 2 => ⟨.request .cellInfo,
      told none (some "+QCAINFO: \"PCC\",1300,50,\"LTE BAND 3\",1,98,-101")⟩
  | _ => ⟨.request (.signalsHistory none), told none none⟩

/-- The sampler goes on to store its sample between the two history requests. -/
def sampling : List Nat :=
  List.replicate 8 1 ++ List.replicate 8 2 ++ [3, 3] ++ List.replicate 12 0 ++ [4, 4]

/-- The signal that is reported for the request `i`. -/
def listedRsrp (i : Nat) : Option (List (Option Rat)) :=
  (((daemon listed).run (start integers listed) (refreshed ++ sampling)).result i).map
    fun reply => reply.rows.map (·.rsrp)

set_option maxRecDepth 20000 in
/-- There is one snapshot, and each of these requests reports something else. -/
theorem carriers_and_samples_differ :
    (daemon listed).Admits (fun p i => refreshes p i = false)
        ((daemon listed).run (start integers listed) refreshed) sampling ∧
      listedRsrp 1 = some [some (-95)] ∧ listedRsrp 2 = some [some (-101)] ∧
      listedRsrp 3 = some [] ∧ listedRsrp 4 = some [none, some (-88)] := by
  refine ⟨by decide, by decide, by decide, by decide, by decide⟩

end GlXe3000.Cellular.Radio.Daemon
