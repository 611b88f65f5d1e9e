import GlXe3000.Lib.Machine

/-! # The speed test: `network_quality_speedtest.lua`

A run is a coroutine. It waits for its commands and whenever it publishes a snapshot, and it looks
whether it has been cancelled each time it goes on. The calls that start and stop a run are
coroutines, too: a start waits while it publishes, and a stop while it kills the commands.

Calls and runs hold on to the state of the daemon as it was when the call came. A reload that
switches the daemon off puts a new one in its place. `reset` and a stop put a new table in the state,
and a run goes on writing to the table that it began with. -/

namespace GlXe3000.NetworkQuality

/-! ## Measurements -/

/-- `round_to`, over exact numbers. -/
def roundTo (value : Rat) (digits : Nat) : Rat :=
  if 0 ≤ value then (value * 10 ^ digits + 1 / 2).floor / 10 ^ digits
  else (value * 10 ^ digits - 1 / 2).ceil / 10 ^ digits

def speedtestCurveSize : Nat := 10

def samplesPerDirection : Nat := 3

def topN : Nat := 2

def pingFallbackMs : Rat := 1000

def parseSpeed (value : Option Rat) : Rat :=
  match value with
  | none => 0
  | some value => if value ≤ 0 then 0 else roundTo (value * 8 / 1000000) 3

def finishStage (samples : List Rat) : Rat :=
  let values := (samples.filter fun value => 0 < value).mergeSort fun a b => b ≤ a
  if values.isEmpty then 0
  else roundTo ((values.take topN).sum / (min topN values.length : Nat)) 3

def pushCurvePoint (points : List Rat) (value : Rat) : List Rat :=
  (if speedtestCurveSize ≤ points.length then points.tail else points) ++ [roundTo value 3]

inductive Grade
  | aPlus
  | a
  | b
  | c
  | d
  | f
  deriving DecidableEq

def gradeOf (idle loaded : Rat) : Grade :=
  let delta := max 0 (loaded - idle)
  if delta < 5 then .aPlus
  else if delta < 30 then .a
  else if delta < 60 then .b
  else if delta < 200 then .c
  else if delta < 400 then .d
  else .f

structure Pings where
  idle : Option Rat := none
  loaded : Option Rat := none

def bufferbloatOf : Pings → Option Grade
  | ⟨some idle, some loaded⟩ => some (gradeOf idle loaded)
  | _ => none

/-! ## Tables -/

inductive Phase
  | idle
  | running
  | failed
  | success
  deriving DecidableEq

inductive Direction
  | download
  | upload
  deriving DecidableEq

structure Measured where
  value : Rat := 0
  list : List Rat := []
  done : Bool := false

/-- `fresh_state`. -/
structure Table where
  state : Phase := .idle
  download : Measured := {}
  upload : Measured := {}
  ping : Rat := 0
  bufferbloat : Option Grade := none
  enabled : Bool := false
  cancelled : Bool := false
  generation : Nat := 0

namespace Table
variable (t : Table)

def measure (f : Measured → Measured) : Direction → Table
  | .download => { t with download := f t.download }
  | .upload => { t with upload := f t.upload }

def note (d : Direction) (mbps : Rat) : Table :=
  t.measure (fun m => { m with value := mbps, list := pushCurvePoint m.list mbps }) d

def finish (d : Direction) (samples : List Rat) : Table :=
  t.measure (fun m => { m with value := finishStage samples, done := true }) d

def succeed (samples : List Rat) (pings : Pings) : Table :=
  { t.finish .upload samples with bufferbloat := bufferbloatOf pings, state := .success }

/-- `reset`, and what a start writes behind it. -/
def started : Table := { state := .running, enabled := true, generation := t.generation + 1 }

def fail : Table := { t with state := .failed }

def enable : Table := { t with enabled := true, cancelled := false }

def cancel : Table := { t with cancelled := true, generation := t.generation + 1 }

end Table

structure World where
  serial : Nat
  table : Table

namespace World
variable (w : World)

def write (serial : Nat) (f : Table → Table) : World :=
  if w.serial = serial then { w with table := f w.table } else w

def modify (f : Table → Table) : World := { w with table := f w.table }

def replace (t : Table) : World := ⟨w.serial + 1, t⟩

def fail : World := w.modify Table.fail

end World

/-! ## A run -/

inductive Stage
  | pinging
  | pinged (idle : Rat)
  | sampling (d : Direction) (samples : List Rat) (pings : Pings)
  | sampled (d : Direction) (samples : List Rat) (pings : Pings)
  | downloaded (pings : Pings)
  | ended

def Stage.isEnded : Stage → Bool
  | .ended => true
  | _ => false

structure Run where
  /-- `ctx.state`. -/
  world : Nat
  serial : Nat
  generation : Nat
  stage : Stage

def Run.stop (r : Run) : Run := { r with stage := .ended }

structure Reply where
  hasCurl : Bool
  pingSpawns : Bool
  ping : Option Rat
  sampleSpawns : Bool
  value : Option Rat
  loaded : Option Rat

def cancelled (w : World) (generation : Nat) : Bool :=
  w.table.cancelled || w.table.generation ≠ generation

def nextSample (w : World) (r : Run) (spawns : Bool) (stage : Stage) : World × Run :=
  if cancelled w r.generation then (w, r.stop)
  else if spawns then (w, { r with stage := stage })
  else (w.fail, r.stop)

def pingsAfter (d : Direction) (samples : List Rat) (pings : Pings) (loaded : Option Rat) : Pings :=
  if d = .download ∧ samples.isEmpty then { pings with loaded := loaded } else pings

def finishDirection (w : World) (r : Run) (samples : List Rat) (pings : Pings) :
    Direction → World × Run
  | .download =>
    (w.write r.serial fun t => t.finish .download samples, { r with stage := .downloaded pings })
  | .upload => (w.write r.serial fun t => t.succeed samples pings, r.stop)

/-- `run_test` from one wait to the next. -/
def advance (w : World) (r : Run) (reply : Reply) : World × Run :=
  match r.stage with
  | .pinging =>
    if cancelled w r.generation then (w, r.stop)
    else
      match reply.ping with
      | some idle =>
        (w.write r.serial fun t => { t with ping := roundTo idle 3 },
          { r with stage := .pinged idle })
      | none =>
        nextSample (w.write r.serial fun t => { t with ping := pingFallbackMs }) r
          reply.sampleSpawns (.sampling .download [] {})
  | .pinged idle => nextSample w r reply.sampleSpawns (.sampling .download [] ⟨some idle, none⟩)
  | .sampling d samples pings =>
    if cancelled w r.generation then (w, r.stop)
    else
      (w.write r.serial fun t => t.note d (parseSpeed reply.value),
        { r with
          stage := .sampled d (samples ++ [parseSpeed reply.value])
            (pingsAfter d samples pings reply.loaded) })
  | .sampled d samples pings =>
    if samples.length < samplesPerDirection then
      nextSample w r reply.sampleSpawns (.sampling d samples pings)
    else if cancelled w r.generation then (w, r.stop)
    else finishDirection w r samples pings d
  | .downloaded pings => nextSample w r reply.sampleSpawns (.sampling .upload [] pings)
  | .ended => (w, r)

/-- `run_test` up to its first wait, right behind the end of a start. -/
def beginRun (n : Nat) (w : World) (reply : Reply) : World × Run :=
  let r : Run := ⟨n, w.serial, w.table.generation, .pinging⟩
  if !reply.hasCurl then (w.fail, r.stop)
  else if reply.pingSpawns then (w, r)
  else advance w r { reply with ping := none }

/-! ## The daemon -/

inductive Call
  | starting (world : Nat)
  | disabling (world generation : Nat)
  | over
  deriving DecidableEq

structure State where
  worlds : Nat → World
  /-- `STATE`. -/
  world : Nat
  runs : List Run
  calls : List Call

inductive Event
  | start
  | enable
  | disable
  | reload (enabled : Bool)
  | proceed (i : Nat) (reply : Reply)
  | resume (i : Nat) (reply : Reply)

namespace State
variable (s : State)

def published : Table := (s.worlds s.world).table

def setWorld (n : Nat) (w : World) : State := { s with worlds := Function.update s.worlds n w }

def letThrough : State :=
  { s.setWorld s.world ((s.worlds s.world).replace s.published.started) with
    calls := s.calls ++ [.starting s.world] }

def start : State :=
  if !s.published.enabled then s
  else if s.published.state = .running then s
  else s.letThrough

def enable : State := (s.setWorld s.world ((s.worlds s.world).modify Table.enable)).start

def disable : State :=
  { s.setWorld s.world ((s.worlds s.world).modify Table.cancel) with
    calls := s.calls ++ [.disabling s.world (s.published.generation + 1)] }

def reload (enabled : Bool) : State :=
  if enabled then s else { s.setWorld (s.world + 1) ⟨0, {}⟩ with world := s.world + 1 }

def proceed (i : Nat) (reply : Reply) : State :=
  match s.calls[i]? with
  | some (.starting n) =>
    { s.setWorld n (beginRun n (s.worlds n) reply).1 with
      runs := s.runs ++ [(beginRun n (s.worlds n) reply).2]
      calls := s.calls.set i .over }
  | some (.disabling n generation) =>
    { s.setWorld n ((s.worlds n).replace { generation := generation }) with
      calls := s.calls.set i .over }
  | _ => s

def resume (i : Nat) (reply : Reply) : State :=
  match s.runs[i]? with
  | some r =>
    { s.setWorld r.world (advance (s.worlds r.world) r reply).1 with
      runs := s.runs.set i (advance (s.worlds r.world) r reply).2 }
  | none => s

def step : Event → State
  | .start => s.start
  | .enable => s.enable
  | .disable => s.disable
  | .reload enabled => s.reload enabled
  | .proceed i reply => s.proceed i reply
  | .resume i reply => s.resume i reply

end State

def init : State := ⟨fun _ => ⟨0, {}⟩, 0, [], []⟩

def machine : Machine State Event := ⟨State.step⟩

/-! ## What a run can do -/

section
variable {w : World} {r : Run}

@[simp] theorem generation_write {f : Table → Table} (h : ∀ t, (f t).generation = t.generation) :
    (w.write serial f).table.generation = w.table.generation := by
  unfold World.write
  split
  · exact h _
  · rfl

@[simp] theorem generation_measure {t : Table} {f : Measured → Measured} :
    (t.measure f d).generation = t.generation := by
  cases d
  all_goals rfl

structure Advances (w : World) (r : Run) (w' : World) (r' : Run) : Prop where
  world : r'.world = r.world
  generation : r'.generation = r.generation
  isEnded : r.stage.isEnded = true → r'.stage.isEnded = true
  table : w'.table.generation = w.table.generation
  of_cancelled : cancelled w r.generation = true → w' = w

theorem Advances.stop : Advances w r w r.stop := ⟨rfl, rfl, fun _ => rfl, rfl, fun _ => rfl⟩

theorem Advances.of_not_cancelled {w' : World} {r' : Run} (hc : ¬cancelled w r.generation = true)
    (hstage : r.stage.isEnded = false) (hworld : r'.world = r.world)
    (hgen : r'.generation = r.generation)
    (htable : w'.table.generation = w.table.generation) : Advances w r w' r' where
  world := hworld
  generation := hgen
  isEnded h := by
    rw [hstage] at h
    cases h
  table := htable
  of_cancelled h := absurd h hc

theorem nextSample_advances (spawns : Bool) (stage : Stage) (h : r.stage.isEnded = false) :
    Advances w r (nextSample w r spawns stage).1 (nextSample w r spawns stage).2 := by
  unfold nextSample
  split
  · exact .stop
  · rename_i hc
    split
    · exact .of_not_cancelled hc h rfl rfl rfl
    · exact .of_not_cancelled hc h rfl rfl rfl

theorem finishDirection_advances (hc : ¬cancelled w r.generation = true) (h : r.stage.isEnded = false) :
    Advances w r (finishDirection w r samples pings d).1 (finishDirection w r samples pings d).2 := by
  cases d with
  | download => exact .of_not_cancelled hc h rfl rfl (generation_write fun _ => generation_measure)
  | upload => exact .of_not_cancelled hc h rfl rfl (generation_write fun _ => generation_measure)

theorem advance_advances (w : World) (r : Run) (reply : Reply) :
    Advances w r (advance w r reply).1 (advance w r reply).2 := by
  unfold advance
  cases hstage : r.stage with
  | pinging =>
    have hend : r.stage.isEnded = false := congrArg Stage.isEnded hstage
    dsimp only
    split
    · exact .stop
    · rename_i hc
      split
      · exact .of_not_cancelled hc hend rfl rfl (generation_write fun _ => rfl)
      · have hnext := nextSample_advances reply.sampleSpawns (.sampling .download [] {})
          (w := w.write r.serial fun t => { t with ping := pingFallbackMs }) hend
        exact .of_not_cancelled hc hend hnext.world hnext.generation
          (hnext.table.trans (generation_write fun _ => rfl))
  | pinged idle => exact nextSample_advances _ _ (congrArg Stage.isEnded hstage)
  | sampling d samples pings =>
    dsimp only
    split
    · exact .stop
    · rename_i hc
      exact .of_not_cancelled hc (congrArg Stage.isEnded hstage) rfl rfl
        (generation_write fun _ => generation_measure)
  | sampled d samples pings =>
    have hend : r.stage.isEnded = false := congrArg Stage.isEnded hstage
    dsimp only
    split
    · exact nextSample_advances _ _ hend
    · split
      · exact .stop
      · rename_i hc
        exact finishDirection_advances hc hend
  | downloaded pings => exact nextSample_advances _ _ (congrArg Stage.isEnded hstage)
  | ended => exact ⟨rfl, rfl, fun h => h, rfl, fun _ => rfl⟩

structure Begins (n : Nat) (w w' : World) (r : Run) : Prop where
  world : r.world = n
  generation : r.generation = w.table.generation
  table : w'.table.generation = w.table.generation

theorem beginRun_begins (n : Nat) (w : World) (reply : Reply) :
    Begins n w (beginRun n w reply).1 (beginRun n w reply).2 := by
  unfold beginRun
  dsimp only
  split
  · exact ⟨rfl, rfl, rfl⟩
  · split
    · exact ⟨rfl, rfl, rfl⟩
    · have hadvance := advance_advances w ⟨n, w.serial, w.table.generation, .pinging⟩
        { reply with ping := none }
      exact ⟨hadvance.world, hadvance.generation, hadvance.table⟩

end

end GlXe3000.NetworkQuality
