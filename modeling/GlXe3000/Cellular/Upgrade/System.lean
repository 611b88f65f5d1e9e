import GlXe3000.Lib.Machine
import GlXe3000.Cellular.Upgrade.Script
import GlXe3000.Cellular.Upgrade.Version

/-! # The upgrade RPC, the uploader and the running scripts

The RPC methods act at once on the files and processes; scripts go on step by step in between, and
the flash tools end when they do. Nothing here looks at what is running. -/

namespace GlXe3000.Cellular.Upgrade
open Text

/-! ## `check_cellular_local` -/

/-- What a check meets: the room in `/tmp`, what `unzip` leaves if it does not get through, and the
modem's version. -/
structure Checking where
  tmpHasRoom : Bool := true
  unzipped : Option (Option Package) := none
  modem : Option Text := none
  deriving DecidableEq

def Checking.dir (e : Checking) : Dir := if e.tmpHasRoom then .tmp else .overlay

def Fields.isDiff (f : Fields) : Bool := f.upgradeType = some "diff"

def Fields.status (f : Fields) (modem : Option Text) : Int :=
  let valid := match modem, f.newVersion with
    | some modem, some new => isUpgradeValid modem new
    | _, _ => -1
  if 0 ≤ valid then
    if f.isDiff then (if f.baseVersion = modem then 0 else -1) else 0
  else -1

/-- The field `status` of the result; it is missing where the metadata cannot be read. -/
def packageStatus (modem : Option Text) : Option Package → Option Int
  | none => some (-1)
  | some package =>
    match package.metadata with
    | none => some 1
    | some .unreadable => none
    | some .malformed => some (-1)
    | some (.fields f) => some (f.status modem)

/-- `none` stands for the error that there is no package. -/
def checkCellularLocal (e : Checking) (w : World) : Option (Option Int) × World :=
  match w.zip with
  | none => (none, w)
  | some zip =>
    let contents := e.unzipped.getD (some zip)
    let status := packageStatus e.modem contents
    let w := { w with dirs := Function.update w.dirs e.dir contents, unzipPath := some e.dir }
    match contents.bind Package.metadata with
    -- The method returns before it has written the type.
    | some .malformed => (some status, w)
    | some (.fields f) =>
      if f.isDiff then
        (some status,
          { w with upgradeType := some .diff, dirs := Function.update w.dirs .tmp none })
      else (some status, { w with upgradeType := some .full })
    | _ => (some status, { w with upgradeType := some .full })

/-! ## Steps -/

/-- What the environment answers a script, and what is on disk after a download or an unzip. -/
structure Reply where
  yes : Bool := true
  package : Option Package := none
  deriving DecidableEq

/-- The answer to an action of the run `p`. -/
def World.answer (p : Nat) (e : Reply) : (a : Act) → World → Answer a × World
  | .readType, w => (w.upgradeType, w)
  | .readPath, w => (w.unzipPath, w)
  | .rmZip, w => ((), { w with zip := none })
  | .rmDir d, w => ((), { w with dirs := Function.update w.dirs d none })
  | .fetch, w => (e.yes, { w with zip := e.package })
  | .shaMatches, w => (e.yes, w)
  | .unzip d, w => (e.yes, { w with dirs := Function.update w.dirs d e.package })
  | .batteryOk, w => (e.yes, w)
  | .launch t, w => ((), { w with tools := Function.update w.tools p (some t) })
  | .wait, w => (w.succeeded p, w)
  | .fotaEnd, w => (e.yes, w)

structure State where
  world : World
  runs : Nat → Script Unit

inductive Event
  | upgradeCellularLocal (p : Nat)
  | upgradeCellularOnline (p : Nat) (kind : Kind)
  | resetCellularUpgradeStatus
  | checkCellularLocal (e : Checking)
  | uploadBegins
  | uploadEnds (package : Package)
  /-- The run `p` performs its next action. -/
  | step (p : Nat) (e : Reply)
  /-- The tool of the run `p` exits by itself. -/
  | toolEnds (p : Nat) (success : Bool)
  | reboot
  deriving DecidableEq

namespace State

def Idle (s : State) (p : Nat) : Prop := (s.runs p).isDone = true ∧ s.world.tools p = none

instance (s : State) (p : Nat) : Decidable (s.Idle p) := by unfold Idle; infer_instance

def begin (s : State) (p : Nat) (m : Script Unit) : State :=
  if s.Idle p then { s with runs := Function.update s.runs p m } else s

/-- A script that waits for its tool does not go on before the tool has ended. -/
def blocked (s : State) (p : Nat) : Bool :=
  (s.runs p).next = some .wait && (s.world.tools p).isSome

def perform (s : State) (p : Nat) (e : Reply) : State :=
  let r := (s.runs p).advance (World.answer p e) s.world
  { world := r.2, runs := Function.update s.runs p r.1 }

def step (s : State) : Event → State
  | .upgradeCellularLocal p => if s.world.zip.isSome then s.begin p upgradeLocal else s
  | .upgradeCellularOnline p kind => s.begin p (upgradeOnline kind)
  -- `kill -9` by name, and `rm /tmp/upgrade_cellular/*`, which leaves directories.
  | .resetCellularUpgradeStatus =>
    { world := { s.world with
        zip := none, unzipPath := none, upgradeType := none
        tools := fun p => (s.world.tools p).filter fun t => !t.inTmp }
      runs := fun _ => .ret () }
  | .checkCellularLocal e => { s with world := (Upgrade.checkCellularLocal e s.world).2 }
  | .uploadBegins =>
    { s with world := { s.world with
        zip := none, dirs := Function.update s.world.dirs .tmp none } }
  | .uploadEnds package => { s with world := { s.world with zip := some package } }
  | .step p e => if s.blocked p then s else s.perform p e
  | .toolEnds p success =>
    if (s.world.tools p).isSome then
      { s with world := { s.world with
          tools := Function.update s.world.tools p none
          succeeded := Function.update s.world.succeeded p success } }
    else s
  | .reboot =>
    { world := { dirs := Function.update s.world.dirs .tmp none }, runs := fun _ => .ret () }

end State

def machine : Machine State Event := ⟨State.step⟩

/-- A router on which no upgrade has run since it booted, with what is left on its flash. -/
def booted (dirs : Dir → Option Package) : State :=
  { world := { dirs := Function.update dirs .tmp none }, runs := fun _ => .ret () }

end GlXe3000.Cellular.Upgrade
