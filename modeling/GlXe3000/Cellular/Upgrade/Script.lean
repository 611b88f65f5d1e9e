import GlXe3000.Lib.Process
import GlXe3000.Lib.Text

/-! # `upgrade_cellular`

The script as a process over the files it shares with the upgrade RPC and the uploader. The flash
tools are processes of their own that the script starts and waits for. Its status codes and logs are
left out, as is what it does to the rest of the cellular stack. -/

namespace GlXe3000.Cellular.Upgrade

structure Fields where
  upgradeType : Option Text := none
  newVersion : Option Text := none
  baseVersion : Option Text := none
  deriving DecidableEq

/-- A package's file `metadata`. -/
inductive Metadata
  | unreadable
  | malformed
  | fields (f : Fields)
  deriving DecidableEq

/-- What a zip unpacks to; `image` stands for everything but the metadata. -/
structure Package where
  metadata : Option Metadata := none
  image : Nat
  deriving DecidableEq

inductive Dir
  /-- `/tmp/upgrade_cellular/cellular_firmware`. -/
  | tmp
  /-- `/root/cellular_firmware`. -/
  | overlay
  /-- `/root/firmware`, where no check has said otherwise. -/
  | root
  deriving DecidableEq

inductive Kind
  | full | diff
  deriving DecidableEq

inductive Tool
  | qfirehose (d : Dir)
  /-- `quec_upload -f /tmp/upgrade_cellular/firmware.zip`. -/
  | quecUpload
  deriving DecidableEq

/-- The tool works on a file under `/tmp/upgrade_cellular`, so its command line matches
`grep upgrade_cellular`. -/
def Tool.inTmp : Tool → Bool
  | .qfirehose d => d = .tmp
  | .quecUpload => true

structure World where
  /-- `/tmp/upgrade_cellular/firmware.zip`. -/
  zip : Option Package := none
  dirs : Dir → Option Package := fun _ => none
  /-- `/tmp/upgrade_cellular/unzip_path` and `/tmp/upgrade_cellular/upgrade_type`. -/
  unzipPath : Option Dir := none
  upgradeType : Option Kind := none
  tools : Nat → Option Tool := fun _ => none
  succeeded : Nat → Bool := fun _ => false

inductive Act
  | readType | readPath
  | rmZip
  | rmDir (d : Dir)
  /-- `curl -o $firmware_zip_path`. -/
  | fetch
  | shaMatches
  | unzip (d : Dir)
  | batteryOk
  | launch (t : Tool)
  | wait
  /-- The modem reports `"FOTA","END",0`. -/
  | fotaEnd
  deriving DecidableEq

abbrev Answer : Act → Type
  | .readType => Option Kind
  | .readPath => Option Dir
  | .fetch | .shaMatches | .unzip _ | .batteryOk | .wait | .fotaEnd => Bool
  | .rmZip | .rmDir _ | .launch _ => Unit

abbrev Script := Proc Act Answer

def rmZip : Script Unit := .perform Act.rmZip
def rmDir (d : Dir) : Script Unit := .perform (Act.rmDir d)
def launch (t : Tool) : Script Unit := .perform (Act.launch t)
def wait : Script Bool := .perform Act.wait

def download (kind : Kind) (path : Dir) : Script Bool := do
  rmZip
  unless ← .perform Act.fetch do
    rmZip
    return false
  unless ← .perform Act.shaMatches do
    rmZip
    return false
  match kind with
  | .diff => return true
  | .full =>
    rmDir path
    unless ← .perform (Act.unzip path) do
      rmZip
      return false
    rmZip
    return true

def flashDiff : Script Bool := do
  launch .quecUpload
  let _ ← wait
  unless ← .perform Act.fotaEnd do return false
  rmZip
  return true

def flashFull (path : Dir) : Script Bool := do
  launch (.qfirehose path)
  if ← wait then return true
  launch (.qfirehose path)
  if ← wait then return true
  rmDir path
  return false

/-- Whatever is not `diff` is flashed as a full image. A flash that succeeds ends in a reboot. -/
def flash (kind : Option Kind) (path : Dir) : Script Unit := do
  unless ← .perform Act.batteryOk do return
  unless ← (if kind = some .diff then flashDiff else flashFull path) do return
  rmDir path

/-- `upgrade_cellular local`. -/
def upgradeLocal : Script Unit := do
  let kind ← .perform Act.readType
  let path ← .perform Act.readPath
  flash kind (path.getD .root)

/-- `upgrade_cellular <url> <sha256> <size> <kind>`. -/
def upgradeOnline (kind : Kind) : Script Unit := do
  let path ← .perform Act.readPath
  unless ← download kind (path.getD .root) do return
  flash (some kind) (path.getD .root)

end GlXe3000.Cellular.Upgrade
