import GlXe3000.Lib.Process
import GlXe3000.Portal.Page

/-! # The captive portal: `gl-repeater-portal` and `repeater.lua`

While a portal is pending, the detector writes three includes of dnsmasq and some routing rules, and
keeps what it knows in a file. The methods of `repeater.lua` write one of the includes, the rules and
the file, too. Neither takes a lock, so each access to one of these is one action. -/

namespace GlXe3000.Portal
open Text

/-! ## What they share -/

structure Table where
  detected : Option Bool := none
  detecting : Option Bool := none
  portalUrl : Option Text := none
  bareMode : Option Bool := none
  autoBareMode : Option Bool := none
  status : Option Text := none
  lastError : Option Text := none
  updated : Option Nat := none
  deriving DecidableEq

/-- The fields of `u` are written over those of the table. -/
def Table.update (s u : Table) : Table where
  detected := u.detected.or s.detected
  detecting := u.detecting.or s.detecting
  portalUrl := u.portalUrl.or s.portalUrl
  bareMode := u.bareMode.or s.bareMode
  autoBareMode := u.autoBareMode.or s.autoBareMode
  status := u.status.or s.status
  lastError := u.lastError.or s.lastError
  updated := u.updated.or s.updated

inductive Party
  | detector
  | rpc
  deriving DecidableEq

inductive StateFile
  | missing
  | broken
  | table (s : Table)
  deriving DecidableEq

/-- `load_state` of the detector and `read_portal_state` of the methods. -/
def StateFile.load : Party → StateFile → Table
  | .detector, .missing =>
    { detected := some false, detecting := some false, portalUrl := some [], bareMode := some false,
      autoBareMode := some false, status := some "idle", lastError := some [] }
  | .rpc, .missing =>
    { detected := some false, detecting := some false, portalUrl := some [], bareMode := some false,
      status := some "idle" }
  | _, .broken =>
    { detected := some false, detecting := some false, portalUrl := some [], bareMode := some false }
  | _, .table s => s

inductive Include
  /-- `gl-repeater-portal.conf`: the DNS of the LAN. -/
  | dns
  /-- `gl-repeater-portal-rebind.conf`. -/
  | rebind
  /-- `gl-repeater-portal-domain.conf`. -/
  | forward
  deriving DecidableEq

structure World where
  confdir : Bool
  includes : Include → Option Text
  rules : List Text
  /-- The line in `gl-repeater-portal-routes`. -/
  marker : Option Text
  state : StateFile

/-! ## Actions -/

/-- `repeater_settings`. -/
structure Settings where
  device : Option Text
  up : Bool
  dns : List Text
  autoPortal : Bool

inductive Action
  | confdir
  | readInclude (f : Include)
  | writeInclude (f : Include) (content : Text)
  | removeInclude (f : Include)
  | readMarker
  | removeMarker
  | writeMarker (line : Text)
  /-- The loop of `ip rule del`. -/
  | flushRules
  | addRule (target : Text)
  | loadState (p : Party)
  | readState (p : Party)
  | writeState (p : Party) (base fields : Table)
  | settings
  | probe (url device : Text) (dns : List Text)
  | repeaterDns
  | time

abbrev Action.Answer : Action → Type
  | .confdir => Bool
  | .readInclude _ | .readMarker => Option Text
  | .loadState _ | .readState _ => Table
  | .settings => Option Settings
  | .probe _ _ _ => Except Text Response
  | .repeaterDns => List Text
  | .time => Nat
  | _ => Unit

structure Env where
  settings : Option Settings
  probe : Text → Text → List Text → Except Text Response
  repeaterDns : List Text
  time : Nat

def addRule (rules : List Text) (target : Text) : List Text :=
  if target ∈ rules then rules else rules ++ [target]

def answer (e : Env) : (a : Action) → World → a.Answer × World
  | .confdir, w => (w.confdir, w)
  | .readInclude f, w => (w.includes f, w)
  | .writeInclude f content, w => ((), { w with includes := Function.update w.includes f (some content) })
  | .removeInclude f, w => ((), { w with includes := Function.update w.includes f none })
  | .readMarker, w => (w.marker, w)
  | .removeMarker, w => ((), { w with marker := none })
  | .writeMarker line, w => ((), { w with marker := some line })
  | .flushRules, w => ((), { w with rules := [] })
  | .addRule target, w => ((), { w with rules := addRule w.rules target })
  | .loadState p, w => (w.state.load p, w)
  | .readState p, w => (w.state.load p, w)
  | .writeState _ base fields, w => ((), { w with state := .table (base.update fields) })
  | .settings, w => (e.settings, w)
  | .probe url device dns, w => (e.probe url device dns, w)
  | .repeaterDns, w => (e.repeaterDns, w)
  | .time, w => (e.time, w)

abbrev Script (α : Type) := Proc Action Action.Answer α

def perform (a : Action) : Script a.Answer := Proc.perform a

/-- `if c then m end`. -/
def onlyIf (c : Bool) (m : Script Unit) : Script Unit := if c then m else pure ()

/-! ## Files and rules -/

def updateState (p : Party) (fields : Table) : Script Unit := do
  let base ← perform (.readState p)
  let now ← perform .time
  perform (.writeState p base { fields with updated := some now })

def writeInclude (f : Include) (content : Text) : Script Unit := do
  let current ← perform (.readInclude f)
  onlyIf (current ≠ some content) (perform (.writeInclude f content))

def removeInclude (f : Include) : Script Unit := do
  let current ← perform (.readInclude f)
  onlyIf current.isSome (perform (.removeInclude f))

/-- `set_portal_rebind` and `set_portal_forward`: without a line the include is removed. -/
def setInclude (f : Include) (content : Option Text) : Script Unit := do
  let confdir ← perform .confdir
  onlyIf confdir (content.elim (removeInclude f) (writeInclude f))

def setPortalRebind (url : Text) : Script Unit := setInclude .rebind (contentOf (rebindLines url))

def setPortalForward (url : Text) (dns : List Text) : Script Unit :=
  setInclude .forward (contentOf (forwardLines url dns))

/-- `set_portal_rebind(nil)`. -/
def clearPortalRebind : Script Unit := setInclude .rebind none

def clearPortalForward : Script Unit := setInclude .forward none

/-- `restore_portal_dns` of the detector. -/
def restorePortalDns : Script Unit := setInclude .dns none

/-- `set_portal_dns` of the detector: without a server nothing is done. -/
def setPortalDns (dns : List Text) : Script Unit := do
  let confdir ← perform .confdir
  onlyIf confdir ((overrideContent dns).elim (pure ()) (writeInclude .dns))

def clearPortalRoutes : Script Unit := do
  perform .removeMarker
  perform .flushRules

def addRules : List Text → Script Unit
  | [] => pure ()
  | target :: targets => do
    perform (.addRule target)
    addRules targets

def markerLine (dns : List Text) : Text := [' '].intercalate (portalTargets dns)

/-- `set_portal_routes` of the detector: nothing is done when the marker has the targets. -/
def setPortalRoutes (dns : List Text) : Script Unit := do
  let current ← perform .readMarker
  onlyIf (current ≠ some (markerLine dns)) do
    clearPortalRoutes
    addRules (portalTargets dns)
    perform (.writeMarker (markerLine dns))

/-! ## The detector -/

def setBareMode (enabled automatic : Bool) : Script Unit :=
  updateState .detector { bareMode := some enabled, autoBareMode := some (enabled && automatic) }

def report (detected : Bool) (url : Text) (status : String) (lastError : Text) : Script Unit :=
  updateState .detector
    { detected := some detected, detecting := some false, portalUrl := some url,
      status := some status.toList, lastError := some lastError }

def passPortal : Script Unit := do
  let old ← perform (.loadState .detector)
  restorePortalDns
  clearPortalRebind
  clearPortalForward
  clearPortalRoutes
  onlyIf (old.bareMode = some true) (setBareMode false false)
  report false [] "portal pass" []

/-- `settings.auto_portal or load_state().bare_mode`. -/
def isEngaged (s : Settings) : Script Bool :=
  if s.autoPortal then pure true
  else do
    let state ← perform (.loadState .detector)
    return state.bareMode = some true

def engage (s : Settings) : Script Unit := do
  let engaged ← isEngaged s
  onlyIf engaged (setPortalDns s.dns)
  onlyIf s.autoPortal (setBareMode true true)

def meetPortal (s : Settings) (url : Text) : Script Unit := do
  setPortalRebind url
  setPortalForward url s.dns
  setPortalRoutes s.dns
  engage s
  report true url "portal detected" []

def missPortal (lastError : Text) : Script Unit := do
  clearPortalRebind
  clearPortalForward
  clearPortalRoutes
  report false [] "not found portal" lastError

inductive Finding
  | passed
  | portal (url : Text)
  | nothing (error : Text)
  deriving DecidableEq

def finding (probe : Probe) : Except Text Response → Finding
  | .error e => .nothing e
  | .ok r =>
    if isProbeSuccess probe r then .passed
    else if isPortalish r.code then .portal (extractPortalUrl probe.url r)
    else .nothing ("probe returned HTTP ".toList ++ Nat.toDigits 10 r.code)

/-- The loop of `detect` over the probes. -/
def tryProbes (s : Settings) (device : Text) : List Probe → Text → Script Bool
  | [], lastError => do
    missPortal lastError
    return false
  | probe :: rest, _ => do
    match finding probe (← perform (.probe probe.url device s.dns)) with
    | .passed => do
      passPortal
      return false
    | .portal url => do
      meetPortal s url
      return true
    | .nothing e => tryProbes s device rest e

def detect (s : Settings) (device : Text) : Script Bool := do
  updateState .detector
    { detecting := some true, status := some "portal detecting...", lastError := some [] }
  tryProbes s device probes []

def losePortal : Script Unit := do
  let old ← perform (.loadState .detector)
  restorePortalDns
  clearPortalRebind
  clearPortalForward
  clearPortalRoutes
  onlyIf (old.autoBareMode = some true) (setBareMode false false)
  report false [] "idle" []

def pollInterval : Nat := 15
def idleInterval : Nat := 60

/-- How a pass ends: the DNS servers of the portal it has detected, and the time to the next pass. -/
structure Outcome where
  portal : Option (List Text)
  wait : Nat
  deriving DecidableEq

def uplinkOf (settings : Option Settings) : Option (Settings × Text) := do
  let s ← settings
  let device ← s.device
  if s.up then some (s, device) else none

/-- A portal that is pending, and a probe that did not decide, are looked at again soon. -/
def outcome (s : Settings) (detected : Bool) : Script Outcome :=
  if detected then pure ⟨some s.dns, pollInterval⟩
  else do
    let state ← perform (.loadState .detector)
    return ⟨none, if state.status = some "portal pass" then idleInterval else pollInterval⟩

def pass : Option (Settings × Text) → Script Outcome
  | none => do
    losePortal
    return ⟨none, idleInterval⟩
  | some (s, device) => do
    let detected ← detect s device
    outcome s detected

def tick : Script Outcome := do
  let settings ← perform .settings
  pass (uplinkOf settings)

/-! ## The methods -/

/-- `set_portal_routes` of the methods, which know nothing of the marker. -/
def setRoutes (dns : List Text) : Script Unit := do
  perform .flushRules
  addRules (portalTargets dns)

/-- `set_portal_dns` of the methods. -/
def openDns (dns : List Text) : Script Unit := do
  let confdir ← perform .confdir
  onlyIf confdir ((overrideContent dns).elim (pure ()) fun content => do
    setRoutes dns
    writeInclude .dns content)

/-- `restore_portal_dns` of the methods. -/
def closeDns : Script Unit := do
  let confdir ← perform .confdir
  onlyIf confdir do
    perform .flushRules
    removeInclude .dns

inductive Call
  | enterBareMode
  | exitBareMode
  | disconnect
  /-- `connect` or `set_config` with an SSID. -/
  | applyConfig

def Call.script : Call → Script Unit
  | .enterBareMode => do
    openDns (← perform .repeaterDns)
    updateState .rpc { bareMode := some true, autoBareMode := some false }
  | .exitBareMode => do
    closeDns
    updateState .rpc { bareMode := some false, autoBareMode := some false }
  | .disconnect | .applyConfig => closeDns

end GlXe3000.Portal
