import GlXe3000.Lib.Lua

/-! # The mesh: `mesh.lua`

The mesh is switched on and off in two packages. It is not switched on while a station is up, by what
the radios report, or while the repeater says that it is enabled. -/

namespace GlXe3000.Mesh
open Text

structure Iface where
  name : Text
  ifname : Text
  mode : Text
  network : List Text
  ssid : Option Text
  key : Option Text
  encryption : Option Text
  disabled : Bool

structure Radio where
  name : Text
  band : Option Text
  disabled : Bool
  interfaces : List Iface

/-- What is asked at run time: the status of the radios, and the device of the LAN. -/
structure Env where
  status : List Radio
  lanDevice : Text

/-- The packages that `set_config` reads or writes. -/
structure Config where
  mesh : Package
  prplmesh : Package
  wireless : Package
  repeater : Package

variable (env : Env) (args : Json) (c : Config)

def base : Text := "base"

def config : Text := "config"

/-! ## What the radios report -/

structure Ap where
  radio : Text
  band : Option Text
  iface : Iface

/-- The order of `table.sort`: the 2.4 GHz band comes first. -/
def Ap.lt (a b : Ap) : Bool :=
  if a.band = b.band then decide (a.iface.ifname < b.iface.ifname)
  else if a.band = some "2g" then true
  else if b.band = some "2g" then false
  else decide (a.band.getD "nil" < b.band.getD "nil")

/-- `collect_aps`: access points of the LAN. -/
def collectAps (status : List Radio) : List Ap :=
  (status.flatMap fun radio => (radio.interfaces.filter fun iface =>
    iface.mode = "ap".toList && !iface.disabled && !radio.disabled &&
      "lan".toList ∈ iface.network).map fun iface => ⟨radio.name, radio.band, iface⟩).insertionSort
    fun a b => b.lt a = false

def isGiven (t : Option Text) : Bool := t.any fun t => t ≠ []

def mainAp (aps : List Ap) : Option Ap := (aps.find? fun ap => isGiven ap.iface.ssid).or aps.head?

def reportsStation (status : List Radio) : Bool :=
  status.any fun radio => radio.interfaces.any fun iface =>
    iface.mode = "sta" && !iface.disabled && !radio.disabled

def repeaterActive : Bool :=
  ((c.repeater.first "repeater").any fun n => isOn (c.repeater.get n "enabled")) ||
    isOn (c.repeater.get "global" "enabled") || reportsStation env.status

/-! ## The configuration -/

def modeEnabled (encryption : Option Text) : Text :=
  if encryption = some "sae" then "WPA3-Personal"
  else if encryption = some "sae-mixed" then "WPA2-Personal"
  else if encryption = some "owe" then "OWE"
  else if encryption = some "none" then "None"
  else "WPA2-Personal"

def managementMode (mode : Text) : Text :=
  if mode = "agent" then "Multi-AP-Agent"
  else "Multi-AP-Controller-and-Agent"

def ensureSection (p : Package) (n type : Text) : Package :=
  if (p.typeOf n).isNone then p.setType n type else p

/-- `enabled` is written in both packages. -/
def setEnabled (enabled : Bool) : Config :=
  { c with
    mesh := (ensureSection c.mesh base base).set base "enabled" (flagValue enabled)
    prplmesh := (ensureSection c.prplmesh config "prplmesh").set config "enabled"
      (flagValue enabled) }

def engineOptions (mode : Text) (main : Iface) (ssid : Text) : List (String × Value) :=
  [("management_mode", .text (managementMode mode)), ("ssid", .text ssid),
    ("key_passphrase", .text (main.key.getD [])),
    ("mode_enabled", .text (modeEnabled main.encryption)),
    ("backhaul_wire_iface", .text env.lanDevice),
    ("use_explicit_bss_profiles", .text ['0'])]

def radioOptions (ap : Ap) : List (String × Value) :=
  [("hostap_iface", .text ap.iface.ifname), ("hostap_iface_steer_vaps", .text ap.iface.ifname),
    ("wireless_section", .text ap.iface.name), ("wireless_device", .text ap.radio)]

def backhaulOptions (main : Iface) (ssid : Text) : List (String × Value) :=
  ("multi_ap", .text ['1']) ::
    if isGiven main.key then
      [("multi_ap_backhaul_ssid", .text ssid), ("multi_ap_backhaul_key", .text (main.key.getD []))]
    else []

def addAp (main : Iface) (ssid : Text) (c : Config) (ap : Ap) : Config :=
  { c with
    prplmesh := (ensureSection c.prplmesh ap.radio "wifi-device").setAll ap.radio
      (radioOptions ap)
    wireless := c.wireless.setAll ap.iface.name (backhaulOptions main ssid) }

/-- `configure_mesh`, with an SSID. -/
def configureMesh (mode : Text) (aps : List Ap) (main : Iface) (ssid : Text) : Config :=
  let c := setEnabled c true
  let c := { c with
    mesh := c.mesh.set base "mode" (.text mode)
    prplmesh := c.prplmesh.setAll config (engineOptions env mode main ssid) }
  let c := aps.foldl (addAp main ssid) c
  { c with
    prplmesh := c.prplmesh.set config "mandatory_interfaces"
      (.text ([','].intercalate (aps.map fun ap => ap.iface.ifname))) }

def frontHaul (aps : List Ap) : Option (Iface × Text) := do
  let main ← mainAp aps
  let ssid ← main.iface.ssid
  if ssid = [] then none else some (main.iface, ssid)

def isMode (v : Json) : Bool := v.isText "controller" || v.isText "agent"

/-- `set_config`: anything but `enabled = false` switches the mesh on. -/
def setConfig : Result × Config :=
  let enabled := arg args "enabled"
  let mode := arg args "mode"
  let aps := collectAps env.status
  if enabled.any fun v => v.asBool.isNone then (err 1 "invalid enabled", c)
  else if mode.any fun v => !isMode v then (err 1 "invalid mode", c)
  else if enabled.bind Json.asBool = some false then (.ok, setEnabled c false)
  else if aps.isEmpty then (err 1 "no LAN front-haul AP found", c)
  else if repeaterActive env c then
    (err 20026021 "Repeater/STA mode is active; disable it before enabling mesh", c)
  else match frontHaul aps with
    | none => (err 1 "no LAN front-haul AP with an SSID found", c)
    | some (main, ssid) =>
      (.ok, configureMesh env c ((mode.bind Json.asText).getD "controller") aps main ssid)

def isEnabled : Bool :=
  isOn (c.mesh.get base "enabled") || isOn (c.prplmesh.get config "enabled")

end GlXe3000.Mesh
