import GlXe3000.Lib.Lua

/-! # How multi-WAN tracking is stored and applied: `kmwan.lua`

What the user wants is stored under `kmwan_` options of a member, and what follows from it under
those that mwan3 reads. A list of IPv4 addresses that is empty stands for the list that mwan3 has at
the moment, IPv6 addresses included, and so it does not stay what it was. -/

namespace GlXe3000.Oui.Multiwan
open Text

/-- The library functions. Numbers of one digit are read as they are written. -/
structure Env extends Lua where
  tonumber_tostring : ∀ n : Fin 3, tonumber (tostring (.num (n : Nat))) = some ((n : Nat) : Rat)

structure Stored where
  kmwanEnableCheck : Option Value := none
  kmwanTrackMode : Option Value := none
  kmwanTrackProto : Option Value := none
  kmwanTrackMethod : Option Value := none
  kmwanEnableSsl : Option Value := none
  kmwanTrackIpv4 : Option Value := none
  kmwanTrackIpv6 : Option Value := none
  family : Option Value := none
  trackIp : Option Value := none
  trackMethod : Option Value := none
  interval : Option Value := none
  trackMode : Option Value := none
  down : Option Value := none
  up : Option Value := none
  count : Option Value := none
  timeout : Option Value := none
  reliability : Option Value := none
  enabled : Option Value := none

def asList (v : Option Value) : List Text :=
  ((v.map Value.entries).getD []).filter fun t => !t.isEmpty

def filterIps (v : Json) (wantIpv6 : Bool) : List Text :=
  (v.items.filterMap Json.asText).filter fun ip => !ip.isEmpty && decide (':' ∈ ip) = wantIpv6

/-- What `get_config` reports of a member. -/
structure Tracking where
  enableCheck : Bool
  trackMode : Rat
  trackProto : Rat
  trackMethod : Rat
  enableSsl : Bool
  trackIpv4 : List Text
  trackIpv6 : List Text

def defaultIps : List Text := ["1.1.1.1", "8.8.8.8"]

def fallback (s : Stored) : List Text :=
  if asList s.trackIp = [] then defaultIps else asList s.trackIp

def isEnabled (v : Option Value) : Bool := v.isNone || v = some (.text []) || isOn v

section
variable (env : Env)

def memberTracking (s : Stored) : Tracking where
  enableCheck := isEnabled s.kmwanEnableCheck
  trackMode := (env.numberOf s.kmwanTrackMode).getD 1
  trackProto := (env.numberOf s.kmwanTrackProto).getD 0
  trackMethod := (env.numberOf s.kmwanTrackMethod).getD 0
  enableSsl := isOn s.kmwanEnableSsl
  trackIpv4 := if asList s.kmwanTrackIpv4 = [] then fallback s else asList s.kmwanTrackIpv4
  trackIpv6 := asList s.kmwanTrackIpv6

/-- An entry of `TRACK_MODES`. -/
structure Mode where
  multiplier : Rat := 1
  minInterval : Int := 1
  down : Rat := 3
  up : Rat := 3
  passive : Bool := false

/-- `TRACK_MODES[n]`, for the numbers that are there. -/
def trackModes (n : Rat) : Option Mode :=
  if n = 0 then some { passive := true }
  else if n = 1 then some {}
  else if n = 2 then some { multiplier := 1 / 2, down := 2, up := 2 }
  else none

def sensitivityBase (rpc : Package) : Rat × Bool :=
  match (rpc.get "kmwan" "level").getD (.text "medium") with
  | .text level =>
    if level = "custom" then ((env.numberOf (rpc.get "kmwan" "sensitivity")).getD 10, false)
    else if level = "low" then (30, true)
    else if level = "high" then (3, true)
    else (10, true)
  | .list _ => (10, true)

def active (t : Tracking) : List Text :=
  if t.enableCheck then
    (if t.trackProto = 0 ∨ t.trackProto = 2 then t.trackIpv4 else []) ++
      if t.trackProto = 1 ∨ t.trackProto = 2 then t.trackIpv6 else []
  else []

def number (n : Rat) : Option Value := some (.text (env.showNumber n))

def marked (t : Tracking) (s : Stored) : Stored :=
  { s with
    family := some (.text (if t.trackProto = 1 then "ipv6" else "ipv4"))
    trackIp := (Value.list (active t)).stored }

def tuned (rpc : Package) (metered : Bool) (t : Tracking) (s : Stored) : Stored :=
  let base := sensitivityBase env rpc
  let base := if base.2 && metered then base.1 * 3 else base.1
  let mode := (trackModes t.trackMode).getD {}
  { s with
    trackMethod := some (.text "ping")
    interval := number env (max mode.minInterval (base * mode.multiplier + 1 / 2).floor : Int)
    trackMode := some (.text (if mode.passive then "passive" else "force"))
    down := number env mode.down
    up := number env mode.up
    count := s.count.or (some (.text "1"))
    timeout := s.timeout.or (some (.text "2"))
    reliability := s.reliability.or (some (.text "1")) }

def applyMemberTracking (rpc : Package) (metered : Bool) (s : Stored) : Stored :=
  let t := memberTracking env s
  if !t.enableCheck then marked t s else tuned env rpc metered t (marked t s)

/-- The number in an argument, if it is one of those that `ok` takes. -/
def storeNumber (args : Json) (name : String) (ok : Rat → Bool) (old : Option Value) :
    Option Value :=
  match (arg args name).bind env.number with
  | some n => if ok n then number env n else old
  | none => old

def storeFlag (args : Json) (name : String) (old : Option Value) : Option Value :=
  match arg args name with
  | some v => some (flag (some v))
  | none => old

def storeIps (args : Json) (name : String) (wantIpv6 : Bool) (old : Option Value) : Option Value :=
  match arg args name with
  | some v => if v.isTable then (Value.list (filterIps v wantIpv6)).stored else old
  | none => old

def persistMember (args : Json) (s : Stored) : Stored :=
  { s with
    kmwanEnableCheck := storeFlag args "enable_check" s.kmwanEnableCheck
    kmwanTrackMode := storeNumber env args "track_mode" (fun n => (trackModes n).isSome)
      s.kmwanTrackMode
    kmwanTrackProto := storeNumber env args "track_proto" (fun n => n = 0 ∨ n = 1 ∨ n = 2)
      s.kmwanTrackProto
    kmwanTrackMethod := storeNumber env args "track_method" (fun _ => true) s.kmwanTrackMethod
    kmwanEnableSsl := storeFlag args "enable_ssl" s.kmwanEnableSsl
    kmwanTrackIpv4 := storeIps args "track_ipv4" false s.kmwanTrackIpv4
    kmwanTrackIpv6 := storeIps args "track_ipv6" true s.kmwanTrackIpv6 }

/-- `set_interface`, as far as the section of the member goes. -/
def setInterface (rpc : Package) (metered : Bool) (args : Json) (s : Stored) : Stored :=
  let s := applyMemberTracking env rpc metered (persistMember env args s)
  { s with enabled := storeFlag args "enabled" s.enabled }

end

section
variable {env : Env} {rpc : Package} {metered : Bool} {s : Stored} {args : Json}

theorem asList_stored (h : ∀ t ∈ l, t ≠ []) : asList (Value.list l).stored = l := by
  cases l with
  | nil => rfl
  | cons t l => exact List.filter_eq_self.2 fun t ht => by simpa using h t ht

theorem ne_nil_of_mem_asList (h : t ∈ asList v) : t ≠ [] := by
  simpa using (List.mem_filter.1 h).2

theorem ne_nil_of_mem_trackIpv4 : ∀ t ∈ (memberTracking env s).trackIpv4, t ≠ [] := by
  unfold memberTracking fallback
  dsimp only
  split_ifs
  · decide
  · exact fun t => ne_nil_of_mem_asList
  · exact fun t => ne_nil_of_mem_asList

theorem ne_nil_of_mem_active {t : Text} (h : t ∈ active (memberTracking env s)) : t ≠ [] := by
  have h4 := @ne_nil_of_mem_trackIpv4 env s t
  have h6 : t ∈ (memberTracking env s).trackIpv6 → t ≠ [] := ne_nil_of_mem_asList
  unfold active at h
  split_ifs at h with hon hp hq hq
  · exact (List.mem_append.1 h).elim h4 h6
  · exact h4 (by simpa using h)
  · exact h6 (by simpa using h)
  · cases h
  · cases h

theorem apply_cases {P : Stored → Prop} (h : P (marked (memberTracking env s) s))
    (h' : P (tuned env rpc metered (memberTracking env s) (marked (memberTracking env s) s))) :
    P (applyMemberTracking env rpc metered s) := by
  unfold applyMemberTracking
  dsimp only
  split
  · exact h
  · exact h'

theorem asList_trackIp : asList (applyMemberTracking env rpc metered s).trackIp =
    active (memberTracking env s) := by
  have hstored := asList_stored fun t ht => @ne_nil_of_mem_active env s t ht
  exact apply_cases (P := fun s' => asList s'.trackIp = _) hstored hstored

/-- What is read after the tracking has been applied: only the list that stands in for an empty one
may be another one. -/
theorem view_apply : memberTracking env (applyMemberTracking env rpc metered s) =
    { memberTracking env s with
      trackIpv4 := if asList s.kmwanTrackIpv4 = [] then
          if active (memberTracking env s) = [] then defaultIps else active (memberTracking env s)
        else asList s.kmwanTrackIpv4 } := by
  rw [← @asList_trackIp env rpc metered s]
  refine apply_cases (P := fun s' => memberTracking env s' = { memberTracking env s with
    trackIpv4 := if asList s.kmwanTrackIpv4 = [] then
        if asList s'.trackIp = [] then defaultIps else asList s'.trackIp
      else asList s.kmwanTrackIpv4 }) ?_ ?_
  · rfl
  · rfl

/-! ## Applying it twice -/

end

def digits : Env where
  tonumber t := t.head?.map fun c => ((c.toNat - '0'.toNat : Nat) : Rat)
  tostring
    | .num n => Nat.toDigits 10 n.num.toNat
    | _ => []
  tonumber_tostring := by decide

def switch (on : Bool) : Json := .obj [("enable_check", .bool on)]

/-- What a call of `set_interface` promises. -/
structure Reported (env : Env) (rpc : Package) (metered : Bool) (args : Json) (s : Stored) :
    Prop where
  proto : ∀ n : Fin 3, (arg args "track_proto").bind env.number = some ((n : Nat) : Rat) →
    (memberTracking env (setInterface env rpc metered args s)).trackProto = (n : Nat)
  enable : ∀ v, arg args "enable_check" = some v →
    (memberTracking env (setInterface env rpc metered args s)).enableCheck = Json.truthy (some v)
  ipv4 : ∀ v, arg args "track_ipv4" = some v → v.isTable = true → filterIps v false ≠ [] →
    (memberTracking env (setInterface env rpc metered args s)).trackIpv4 = filterIps v false
  ipv6 : ∀ v, arg args "track_ipv6" = some v → v.isTable = true → filterIps v true ≠ [] →
    (memberTracking env (setInterface env rpc metered args s)).trackIpv6 = filterIps v true
  apart : (∀ ip ∈ (memberTracking env (setInterface env rpc metered args s)).trackIpv4, ':' ∉ ip) ∧
    ∀ ip ∈ (memberTracking env (setInterface env rpc metered args s)).trackIpv6, ':' ∈ ip
  restored : (memberTracking env (setInterface env rpc metered args s)).enableCheck = true →
    (setInterface env rpc metered (switch true) (setInterface env rpc metered (switch false)
      (setInterface env rpc metered args s))).trackIp =
        (setInterface env rpc metered args s).trackIp

/-- The addresses that are stored are of their families, and if there are none of IPv4 where the
check is on, then mwan3 has tracked the addresses that everyone starts with. -/
structure Sound (env : Env) (s : Stored) : Prop where
  own4 : ∀ ip ∈ asList s.kmwanTrackIpv4, ':' ∉ ip
  own6 : ∀ ip ∈ asList s.kmwanTrackIpv6, ':' ∈ ip
  standIn : (memberTracking env s).enableCheck = true → asList s.kmwanTrackIpv4 = [] →
    (((memberTracking env s).trackProto = 0 ∨ (memberTracking env s).trackProto = 2) →
      fallback s = defaultIps) ∧
    (((memberTracking env s).trackProto = 1 ∨ (memberTracking env s).trackProto = 2) →
      asList s.kmwanTrackIpv6 = [])

section
variable {env : Env} {rpc : Package} {metered : Bool} {s : Stored} {args : Json}

theorem ne_nil_of_mem_filterIps : ∀ t ∈ filterIps v b, t ≠ [] := by
  intro t ht
  have := (List.mem_filter.1 ht).2
  simp only [Bool.and_eq_true, Bool.not_eq_true', List.isEmpty_eq_false_iff] at this
  exact this.1

theorem asList_storeIps {v : Json} (hv : arg args name = some v) (ht : v.isTable = true) :
    asList (storeIps args name b old) = filterIps v b := by
  rw [storeIps, hv]
  dsimp only
  rw [if_pos ht]
  exact asList_stored ne_nil_of_mem_filterIps

theorem number_storeNumber {ok : Rat → Bool} (n : Fin 3)
    (hn : (arg args name).bind env.number = some ((n : Nat) : Rat)) (hok : ok (n : Nat) = true) :
    env.numberOf (storeNumber env args name ok old) = some ((n : Nat) : Rat) := by
  rw [storeNumber, hn]
  dsimp only
  rw [if_pos hok]
  exact env.tonumber_tostring n

theorem isEnabled_storeFlag (hv : arg args name = some v) :
    isEnabled (storeFlag args name old) = Json.truthy (some v) := by
  rw [storeFlag, hv]
  dsimp only [flag]
  cases Json.truthy (some v) with
  | false => decide
  | true => decide

def fresh (s : Stored) : Stored :=
  { s with kmwanEnableCheck := some (.text ['1']), trackIp := none }

theorem restored_iff :
    ((setInterface env rpc metered (switch true) (setInterface env rpc metered (switch false)
      (setInterface env rpc metered args s))).trackIp =
        (setInterface env rpc metered args s).trackIp) ↔
      active (memberTracking env (fresh (persistMember env args s))) =
        active (memberTracking env (persistMember env args s)) := by
  have hset : asList (setInterface env rpc metered args s).trackIp =
      active (memberTracking env (persistMember env args s)) := asList_trackIp
  have hswitched : ∀ s' : Stored, (setInterface env rpc metered (switch true)
      (setInterface env rpc metered (switch false) s')).trackIp =
        (Value.list (active (memberTracking env (fresh s')))).stored := by
    intro s'
    have hoff : setInterface env rpc metered (switch false) s' =
        marked (memberTracking env (persistMember env (switch false) s'))
          (persistMember env (switch false) s') := rfl
    rw [hoff]
    exact apply_cases (P := fun s' => s'.trackIp = _) rfl rfl
  have hfresh : memberTracking env (fresh (setInterface env rpc metered args s)) =
      memberTracking env (fresh (persistMember env args s)) :=
    apply_cases (P := fun s' => memberTracking env (fresh { s' with enabled := _ }) = _) rfl rfl
  have hwritten : (setInterface env rpc metered args s).trackIp =
      (Value.list (active (memberTracking env (persistMember env args s)))).stored :=
    apply_cases (P := fun s' => s'.trackIp = _) rfl rfl
  rw [hswitched, hfresh]
  constructor
  · intro h
    rw [← hset, ← h, asList_stored fun t ht => ne_nil_of_mem_active ht]
  · intro h
    rw [h, hwritten]

theorem active_of_on (hon : (memberTracking env s).enableCheck = true) :
    active (memberTracking env s) =
      (if (memberTracking env s).trackProto = 0 ∨ (memberTracking env s).trackProto = 2 then
        (memberTracking env s).trackIpv4 else []) ++
      if (memberTracking env s).trackProto = 1 ∨ (memberTracking env s).trackProto = 2 then
        asList s.kmwanTrackIpv6 else [] := by
  rw [active, if_pos hon]
  rfl

theorem active_fresh : active (memberTracking env (fresh s)) =
    (if (memberTracking env s).trackProto = 0 ∨ (memberTracking env s).trackProto = 2 then
      if asList s.kmwanTrackIpv4 = [] then defaultIps else asList s.kmwanTrackIpv4 else []) ++
      if (memberTracking env s).trackProto = 1 ∨ (memberTracking env s).trackProto = 2 then
        asList s.kmwanTrackIpv6 else [] := rfl

theorem trackIpv4_of_own (h : asList s.kmwanTrackIpv4 ≠ []) :
    (memberTracking env s).trackIpv4 = asList s.kmwanTrackIpv4 := if_neg h

theorem trackIpv4_of_none (h : asList s.kmwanTrackIpv4 = []) :
    (memberTracking env s).trackIpv4 = fallback s := if_pos h

theorem view_setInterface : memberTracking env (setInterface env rpc metered args s) =
    memberTracking env (applyMemberTracking env rpc metered (persistMember env args s)) := rfl

theorem Sound.of_reported (h : Reported env rpc metered args s) :
    Sound env (persistMember env args s) := by
  have hapart := h.apart
  have hback := fun hon => restored_iff.1 (h.restored hon)
  rw [view_setInterface, view_apply] at hapart hback
  generalize persistMember env args s = s' at hapart hback
  obtain ⟨hv4, hv6⟩ := hapart
  dsimp only at hv4 hv6 hback
  refine ⟨?_, hv6, ?_⟩
  · by_cases hown : asList s'.kmwanTrackIpv4 = []
    · rw [hown]
      exact fun ip hip => nomatch hip
    · rwa [if_neg hown] at hv4
  · intro hon hown
    rw [if_pos hown] at hv4
    have hactive := active_of_on hon
    have hfresh := hback hon
    rw [active_fresh, hactive, if_pos hown] at hfresh
    rw [hactive] at hv4
    have hcancel := List.append_cancel_right hfresh
    refine ⟨?_, ?_⟩
    · intro hp
      rw [if_pos hp, if_pos hp, trackIpv4_of_none hown] at hcancel
      exact hcancel.symm
    · intro hp
      rw [if_pos hp] at hv4
      refine List.eq_nil_iff_forall_not_mem.2 fun ip hip => ?_
      have hmem := List.mem_append_right (if (memberTracking env s').trackProto = 0 ∨
        (memberTracking env s').trackProto = 2 then (memberTracking env s').trackIpv4 else []) hip
      rw [if_neg (List.ne_nil_of_mem hmem)] at hv4
      exact hv4 ip hmem (hv6 ip hip)

theorem Sound.active_fresh (h : Sound env s) (hon : (memberTracking env s).enableCheck = true) :
    active (memberTracking env (fresh s)) = active (memberTracking env s) := by
  rw [Multiwan.active_fresh, active_of_on hon]
  refine congrArg (· ++ _) (ite_congr rfl (fun hp => ?_) fun _ => rfl)
  by_cases hown : asList s.kmwanTrackIpv4 = []
  · rw [if_pos hown, trackIpv4_of_none hown, (h.standIn hon hown).1 hp]
  · rw [if_neg hown, trackIpv4_of_own hown]

theorem Sound.active_eq (h : Sound env s) (hown : asList s.kmwanTrackIpv4 = []) :
    active (memberTracking env s) = [] ∨ active (memberTracking env s) = defaultIps := by
  by_cases hon : (memberTracking env s).enableCheck = true
  · obtain ⟨h4, h6⟩ := h.standIn hon hown
    have hnone : (if (memberTracking env s).trackProto = 1 ∨ (memberTracking env s).trackProto = 2
        then asList s.kmwanTrackIpv6 else []) = [] := by
      split_ifs with hp
      · exact h6 hp
      · rfl
    rw [active_of_on hon, hnone, List.append_nil]
    split_ifs with hp
    · rw [trackIpv4_of_none hown]
      exact Or.inr (h4 hp)
    · exact Or.inl rfl
  · exact Or.inl (if_neg hon)

theorem Sound.reported (h : Sound env (persistMember env args s)) :
    Reported env rpc metered args s := by
  have hown : asList (persistMember env args s).kmwanTrackIpv4 ≠ [] →
      (memberTracking env (setInterface env rpc metered args s)).trackIpv4 =
        asList (persistMember env args s).kmwanTrackIpv4 := by
    intro hne
    rw [view_setInterface, view_apply]
    exact if_neg hne
  refine ⟨?_, ?_, ?_, ?_, ⟨?_, ?_⟩, ?_⟩
  · intro n hn
    rw [view_setInterface, view_apply]
    have hok : ∀ n : Fin 3, decide (((n : Nat) : Rat) = 0 ∨ ((n : Nat) : Rat) = 1 ∨
        ((n : Nat) : Rat) = 2) = true := by decide
    exact congrArg (Option.getD · 0) (number_storeNumber n hn (hok n))
  · intro v hv
    rw [view_setInterface, view_apply]
    exact isEnabled_storeFlag hv
  · intro v hv ht hne
    have hkept : asList (persistMember env args s).kmwanTrackIpv4 = filterIps v false :=
      asList_storeIps hv ht
    rw [hown (hkept ▸ hne), hkept]
  · intro v hv ht _
    rw [view_setInterface, view_apply]
    exact asList_storeIps hv ht
  · by_cases hnone : asList (persistMember env args s).kmwanTrackIpv4 = []
    · have hdefault : ∀ ip ∈ defaultIps, ':' ∉ ip := by decide
      rw [view_setInterface, view_apply]
      dsimp only
      rw [if_pos hnone]
      cases h.active_eq hnone with
      | inl hnil => rwa [if_pos hnil]
      | inr heq =>
        rw [heq]
        split_ifs
        · exact hdefault
        · exact hdefault
    · rw [hown hnone]
      exact h.own4
  · rw [view_setInterface, view_apply]
    exact h.own6
  · intro hon
    rw [view_setInterface, view_apply] at hon
    exact restored_iff.2 (h.active_fresh hon)

end

/-- A call of `set_interface` is reported as it was made, with the families apart and with addresses
that come back when the check is switched off and on, if and only if the lists it leaves are
sound. -/
theorem tracking_reported_iff (env : Env) (rpc : Package) (metered : Bool) (args : Json)
    (s : Stored) : Reported env rpc metered args s ↔ Sound env (persistMember env args s) :=
  ⟨Sound.of_reported, Sound.reported⟩

/-- Saving both families with one IPv6 address reports that address among those of IPv4. -/
theorem ipv6_among_ipv4 :
    "2606:4700:4700::1111".toList ∈ (memberTracking digits (setInterface digits .empty false
      (.obj [("track_proto", .num 2), ("track_ipv4", .arr []),
        ("track_ipv6", .arr [.str "2606:4700:4700::1111"])]) {})).trackIpv4 := by
  rw [view_setInterface, view_apply]
  decide

end GlXe3000.Oui.Multiwan
