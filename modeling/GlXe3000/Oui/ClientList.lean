import GlXe3000.Lib.Machine
import GlXe3000.Lib.Text

/-! # The client list of `clients.lua` and the history it keeps

`build_client_list` goes over the leases, then over the stations of hostapd and then over the rows
of its history, which the first two passes have changed. A client with a lease that has been on Wi-Fi
and is not now is left to the third pass, and that pass drops old rows, also those of such a
client. -/

namespace GlXe3000.Oui.ClientList

inductive Iface
  | cable | twoG | fiveG
  deriving DecidableEq

structure Lease where
  ip : Text
  hostname : Option Text

structure Row where
  ip : Option Text := none
  name : Option Text := none
  iface : Option Iface := none
  everWifi : Bool := false
  lastSeen : Option Int := none

/-- `prior.ever_wifi or prior.iface == "2G" or prior.iface == "5G"`. -/
def Row.wasWifi (r : Row) : Bool :=
  r.everWifi || r.iface = some .twoG || r.iface = some .fiveG

structure Entry where
  mac : Text
  ip : Text
  name : Text
  iface : Iface
  online : Bool
  onlineTime : Int

abbrev Table (α : Type) := AList fun _ : Text => α

structure Found where
  leases : Table Lease
  wifi : Table Iface
  band : ∀ mac, some .cable ≠ wifi.lookup mac
  /-- `wired_client_macs`. -/
  wired : Table Unit
  clientInfo : Text → Option Text
  autoRemoveOffline : Bool
  now : Int

def writeRows {α : Type} (f : Text → α → Option Row → Row) (es : List (Σ _ : Text, α))
    (rows : Table Row) : Table Row :=
  es.foldl (fun rows e => rows.insert e.1 (f e.1 e.2 (rows.lookup e.1))) rows

section
variable (i : Found)

/-- `update_traffic` gives every client it has counters of a row. -/
def counted (rows : Table Row) : Table Row :=
  writeRows (fun _ _ old => old.getD {}) i.wired.entries
    (writeRows (fun _ _ old => old.getD {}) i.wifi.entries rows)

def isLive (rows : Table Row) (mac : Text) : Bool :=
  (i.wifi.lookup mac).isSome || !(rows.lookup mac).any Row.wasWifi

def displayName (mac : Text) (l : Lease) : Text := ((i.clientInfo mac).or l.hostname).getD []

def ifaceOf (mac : Text) : Iface := (i.wifi.lookup mac).getD .cable

def leaseRow (mac : Text) (l : Lease) (old : Option Row) : Row :=
  { old.getD {} with
    ip := some l.ip
    name := some (displayName i mac l)
    iface := some (ifaceOf i mac)
    everWifi := (old.getD {}).everWifi || (i.wifi.lookup mac).isSome
    lastSeen := some i.now }

def stationRow (mac : Text) (band : Iface) (old : Option Row) : Row :=
  { old.getD {} with
    ip := some []
    name := some ((i.clientInfo mac).getD [])
    iface := some band
    everWifi := true
    lastSeen := some i.now }

def leased (rows : Table Row) : List (Σ _ : Text, Lease) :=
  i.leases.entries.filter fun e => isLive i (counted i rows) e.1

def stations (rows : Table Row) : List (Σ _ : Text, Iface) :=
  i.wifi.entries.filter fun e => e.1 ∉ (leased i rows).keys

def isSeen (rows : Table Row) (mac : Text) : Bool :=
  mac ∈ (leased i rows).keys || mac ∈ (stations i rows).keys

def retention : Int := 30 * 24 * 3600

def isExpired (r : Row) : Bool :=
  i.autoRemoveOffline && r.lastSeen.any fun t => retention < i.now - t

def refreshed (rows : Table Row) : Table Row :=
  writeRows (stationRow i) (stations i rows)
    (writeRows (leaseRow i) (leased i rows) (counted i rows))

def isDropped (rows : Table Row) (e : Σ _ : Text, Row) : Bool :=
  !isSeen i rows e.1 && isExpired i e.2

def leaseEntry (e : Σ _ : Text, Lease) : Entry :=
  ⟨e.1, e.2.ip, displayName i e.1 e.2, ifaceOf i e.1, true, i.now⟩

def stationEntry (e : Σ _ : Text, Iface) : Entry :=
  ⟨e.1, [], (i.clientInfo e.1).getD [], e.2, true, i.now⟩

def historyEntry (e : Σ _ : Text, Row) : Entry :=
  ⟨e.1, e.2.ip.getD [], ((i.clientInfo e.1).or e.2.name).getD [], e.2.iface.getD .cable, false,
    e.2.lastSeen.getD 0⟩

def offline (rows : Table Row) : List (Σ _ : Text, Row) :=
  (refreshed i rows).entries.filter fun e => !isSeen i rows e.1 && !isExpired i e.2

def buildClientList (rows : Table Row) : List Entry :=
  (leased i rows).map (leaseEntry i) ++ (stations i rows).map (stationEntry i) ++
    (offline i rows).map (historyEntry i)

def saved (rows : Table Row) : Table Row :=
  ⟨(refreshed i rows).entries.filter fun e => !isDropped i rows e,
    (refreshed i rows).nodupKeys.sublist List.filter_sublist⟩

end

/-! ## Rows -/

section
variable {i : Found} {rows : Table Row} {mac : Text}

theorem lookup_writeRows {α : Type} {f : Text → α → Option Row → Row} {es : List (Σ _ : Text, α)}
    (hes : es.NodupKeys) : (writeRows f es rows).lookup mac =
      (es.dlookup mac).elim (rows.lookup mac) fun a => some (f mac a (rows.lookup mac)) := by
  induction es generalizing rows with
  | nil => rfl
  | cons e es ih =>
    obtain ⟨hnot, hes⟩ := List.nodupKeys_cons.1 hes
    refine (ih hes).trans ?_
    by_cases h : mac = e.1
    · subst h
      obtain ⟨k, a⟩ := e
      rw [List.dlookup_eq_none.2 hnot, List.dlookup_cons_eq]
      exact AList.lookup_insert _
    · rw [List.dlookup_cons_ne _ _ h, AList.lookup_insert_ne h]

theorem nodupKeys_leased : (leased i rows).NodupKeys :=
  i.leases.nodupKeys.sublist List.filter_sublist

theorem nodupKeys_stations : (stations i rows).NodupKeys :=
  i.wifi.nodupKeys.sublist List.filter_sublist

theorem lookup_counted (h : rows.lookup mac = some r) : (counted i rows).lookup mac = some r := by
  have hkept : ∀ {α : Type} (t : Table α) (rows : Table Row), rows.lookup mac = some r →
      (writeRows (fun _ _ old => old.getD {}) t.entries rows).lookup mac = some r := by
    intro α t rows h
    rw [lookup_writeRows t.nodupKeys, h]
    cases t.entries.dlookup mac with
    | none => rfl
    | some a => rfl
  exact hkept _ _ (hkept _ _ h)

theorem of_lookup_counted (h : (counted i rows).lookup mac = some r) :
    rows.lookup mac = some r ∨ r = {} := by
  cases hr : rows.lookup mac with
  | some r' => exact Or.inl ((lookup_counted hr).symm.trans h)
  | none =>
    refine Or.inr ?_
    rw [counted, lookup_writeRows i.wired.nodupKeys, lookup_writeRows i.wifi.nodupKeys, hr] at h
    cases hw : i.wifi.entries.dlookup mac <;> cases hm : i.wired.entries.dlookup mac <;>
      simp_all

theorem mem_leased_keys : mac ∈ (leased i rows).keys ↔
    (i.leases.lookup mac).isSome = true ∧ isLive i (counted i rows) mac = true := by
  rw [AList.lookup_isSome, AList.mem_keys, AList.keys, leased]
  simp only [List.mem_keys, List.mem_filter, exists_and_right]

theorem mem_stations_keys : mac ∈ (stations i rows).keys ↔
    (i.wifi.lookup mac).isSome = true ∧ mac ∉ (leased i rows).keys := by
  rw [AList.lookup_isSome, AList.mem_keys, AList.keys, stations]
  simp only [List.mem_keys, List.mem_filter, decide_eq_true_eq, exists_and_right]

theorem isSeen_of_wifi (h : (i.wifi.lookup mac).isSome = true) : isSeen i rows mac = true := by
  by_cases hl : mac ∈ (leased i rows).keys
  · simp [isSeen, hl]
  · simp [isSeen, mem_stations_keys.2 ⟨h, hl⟩]

theorem lookup_refreshed_of_not_seen (h : isSeen i rows mac = false) :
    (refreshed i rows).lookup mac = (counted i rows).lookup mac := by
  simp only [isSeen, Bool.or_eq_false_iff, decide_eq_false_iff_not] at h
  rw [refreshed, lookup_writeRows nodupKeys_stations, List.dlookup_eq_none.2 h.2, Option.elim_none,
    lookup_writeRows nodupKeys_leased, List.dlookup_eq_none.2 h.1, Option.elim_none]

theorem not_seen_of_wasWifi {r : Row} (h : rows.lookup mac = some r) (hwas : r.wasWifi = true)
    (hwifi : i.wifi.lookup mac = none) : isSeen i rows mac = false := by
  have hleased : mac ∉ (leased i rows).keys := by
    rw [mem_leased_keys]
    simp [isLive, hwifi, lookup_counted h, hwas]
  have hstation : mac ∉ (stations i rows).keys := by
    rw [mem_stations_keys]
    simp [hwifi]
  simp [isSeen, hleased, hstation]

theorem lookup_saved : (saved i rows).lookup mac = some r ↔
    (refreshed i rows).lookup mac = some r ∧ isDropped i rows ⟨mac, r⟩ = false := by
  have hmem : ∀ {t : Table Row}, t.lookup mac = some r ↔ (⟨mac, r⟩ : Σ _ : Text, Row) ∈ t.entries :=
    fun {t} => AList.mem_lookup_iff
  rw [hmem, hmem, saved]
  simp [List.mem_filter]

theorem lookup_refreshed_lease (hl : i.leases.lookup mac = some l)
    (hlive : isLive i (counted i rows) mac = true) : (refreshed i rows).lookup mac =
      some (leaseRow i mac l ((counted i rows).lookup mac)) := by
  have hmem : (⟨mac, l⟩ : Σ _ : Text, Lease) ∈ leased i rows :=
    List.mem_filter.2 ⟨AList.mem_lookup_iff.1 hl, hlive⟩
  have hnot : mac ∉ (stations i rows).keys := fun h =>
    (mem_stations_keys.1 h).2 (List.mem_keys_of_mem hmem)
  rw [refreshed, lookup_writeRows nodupKeys_stations, List.dlookup_eq_none.2 hnot, Option.elim_none,
    lookup_writeRows nodupKeys_leased, List.mem_dlookup nodupKeys_leased hmem, Option.elim_some]

theorem lookup_refreshed_station (hw : i.wifi.lookup mac = some band)
    (hl : i.leases.lookup mac = none) : (refreshed i rows).lookup mac =
      some (stationRow i mac band ((counted i rows).lookup mac)) := by
  have hnot : mac ∉ (leased i rows).keys := fun h => by simpa [hl] using (mem_leased_keys.1 h).1
  have hmem : (⟨mac, band⟩ : Σ _ : Text, Iface) ∈ stations i rows :=
    List.mem_filter.2 ⟨AList.mem_lookup_iff.1 hw, by simpa using hnot⟩
  rw [refreshed, lookup_writeRows nodupKeys_stations, List.mem_dlookup nodupKeys_stations hmem,
    Option.elim_some, lookup_writeRows nodupKeys_leased, List.dlookup_eq_none.2 hnot,
    Option.elim_none]

/-! ## Entries -/

theorem macs_buildClientList : (buildClientList i rows).map Entry.mac =
    (leased i rows).keys ++ (stations i rows).keys ++ (offline i rows).keys := by
  simp only [buildClientList, List.map_append, List.map_map]
  rfl

theorem mem_offline_keys : mac ∈ (offline i rows).keys ↔ isSeen i rows mac = false ∧
    ∃ r, (counted i rows).lookup mac = some r ∧ isExpired i r = false := by
  have hmem : ∀ r, (⟨mac, r⟩ : Σ _ : Text, Row) ∈ (refreshed i rows).entries ↔
      (refreshed i rows).lookup mac = some r := fun r => AList.mem_lookup_iff.symm
  simp only [offline, List.mem_keys, List.mem_filter, hmem, Bool.and_eq_true, Bool.not_eq_true']
  constructor
  · rintro ⟨r, hr, hseen, hexp⟩
    exact ⟨hseen, r, (lookup_refreshed_of_not_seen hseen).symm.trans hr, hexp⟩
  · rintro ⟨hseen, r, hr, hexp⟩
    exact ⟨r, (lookup_refreshed_of_not_seen hseen).trans hr, hseen, hexp⟩

theorem nodup_macs : ((buildClientList i rows).map Entry.mac).Nodup := by
  rw [macs_buildClientList]
  refine List.nodup_append.2 ⟨List.nodup_append.2 ⟨nodupKeys_leased, nodupKeys_stations, ?_⟩,
    (refreshed i rows).nodupKeys.sublist List.filter_sublist, ?_⟩
  · rintro mac hl _ hs rfl
    exact (mem_stations_keys.1 hs).2 hl
  · rintro mac hseen _ hoff rfl
    have hnot := (mem_offline_keys.1 hoff).1
    simp only [isSeen, Bool.or_eq_false_iff, decide_eq_false_iff_not] at hnot
    exact (List.mem_append.1 hseen).elim hnot.1 hnot.2

theorem mem_macs : mac ∈ (buildClientList i rows).map Entry.mac ↔ isSeen i rows mac = true ∨
    mac ∈ (offline i rows).keys := by
  rw [macs_buildClientList, List.mem_append, List.mem_append]
  simp [isSeen]

end

/-! ## One list after the other -/

structure Sighting where
  iface : Iface
  ip : Text
  name : Text

structure State where
  rows : Table Row
  last : Text → Option Sighting

def sighting (i : Found) (mac : Text) (band : Iface) : Sighting :=
  match i.leases.lookup mac with
  | some l => ⟨band, l.ip, displayName i mac l⟩
  | none => ⟨band, [], (i.clientInfo mac).getD []⟩

def machine : Machine State Found where
  step s i :=
    { rows := saved i s.rows
      last := fun mac => ((i.wifi.lookup mac).map (sighting i mac)).or (s.last mac) }

def Fresh (s : State) (i : Found) : Prop :=
  ∀ mac r, s.rows.lookup mac = some r → r.wasWifi = true → i.wifi.lookup mac = none →
    isExpired i r = false

def Records (r : Row) (x : Sighting) : Prop :=
  r.wasWifi = true ∧ r.iface = some x.iface ∧ r.ip = some x.ip ∧ r.name = some x.name

def Remembers (s : State) : Prop :=
  ∀ mac x, s.last mac = some x → ∃ r, s.rows.lookup mac = some r ∧ Records r x

structure Listed (s : State) (i : Found) : Prop where
  once : ((buildClientList i s.rows).map Entry.mac).Nodup
  all : ∀ mac, (i.leases.lookup mac).isSome = true ∨ (i.wifi.lookup mac).isSome = true ∨
    (∃ r, s.rows.lookup mac = some r ∧ isExpired i r = false) →
      mac ∈ (buildClientList i s.rows).map Entry.mac
  associated : ∀ mac, (i.wifi.lookup mac).isSome = true →
    ∃ e ∈ buildClientList i s.rows, e.mac = mac ∧ e.online = true
  away : ∀ mac x, (i.leases.lookup mac).isSome = true → i.wifi.lookup mac = none →
    s.last mac = some x → ∃ e ∈ buildClientList i s.rows, e.mac = mac ∧ e.online = false ∧
      e.iface = x.iface ∧ e.ip = x.ip ∧ e.name = (i.clientInfo mac).getD x.name

theorem step_remembers (hfresh : Fresh s i) (h : Remembers s) : Remembers (machine.step s i) := by
  intro mac x hx
  cases hw : i.wifi.lookup mac with
  | none =>
    have hlast : s.last mac = some x := by simpa [machine, hw] using hx
    obtain ⟨r, hr, hrec⟩ := h mac x hlast
    have hseen := not_seen_of_wasWifi hr hrec.1 hw
    refine ⟨r, lookup_saved.2 ⟨?_, ?_⟩, hrec⟩
    · rw [lookup_refreshed_of_not_seen hseen, lookup_counted hr]
    · simp [isDropped, hfresh mac r hr hrec.1 hw]
  | some band =>
    have hxeq : sighting i mac band = x := by simpa [machine, hw] using hx
    have hseen : isSeen i s.rows mac = true := isSeen_of_wifi (by simp [hw])
    subst hxeq
    cases hl : i.leases.lookup mac with
    | none =>
      refine ⟨_, lookup_saved.2 ⟨lookup_refreshed_station hw hl, by simp [isDropped, hseen]⟩, ?_⟩
      simp [Records, Row.wasWifi, stationRow, sighting, hl]
    | some l =>
      have hlive : isLive i (counted i s.rows) mac = true := by simp [isLive, hw]
      refine ⟨_, lookup_saved.2 ⟨lookup_refreshed_lease hl hlive, by simp [isDropped, hseen]⟩, ?_⟩
      simp [Records, Row.wasWifi, leaseRow, ifaceOf, sighting, hl, hw]

theorem Remembers.listed (h : Remembers s) (hfresh : Fresh s i) : Listed s i := by
  refine ⟨nodup_macs, fun mac hmac => ?_, fun mac hw => ?_, fun mac x _ hw hlast => ?_⟩
  · by_cases hseen : isSeen i s.rows mac = true
    · exact mem_macs.2 (Or.inl hseen)
    rw [Bool.not_eq_true] at hseen
    refine mem_macs.2 (Or.inr (mem_offline_keys.2 ⟨hseen, ?_⟩))
    rcases hmac with hl | hw | ⟨r, hr, hexp⟩
    · -- the lease is left to the third pass, so there is a row of the time on Wi-Fi
      have hlive : isLive i (counted i s.rows) mac = false := by
        rw [← Bool.not_eq_true]
        intro hlive
        simp [isSeen, mem_leased_keys.2 ⟨hl, hlive⟩] at hseen
      simp only [isLive, Bool.or_eq_false_iff, Option.isSome_eq_false_iff,
        Option.isNone_iff_eq_none, Bool.not_eq_false', Option.any_eq_true] at hlive
      obtain ⟨hw, r, hr, hwas⟩ := hlive
      rcases of_lookup_counted hr with hold | rfl
      · exact ⟨r, hr, hfresh mac r hold hwas hw⟩
      · cases hwas
    · rw [isSeen_of_wifi hw] at hseen
      cases hseen
    · exact ⟨r, lookup_counted hr, hexp⟩
  · obtain ⟨band, hband⟩ := Option.isSome_iff_exists.1 hw
    by_cases hl : mac ∈ (leased i s.rows).keys
    · obtain ⟨l, hmem⟩ := List.exists_of_mem_keys hl
      exact ⟨leaseEntry i ⟨mac, l⟩, by simp [buildClientList, List.mem_map_of_mem hmem], rfl, rfl⟩
    · have hmem : (⟨mac, band⟩ : Σ _ : Text, Iface) ∈ stations i s.rows :=
        List.mem_filter.2 ⟨AList.mem_lookup_iff.1 hband, by simpa using hl⟩
      exact ⟨stationEntry i ⟨mac, band⟩, by simp [buildClientList, List.mem_map_of_mem hmem], rfl,
        rfl⟩
  · obtain ⟨r, hr, hwas, hiface, hip, hname⟩ := h mac x hlast
    have hseen := not_seen_of_wasWifi hr hwas hw
    have hmem : (⟨mac, r⟩ : Σ _ : Text, Row) ∈ offline i s.rows := by
      refine List.mem_filter.2 ⟨AList.mem_lookup_iff.1 ?_, by simp [hseen, hfresh mac r hr hwas hw]⟩
      exact (lookup_refreshed_of_not_seen hseen).trans (lookup_counted hr)
    refine ⟨historyEntry i ⟨mac, r⟩, by simp [buildClientList, List.mem_map_of_mem hmem], rfl, rfl,
      ?_, ?_, ?_⟩
    · simp [historyEntry, hiface]
    · simp [historyEntry, hip]
    · cases hc : i.clientInfo mac <;> simp [historyEntry, hname, hc]

/-- In every run from any history in which no row of a client that has been on Wi-Fi gets too old,
every list is as it should be. -/
theorem clients_listed {rows : Table Row} {is : List Found} {i : Found}
    (h : machine.Admits Fresh ⟨rows, fun _ => none⟩ (is ++ [i])) :
    Listed (machine.run ⟨rows, fun _ => none⟩ is) i := by
  obtain ⟨hrun, hlast⟩ := Machine.admits_append.1 h
  have hremembers : Remembers (machine.run ⟨rows, fun _ => none⟩ is) :=
    Machine.invariant (fun _ _ hfresh hI => step_remembers hfresh hI) hrun nofun
  exact hremembers.listed hlast.1

def phone (wifi : Bool) (now : Int) : Found where
  leases := AList.singleton [] ⟨"192.168.8.100", none⟩
  wifi := if wifi then AList.singleton [] .fiveG else ∅
  band mac := by
    cases wifi
    · simp
    · by_cases h : mac = [] <;> simp [AList.lookup, AList.singleton, List.dlookup, h]
  wired := ∅
  clientInfo _ := none
  autoRemoveOffline := true
  now := now

theorem clients_listed_phone :
    Listed (machine.run ⟨∅, fun _ => none⟩ [phone true 0]) (phone false 60) := by
  refine clients_listed ⟨nofun, fun mac r hr _ _ => ?_, trivial⟩
  have hmem : (⟨mac, r⟩ : Σ _ : Text, Row) ∈
      [⟨[], ⟨some "192.168.8.100", some [], some .fiveG, true, some 0⟩⟩] :=
    AList.mem_lookup_iff.1 hr
  cases List.mem_singleton.1 hmem
  rfl

/-- After more than thirty days a phone with a lease is on no list, and then it is on the cable. -/
theorem phone_dropped :
    buildClientList (phone false 2592001)
        (machine.run ⟨∅, fun _ => none⟩ [phone true 0]).rows = [] ∧
      buildClientList (phone false 2592002)
        (machine.run ⟨∅, fun _ => none⟩ [phone true 0, phone false 2592001]).rows =
        [⟨[], "192.168.8.100", [], .cable, true, 2592002⟩] := by
  constructor
  · rfl
  · rfl

end GlXe3000.Oui.ClientList
