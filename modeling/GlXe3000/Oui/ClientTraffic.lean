import GlXe3000.Lib.Machine
import GlXe3000.Lib.Text

/-! # The traffic totals of the client list: `update_traffic` of `clients.lua`

A client is counted by hostapd while it is on Wi-Fi and by a meter of the firewall while it is not.
The meter goes on counting what a Wi-Fi client forwards. The list keeps one last value for both, and
forgets it when the totals are cleaned. -/

namespace GlXe3000.Oui.ClientTraffic

inductive Way
  | rx | tx
  deriving DecidableEq

inductive Source
  | wifi | wired
  deriving DecidableEq

/-- `raw_rx` and `total_rx` of a row, or the same for `tx`. -/
structure Tally where
  raw : Option Nat := none
  total : Option Nat := none

/-- What a counter has counted since its last value; a smaller value is that of a new counter. -/
def delta (old : Option Nat) (raw : Nat) : Nat :=
  match old with
  | some last => if last ≤ raw then raw - last else raw
  | none => 0

/-- A row after `update_traffic`. -/
def Tally.update (t : Tally) (raw : Nat) : Tally :=
  ⟨some raw, some (t.total.getD raw + delta t.raw raw)⟩

/-- What `update_traffic` gets for a client: the meter only if hostapd does not have it. -/
def trafficSource (associated metered : Text → Bool) (mac : Text) : Option Source :=
  if associated mac then some .wifi else if metered mac then some .wired else none

structure Client where
  tally : Tally := {}
  counter : Source → Nat := fun _ => 0
  sent : Nat := 0
  start : Source → Nat := fun _ => 0
  /-- Those that were at the last `clean_traffic`. -/
  cleaned : Nat := 0
  last : Option (Source × Nat) := none
  base : Nat := 0

namespace Client

def transfer (n : Nat) (medium : Source) (forwarded : Bool) (c : Client) : Client :=
  { c with
    sent := c.sent + n
    counter := fun
      | .wifi => c.counter .wifi + if medium = .wifi then n else 0
      | .wired => c.counter .wired + if forwarded then n else 0 }

def restart (src : Source) (c : Client) : Client :=
  { c with
    counter := Function.update c.counter src 0
    start := Function.update c.start src c.sent }

def sample (src : Source) (c : Client) : Client :=
  { c with
    tally := c.tally.update (c.counter src)
    last := some (src, c.sent)
    base := if c.tally.total.isNone then max (c.start src) c.cleaned else c.base }

def clean (c : Client) : Client :=
  { c with tally := {}, last := none, cleaned := c.sent, base := c.sent }

def forget (c : Client) : Client := { c with tally := {}, last := none, base := c.cleaned }

def reported (c : Client) : Nat := c.tally.total.getD 0

end Client

inductive Event
  | transfer (mac : Text) (way : Way) (n : Nat) (medium : Source) (forwarded : Bool)
  | restart (mac : Text) (src : Source)
  | list (associated metered : Text → Bool)
  | cleanTraffic
  | forget (mac : Text)

abbrev Clients := Text → Way → Client

def step (s : Clients) : Event → Clients
  | .transfer mac way n medium forwarded => fun m w =>
    if m = mac ∧ w = way then (s m w).transfer n medium forwarded else s m w
  | .restart mac src => fun m w => if m = mac then (s m w).restart src else s m w
  | .list associated metered => fun m w =>
    (trafficSource associated metered m).elim (s m w) fun src => (s m w).sample src
  | .cleanTraffic => fun m w => (s m w).clean
  | .forget mac => fun m w => if m = mac then (s m w).forget else s m w

def machine : Machine Clients Event := ⟨step⟩

/-- The counter started after the last clean if the row is a new one, and otherwise it is that of
the last sample or started after it. -/
def Client.Follows (c : Client) (src : Source) : Prop :=
  (c.tally.total = none → c.cleaned ≤ c.start src) ∧
    ∀ last ∈ c.last, last.1 = src ∨ last.2 ≤ c.start src

def Follows (s : Clients) : Event → Prop
  | .list associated metered => ∀ m w, ∀ src ∈ trafficSource associated metered m,
    (s m w).Follows src
  | _ => True

/-- What was counted was transferred, by each counter since its start and by the source of the last
sample since then, unless it started again. -/
structure Backed (c : Client) : Prop where
  counter : ∀ src, c.start src + c.counter src ≤ c.sent
  cleaned : c.cleaned ≤ c.sent
  base : c.tally.total = none → c.base ≤ c.sent
  total : ∀ n ∈ c.tally.total, ∀ last ∈ c.last, c.base + n ≤ last.2 ∧ last.2 ≤ c.sent
  raw : ∀ r ∈ c.tally.raw, ∀ last ∈ c.last,
    last.2 ≤ c.start last.1 ∨ r ≤ c.counter last.1 ∧ c.counter last.1 + last.2 ≤ r + c.sent
  together : c.tally.raw.isSome = c.last.isSome ∧ c.tally.total.isSome = c.last.isSome

namespace Backed
variable {c : Client}

theorem transfer (h : Backed c) (n : Nat) (medium : Source) (forwarded : Bool) :
    Backed (c.transfer n medium forwarded) := by
  have hgrown : ∀ src, c.counter src ≤ (c.transfer n medium forwarded).counter src ∧
      (c.transfer n medium forwarded).counter src ≤ c.counter src + n := by
    intro src
    cases src <;> dsimp only [Client.transfer] <;> split_ifs <;> omega
  refine ⟨fun src => ?_, Nat.le_add_right_of_le h.cleaned, fun ht => ?_, fun m hm last hl => ?_,
    fun r hr last hl => ?_, h.together⟩
  · have hold : (c.transfer n medium forwarded).start src + c.counter src ≤ c.sent := h.counter src
    have hsent : (c.transfer n medium forwarded).sent = c.sent + n := rfl
    have := hgrown src
    omega
  · exact Nat.le_add_right_of_le (h.base ht)
  · obtain ⟨htotal, hlast⟩ := h.total m hm last hl
    exact ⟨htotal, Nat.le_add_right_of_le hlast⟩
  · refine (h.raw r hr last hl).imp_right fun ⟨hle, hsince⟩ => ?_
    have hsent : (c.transfer n medium forwarded).sent = c.sent + n := rfl
    have := hgrown last.1
    omega

theorem restart (h : Backed c) (src : Source) : Backed (c.restart src) := by
  refine ⟨fun src' => ?_, h.cleaned, h.base, h.total, fun r hr last hl => ?_, h.together⟩
  · by_cases heq : src' = src
    · subst heq
      simp [Client.restart]
    · simpa [Client.restart, heq] using h.counter src'
  · by_cases heq : last.1 = src
    · obtain ⟨n, hn⟩ := Option.isSome_iff_exists.1
        (h.together.2.trans (Option.isSome_iff_exists.2 ⟨last, hl⟩))
      refine Or.inl ?_
      simpa [Client.restart, heq] using (h.total n hn last hl).2
    · simpa [Client.restart, heq] using h.raw r hr last hl

theorem clean (h : Backed c) : Backed c.clean :=
  ⟨h.counter, Nat.le_refl _, fun _ => Nat.le_refl _, nofun, nofun, rfl, rfl⟩

theorem forget (h : Backed c) : Backed c.forget :=
  ⟨h.counter, h.cleaned, fun _ => h.cleaned, nofun, nofun, rfl, rfl⟩

theorem delta_le (h : Backed c) {last : Source × Nat}
    (hr : r ∈ c.tally.raw) (hl : last ∈ c.last) (hsrc : last.1 = src ∨ last.2 ≤ c.start src) :
    delta (some r) (c.counter src) + last.2 ≤ c.sent := by
  have hcounter := h.counter src
  have hstarted : last.2 ≤ c.start src → delta (some r) (c.counter src) + last.2 ≤ c.sent := by
    intro hstart
    dsimp only [delta]
    split_ifs <;> omega
  rcases hsrc with hsame | hstart
  · subst hsame
    rcases h.raw r hr last hl with hstart | ⟨hle, hsince⟩
    · exact hstarted hstart
    · dsimp only [delta]
      rw [if_pos hle]
      omega
  · exact hstarted hstart

theorem sample (h : Backed c) (hsrc : c.Follows src) : Backed (c.sample src) := by
  have hcounter := h.counter src
  refine ⟨h.counter, h.cleaned, nofun, ?_, ?_, rfl, rfl⟩
  · rintro _ ⟨⟩ _ ⟨⟩
    refine ⟨?_, Nat.le_refl _⟩
    cases hl : c.last with
    | none =>
      -- a new row: the total is the whole counter
      have hnone : c.tally.total = none := by simpa [hl] using h.together.2
      have hraw : c.tally.raw = none := by simpa [hl] using h.together.1
      have hclean := hsrc.1 hnone
      simp only [Client.sample, hnone, hraw, delta, Option.isNone_none, if_true, Option.getD_none]
      omega
    | some last =>
      obtain ⟨n, hn⟩ := Option.isSome_iff_exists.1 (h.together.2.trans (by simp [hl]))
      obtain ⟨r, hr⟩ := Option.isSome_iff_exists.1 (h.together.1.trans (by simp [hl]))
      have htotal := (h.total n hn last hl).1
      have hdelta := h.delta_le hr hl (hsrc.2 last hl)
      simp only [Client.sample, hn, hr, Option.isNone_some, Option.getD_some]
      simp only [Bool.false_eq_true, if_false]
      omega
  · rintro _ ⟨⟩ _ ⟨⟩
    exact Or.inr ⟨Nat.le_refl _, Nat.le_refl _⟩

theorem reported_le (h : Backed c) : c.base + c.reported ≤ c.sent := by
  cases ht : c.tally.total with
  | none => simpa [Client.reported, ht] using h.base ht
  | some n =>
    obtain ⟨last, hl⟩ := Option.isSome_iff_exists.1 (h.together.2.symm.trans (by simp [ht]))
    obtain ⟨htotal, hlast⟩ := h.total n ht last hl
    simpa [Client.reported, ht] using Nat.le_trans htotal hlast

end Backed

theorem step_backed (hfollows : Follows s e)
    (h : ∀ m w, Backed (s m w)) : ∀ m w, Backed (machine.step s e m w) := by
  intro m w
  cases e with
  | transfer mac way n medium forwarded =>
    show Backed (if _ then _ else _)
    split_ifs
    · exact (h m w).transfer n medium forwarded
    · exact h m w
  | restart mac src =>
    show Backed (if _ then _ else _)
    split_ifs
    · exact (h m w).restart src
    · exact h m w
  | list associated metered =>
    show Backed (Option.elim _ _ _)
    cases hsrc : trafficSource associated metered m with
    | none => exact h m w
    | some src => exact (h m w).sample (hfollows m w src hsrc)
  | cleanTraffic => exact (h m w).clean
  | forget mac =>
    show Backed (if _ then _ else _)
    split_ifs
    · exact (h m w).forget
    · exact h m w

def initial : Clients := fun _ _ => {}

/-- In every run in which the samples follow, the total of a client is at most what it transferred
since the later of the first sighting's counter start and the last clean. -/
theorem totals_backed {es : List Event} (h : machine.Admits Follows initial es) (mac : Text)
    (way : Way) :
    (machine.run initial es mac way).base + (machine.run initial es mac way).reported ≤
      (machine.run initial es mac way).sent := by
  have hinit : ∀ m w, Backed (initial m w) := fun _ _ =>
    ⟨fun _ => Nat.le_refl _, Nat.le_refl _, fun _ => Nat.le_refl _, nofun, nofun, rfl, rfl⟩
  exact (Machine.invariant (I := fun s : Clients => ∀ m w, Backed (s m w))
    (fun _ _ hfollows hI => step_backed hfollows hI) h hinit mac way).reported_le

def cleanedOnce : List Event :=
  [.transfer [] .rx 1000 .wifi true, .list (fun _ => true) (fun _ => true), .cleanTraffic]

/-- The first list counts what hostapd did. -/
theorem totals_backed_cleanedOnce : machine.Admits Follows initial cleanedOnce ∧
    (machine.run initial cleanedOnce [] .rx).base +
      (machine.run initial cleanedOnce [] .rx).reported ≤
      (machine.run initial cleanedOnce [] .rx).sent := by
  have hlist : Follows (machine.step initial (.transfer [] .rx 1000 .wifi true))
      (.list (fun _ => true) (fun _ => true)) := by
    intro m w src _
    show Client.Follows (if _ then _ else _) src
    split_ifs
    · exact ⟨fun _ => Nat.zero_le _, nofun⟩
    · exact ⟨fun _ => Nat.zero_le _, nofun⟩
  have h : machine.Admits Follows initial cleanedOnce := ⟨trivial, hlist, trivial, trivial⟩
  exact ⟨h, totals_backed h [] .rx⟩

def listedAgain : List Event := cleanedOnce ++ [.list (fun _ => true) (fun _ => true)]

/-- It reports the bytes from before the clean. -/
theorem cleaned_traffic_reported : (machine.run initial listedAgain [] .rx).reported = 1000 ∧
    (machine.run initial listedAgain [] .rx).base = 1000 ∧
    (machine.run initial listedAgain [] .rx).sent = 1000 := by
  decide

end GlXe3000.Oui.ClientTraffic
