import GlXe3000.Lib.Rely
import GlXe3000.Cellular.Radio.Requests

/-! # What a request reports

The cached table and the 5G table it refers to are shared by everyone; a copy belongs to the request
that made it. A request relies on both to stay as they are, and guarantees to the others to write to
nothing but its own copy and to make no samples. So it sees throughout what there was when it took
its copy, and its reply is the `report` of that (`sat_request`). -/

namespace GlXe3000.Cellular.Radio.Daemon
open Text Terms

/-! ## What is reported -/

def promoted (p : Picture) : Picture :=
  match p.nr with
  | none => p
  | some n => { p with cell := nrValues n p.cell, lteAnchor := some (anchorFields p.cell) }

def labelled (label : Option Text) (p : Picture) : Picture :=
  { p with cell := { p.cell with id := presentedId p.cell p.lteAnchor.isSome label } }

/-- What `networks_info` presents for a cell. -/
def presented (p : Picture) : Picture :=
  let q := labelled (enbLabel p.cell.cellId) (promoted p)
  { q with cell := addSignalLevels q.cell }

def pinOf (lua : Lua) (o : Outside) : Nat × Option Rat :=
  pinStatus lua (o (.sendAt .cpin))
    (if asksPin (o (.sendAt .cpin)) then o (.sendAt .qpinc) else none)

/-- The reply to a request that sees `v` and is told `o`. -/
def report (lua : Lua) (o : Outside) (v : View) : Method → Reply
  | .networksInfo => .networksInfo <|
      networksInfoReply (o (.status .wwan4)) (o (.status .wwan6)) (o (.sendAt .cops))
        (o (.sendAt .cnum)) (o (.config .modes)) (o (.config .apn)) (o .traffic)
        ((v.cell.map presented).getD {})
  | .networksStatus => .networksStatus <|
      networksStatusReply (o (.status .wwan)) (o (.status .wwan4)) (o (.status .wwan6))
        (o (.config .dialEnabled)) (o .traffic) (v.cell.getD {})
  | .simsStatus => .simsStatus <|
      simsStatusReply (pinOf lua o) (o (.sendAt .cops)) (o (.sendAt .qccid)) (o (.sendAt .qnwinfo))
        (o (.config .apn)) (v.cell.getD {})
  | .simCardEntry => .simCardEntry <|
      simCardReply (pinOf lua o) (o (.sendAt .qccid)) (o (.sendAt .cops)) (o (.sendAt .qnwinfo))
        (o (.status .wwan)) (o (.config .simName)) (o (.config .apn)) (o (.sendAt .cimi))
        (o .traffic) (v.cell.getD {})
  | .cellInfo => .cellInfo (cellInfoReply lua (o (.sendAt .qcainfo)) (v.cell.getD {}))
  | .signalsHistory time => .signalsHistory <|
      signalsHistoryReply time (o (.time .history)) v.samples

/-! ## Terms -/

def Points (h : Heap Nat Table) (ok : Option Nat → Ref → Prop) : Option Ref → Option Fields → Prop
  | none, none => True
  | some r, some f => ∃ o t, ok o r ∧ h.At o r t ∧ t.toFields = f
  | _, _ => False

/-- The table `t`, with those it refers to, shows `p`. -/
structure Shows (h : Heap Nat Table) (ok : Option Nat → Ref → Prop) (t : Table) (p : Picture) :
    Prop where
  cell : t.toFields = p.cell
  nr : Points h ok t.nr p.nr
  lteAnchor : Points h ok t.lteAnchor p.lteAnchor

def Shared : Option Nat → Ref → Prop := fun o _ => o = none

/-- The tables that a table of request `i` may refer to. -/
def Beside (i : Nat) (r : Ref) : Option Nat → Ref → Prop := fun o n => Heap.Visible i o ∧ n ≠ r

def IsShared (h : Heap Nat Table) (r : Ref) (p : Picture) : Prop :=
  ∃ t, h.At none r t ∧ Shows h Shared t p

section
variable {h h' : Heap Nat Table} {ok ok' : Option Nat → Ref → Prop} {t : Table} {p : Picture}

theorem Points.mono (hk : ∀ o r t, ok o r → h.At o r t → ok' o r ∧ h'.At o r t) (hp : Points h ok ref f) :
    Points h' ok' ref f := by
  cases ref with
  | none => cases f with
    | none => trivial
    | some f => cases hp
  | some r => cases f with
    | none => cases hp
    | some f =>
      obtain ⟨o, t, ho, ht, hf⟩ := hp
      exact ⟨o, t, (hk o r t ho ht).1, (hk o r t ho ht).2, hf⟩

theorem Shows.mono (hk : ∀ o r t, ok o r → h.At o r t → ok' o r ∧ h'.At o r t)
    (hs : Shows h ok t p) : Shows h' ok' t p := ⟨hs.cell, hs.nr.mono hk, hs.lteAnchor.mono hk⟩

theorem Shows.keep (hs : Shows h (Beside i r) t p) (hk : Heap.Keeps i h h') :
    Shows h' (Beside i r) t p := hs.mono fun o r t ho ht => ⟨ho, hk o r t ho.1 ht⟩

theorem IsShared.keep (hs : IsShared h r p) (hk : Heap.Keeps i h h') : IsShared h' r p := by
  obtain ⟨t, ht, hshows⟩ := hs
  refine ⟨t, hk none r t (.inl rfl) ht, hshows.mono ?_⟩
  rintro o r t rfl ht
  exact ⟨rfl, hk none r t (.inl rfl) ht⟩

theorem Points.read {ref : Option Ref} (hp : Points h ok ref f) :
    ref.map (fun n => (h.read n).toFields) = f := by
  cases ref with
  | none => cases f with
    | none => rfl
    | some f => cases hp
  | some r => cases f with
    | none => cases hp
    | some f =>
      obtain ⟨o, t, -, ht, rfl⟩ := hp
      rw [Option.map_some, ht.read]

theorem IsShared.picture {w : Store} (hs : IsShared w.tables r p) : w.picture r = p := by
  obtain ⟨t, ht, hcell, hnr, hanchor⟩ := hs
  unfold Store.picture
  rw [ht.read, hcell, hnr.read, hanchor.read]

end

/-- What request `i` relies on: its tables, the shared ones, and that it looked when it did. -/
def Relies (i : Nat) (w w' : Store) : Prop :=
  Heap.Keeps i w.tables w'.tables ∧ w'.taken i = w.taken i

def CacheShared (w : Store) : Prop := ∀ r, w.cellCache = some r → ∃ p, IsShared w.tables r p

variable (lua : Lua) (jobs : Nat → Job)

/-- The others can rely on what they need, and only the sampler makes samples. -/
structure Guarantees (i : Nat) (w w' : Store) : Prop where
  relies : ∀ j, j ≠ i → Relies j w w'
  history : (jobs i).task ≠ .sample → w'.signalHistory = w.signalHistory

theorem relies_refl (i : Nat) (w : Store) : Relies i w w := ⟨.refl, rfl⟩

def terms : Terms Nat Action Action.Answer Store where
  answer := answer jobs
  inv := CacheShared
  rely := Relies
  guar := Guarantees jobs
  rely_refl := relies_refl
  rely_trans := fun h h' => ⟨h.1.trans h'.1, h'.2.trans h.2⟩
  guar_refl := fun _ w => ⟨fun j _ => relies_refl j w, fun _ => rfl⟩
  rely_of_guar := fun h hj => h.relies _ hj

variable {lua jobs} {i : Nat} {v : View}

/-! ## Actions -/

section
variable {α : Type} {P : Store → Prop} {Q : α → Store → Prop}

theorem sat_ask (q : Question) {f : q.Answer → Prog α} (hP : (terms jobs).Stable i P)
    (hf : (terms jobs).Sat i P (f ((jobs i).outside q)) Q) :
    (terms jobs).Sat i P (Proc.perform (Action.ask q) >>= f) Q :=
  Sat.ask (a := Action.ask q) (φ := fun r => r = (jobs i).outside q) hP (fun _ => rfl)
    (fun _ _ _ => rfl) fun _ hr => hr ▸ hf

theorem sat_read {f : Table → Prog α} (hP : (terms jobs).Stable i P)
    (ht : ∀ w, P w → ∃ o, w.tables.At o r t) (hf : (terms jobs).Sat i P (f t) Q) :
    (terms jobs).Sat i P (read r >>= f) Q := by
  refine Sat.ask (a := Action.read r) (φ := fun u => u = t) hP (fun _ => rfl) (fun w _ hw => ?_)
    fun _ hu => hu ▸ hf
  obtain ⟨o, ho⟩ := ht w hw
  exact ho.read

theorem sat_new {kept : Bool} {t : Table} {Q : Ref → Store → Prop} (hP : (terms jobs).Stable i P)
    (h : ∀ w, P w → Q w.tables.length
      { w with tables := w.tables.alloc (if kept then none else some i) t }) :
    (terms jobs).Sat i P (new kept t) Q := by
  refine Sat.perform (a := Action.new kept t) hP fun w hinv hw => ⟨?_, ⟨?_, fun _ => rfl⟩, h w hw⟩
  · intro r hr
    obtain ⟨p, hp⟩ := hinv r hr
    exact ⟨p, hp.keep (i := i) Heap.keeps_alloc⟩
  · exact fun j _ => ⟨Heap.keeps_alloc, rfl⟩

theorem sat_write {f : Table → Table} {Q : Unit → Store → Prop}
    (hP : (terms jobs).Stable i P) (ht : ∀ w, P w → w.tables.At (some i) r t)
    (h : ∀ w, P w → Q () { w with tables := w.tables.write r f }) :
    (terms jobs).Sat i P (write r f) Q := by
  refine Sat.perform (a := Action.write r f) hP fun w hinv hw => ⟨?_, ⟨?_, fun _ => rfl⟩, h w hw⟩
  · intro r' hr'
    obtain ⟨p, hp⟩ := hinv r' hr'
    -- Any other request sees the shared tables unchanged.
    exact ⟨p, hp.keep (i := i + 1) (Heap.keeps_write (ht w hw) (Nat.succ_ne_self i))⟩
  · exact fun j hj => ⟨Heap.keeps_write (ht w hw) hj, rfl⟩

theorem relies_look {w : Store} (hj : j ≠ i) : Relies j w (w.look i) :=
  ⟨.refl, Function.update_of_ne hj _ _⟩

end

/-! ## The copy -/

/-- A table of request `i`, if there is one, and what it shows. -/
def Owns (i : Nat) (h : Heap Nat Table) : Option Ref → Option Picture → Prop
  | none, none => True
  | some r, some p => ∃ t, h.At (some i) r t ∧ Shows h (Beside i r) t p
  | _, _ => False

/-- Request `i` has seen `v` and has a table that shows `p`. -/
def Holding (i : Nat) (v : View) (cell : Option Ref) (p : Option Picture) (w : Store) : Prop :=
  w.taken i = some v ∧ Owns i w.tables cell p

theorem Owns.keep (ho : Owns i h cell p) (hk : Heap.Keeps i h h') : Owns i h' cell p := by
  cases cell with
  | none => cases p with
    | none => trivial
    | some p => cases ho
  | some r => cases p with
    | none => cases ho
    | some p =>
      obtain ⟨t, ht, hshows⟩ := ho
      exact ⟨t, hk _ r t (.inr rfl) ht, hshows.keep hk⟩

theorem holding_stable : (terms jobs).Stable i (Holding i v cell p) :=
  fun _ _ hrely hw => ⟨hrely.2.trans hw.1, hw.2.keep hrely.1⟩

theorem true_stable : (terms jobs).Stable i fun _ => True := fun _ _ _ _ => trivial

section
variable {P : Store → Prop}

theorem sat_readNested (hP : (terms jobs).Stable i P)
    (h : ∀ w, P w → ∃ ok, Points w.tables ok ref f) :
    (terms jobs).Sat i P (readNested ref) fun g w => g = f ∧ P w := by
  cases ref with
  | none =>
    refine Sat.pure fun w _ hw => ?_
    obtain ⟨ok, hp⟩ := h w hw
    exact ⟨hp.read, hw⟩
  | some r =>
    refine Sat.ask (a := Action.read r) (φ := fun u => some u.toFields = f) hP (fun _ => rfl)
      (fun w _ hw => ?_) fun u hu => Sat.pure fun w _ hw => ⟨hu, hw⟩
    obtain ⟨ok, hp⟩ := h w hw
    exact hp.read

theorem sat_readCell (hP : (terms jobs).Stable i P)
    (h : ∀ w, P w → (∃ o, w.tables.At o r t) ∧ ∃ ok, Shows w.tables ok t p) :
    (terms jobs).Sat i P (readCell (some r)) fun q w => q = p ∧ P w := by
  refine sat_read hP (fun w hw => (h w hw).1) ?_
  refine (sat_readNested (f := p.nr) hP fun w hw => ?_).bind fun nr => Sat.assume ?_
  · obtain ⟨-, ok, hs⟩ := h w hw
    exact ⟨ok, hs.nr⟩
  rintro rfl
  refine (sat_readNested (f := p.lteAnchor) hP fun w hw => ?_).bind fun anchor => Sat.assume ?_
  · obtain ⟨-, ok, hs⟩ := h w hw
    exact ⟨ok, hs.lteAnchor⟩
  rintro rfl
  refine Sat.pure fun w _ hw => ⟨?_, hw⟩
  obtain ⟨-, ok, hs⟩ := h w hw
  rw [hs.cell]

end

/-- Request `i` has seen `v` and has the table `t`, which shows `p`. -/
def HoldingTable (i : Nat) (v : View) (r : Ref) (t : Table) (p : Picture) (w : Store) : Prop :=
  w.taken i = some v ∧ w.tables.At (some i) r t ∧ Shows w.tables (Beside i r) t p

theorem holdingTable_stable : (terms jobs).Stable i (HoldingTable i v r t p) :=
  fun _ _ hrely hw => ⟨hrely.2.trans hw.1, hrely.1 _ r t (.inr rfl) hw.2.1, hw.2.2.keep hrely.1⟩

theorem sat_held {α : Type} {r : Ref} {p : Picture} {m : Prog α} {Q : α → Store → Prop}
    (h : ∀ t, t.toFields = p.cell → (terms jobs).Sat i (HoldingTable i v r t p) m Q) :
    (terms jobs).Sat i (Holding i v (some r) (some p)) m Q := by
  intro w hinv hw
  obtain ⟨hv, t, ht, hs⟩ := hw
  exact h t hs.cell w hinv ⟨hv, ht, hs⟩

theorem sat_readHeld {cell : Option Ref} {p : Option Picture} :
    (terms jobs).Sat i (Holding i v cell p) (readCell cell)
      fun q w => q = p.getD {} ∧ Holding i v cell p w := by
  cases cell with
  | none =>
    refine Sat.pure fun w _ hw => ⟨?_, hw⟩
    cases p with
    | none => rfl
    | some p => cases hw.2
  | some r =>
    cases p with
    | none => exact fun w _ hw => absurd hw.2 id
    | some p =>
      refine sat_held fun t _ => (sat_readCell (t := t) (p := p) holdingTable_stable ?_).post ?_
      · exact fun w hw => ⟨⟨_, hw.2.1⟩, _, hw.2.2⟩
      · exact fun q w hq => ⟨hq.1, hq.2.1, t, hq.2.2.1, hq.2.2.2⟩

/-! ## Refreshing -/

/-- The table `t` at `r` is shared and shows `p`. -/
def Known (r : Ref) (t : Table) (p : Picture) (w : Store) : Prop :=
  w.tables.At none r t ∧ Shows w.tables Shared t p

theorem known_stable : (terms jobs).Stable i (Known r t p) :=
  fun _ _ hrely hw => ⟨hrely.1 none r t (.inl rfl) hw.1,
    hw.2.mono fun o r t ho ht => ⟨ho, hrely.1 o r t (.inl ho) ht⟩⟩

def Kept (cell : Option Ref) (w : Store) : Prop :=
  ∀ r, cell = some r → ∃ p, IsShared w.tables r p

theorem kept_stable : (terms jobs).Stable i (Kept cell) := by
  intro w w' hrely hw r hr
  obtain ⟨p, hp⟩ := hw r hr
  exact ⟨p, hp.keep hrely.1⟩

theorem Points.keep_shared (hp : Points h Shared ref f) (hk : Heap.Keeps i h h') :
    Points h' Shared ref f :=
  hp.mono fun o r t ho ht => ⟨ho, hk o r t (.inl ho) ht⟩

theorem sat_newNr (n : Option NrCell) : (terms jobs).Sat i (fun _ => True) (newNr n)
    fun nr w => Points w.tables Shared nr (n.map nrFields) := by
  cases n with
  | none => exact Sat.pure fun w _ _ => trivial
  | some n =>
    exact (sat_new true_stable fun w _ => ⟨none, _, rfl, Heap.at_alloc, rfl⟩).bind
      (S := fun r w => Points w.tables Shared (some r) (some (nrFields n)))
      fun r => Sat.pure fun w _ hw => hw

theorem sat_newSnapshot (c : Option (Cell NrCell)) :
    (terms jobs).Sat i (fun _ => True) (newSnapshot c) Kept := by
  cases c with
  | none => exact Sat.pure fun w _ _ r hr => nomatch hr
  | some c =>
    -- The 5G table is there before the table that refers to it.
    refine (sat_newNr c.nr).bind fun nr => ?_
    refine (sat_new (Q := fun r w => Kept (some r) w) ?_ fun w hw r hr => ?_).bind fun r =>
      Sat.pure fun w _ hw => hw
    · exact fun w w' hrely hw => hw.keep_shared hrely.1
    · cases hr
      exact ⟨⟨cellFields c, c.nr.map nrFields, none⟩, _, Heap.at_alloc, rfl,
        hw.keep_shared (i := i) Heap.keeps_alloc, trivial⟩

theorem sat_setCellCache :
    (terms jobs).Sat i (Kept cell) (setCellCache cell now) fun _ => Kept cell := by
  refine Sat.perform (a := Action.setCellCache cell now) kept_stable fun w _ hw => ⟨hw, ?_, hw⟩
  exact ⟨fun j _ => ⟨.refl, rfl⟩, fun _ => rfl⟩

theorem sat_refreshServingCell (turn : Turn) :
    (terms jobs).Sat i (fun _ => True) (refreshServingCell lua turn) Kept := by
  refine sat_ask (.sendAt (.servingcell turn)) true_stable ?_
  refine (sat_newSnapshot _).bind fun cell => ?_
  refine sat_ask (.time (.refreshed turn)) kept_stable ?_
  exact sat_setCellCache.bind fun _ => Sat.pure fun w _ hw => hw

/-! ## Looking -/

/-- Request `i` has just seen `v`, of which the table is `cell`. -/
def Looked (i : Nat) (v : View) (cell : Option Ref) (w : Store) : Prop :=
  w.taken i = some v ∧
    match cell with
    | none => v.cell = none
    | some r => ∃ p, v.cell = some p ∧ IsShared w.tables r p

theorem guarantees_look (w : Store) : Guarantees jobs i w (w.look i) :=
  ⟨fun _ hj => relies_look hj, fun _ => rfl⟩

theorem sat_cellCache :
    (terms jobs).Sat i (fun _ => True) cellCache fun cache w => ∃ v, Looked i v cache.1 w := by
  refine Sat.perform (a := Action.cellCache) true_stable fun w hinv _ =>
    ⟨hinv, guarantees_look w, ⟨w.snapshot, w.signalHistory⟩, Function.update_self _ _ _, ?_⟩
  show match w.cellCache with
    | none => w.snapshot = none
    | some r => ∃ p, w.snapshot = some p ∧ IsShared w.tables r p
  unfold Store.snapshot
  cases hcell : w.cellCache with
  | none => rfl
  | some r =>
    obtain ⟨p, hp⟩ := hinv r hcell
    exact ⟨p, congrArg some hp.picture, hp⟩

theorem sat_shallowCopy (cell : Option Ref) :
    (terms jobs).Sat i (Looked i v cell) (shallowCopy cell)
      fun copy => Holding i v copy v.cell := by
  cases cell with
  | none =>
    refine Sat.pure fun w _ hw => ⟨hw.1, ?_⟩
    rw [hw.2]
    trivial
  | some r =>
    have hstable : ∀ t p, (terms jobs).Stable i fun w => w.taken i = some v ∧ Known r t p w :=
      fun t p w w' hrely hw =>
        ⟨hrely.2.trans hw.1, (known_stable : (terms jobs).Stable i _) w w' hrely hw.2⟩
    have hcopy : ∀ t p, v.cell = some p → (terms jobs).Sat i
        (fun w => w.taken i = some v ∧ Known r t p w) (shallowCopy (some r))
        fun copy => Holding i v copy v.cell := by
      intro t p hp
      refine sat_read (hstable t p) (fun w hw => ⟨_, hw.2.1⟩) ?_
      refine (sat_new (Q := fun r w => Holding i v (some r) v.cell w) (hstable t p)
        fun w hw => ⟨hw.1, ?_⟩).bind fun r => Sat.pure fun w _ hw => hw
      rw [hp]
      exact ⟨t, Heap.at_alloc, hw.2.2.mono fun o n u ho hu => ⟨⟨.inl ho, hu.lt.ne⟩, hu.alloc⟩⟩
    intro w hinv hw
    obtain ⟨hv, p, hp, t, ht, hs⟩ := hw
    exact hcopy t p hp w hinv ⟨hv, ht, hs⟩

theorem sat_cachedServingCell :
    (terms jobs).Sat i (fun _ => True) (cachedServingCell lua)
      fun cell w => ∃ v, Holding i v cell v.cell w := by
  refine (sat_cellCache.post fun _ _ _ => trivial).bind fun cache => ?_
  refine sat_ask (.time .lookup) true_stable ?_
  have hcopy : (terms jobs).Sat i (fun _ => True) (do shallowCopy (← cellCache).1)
      fun cell w => ∃ v, Holding i v cell v.cell w :=
    sat_cellCache.bind fun cache => Sat.exists_pre fun v =>
      (sat_shallowCopy cache.1).post fun _ _ hw => ⟨v, hw⟩
  refine Sat.ite (fun _ => ?_) fun _ => hcopy
  exact (sat_refreshServingCell .lookup).bind fun _ => hcopy.pre fun _ _ => trivial

/-! ## Presenting -/

section
variable {r : Ref} {t : Table} {p q : Picture}

theorem Shows.write {h : Heap Nat Table} {f : Table → Table}
    (hs : Shows h (Beside i r) u p) : Shows (h.write r f) (Beside i r) u p :=
  hs.mono fun _ _ _ ho ht => ⟨ho, ht.write_of_ne ho.2⟩

theorem sat_rewrite {f : Table → Table}
    (hf : ∀ h, Shows h (Beside i r) t p → Shows h (Beside i r) (f t) q) :
    (terms jobs).Sat i (HoldingTable i v r t p) (write r f)
      fun _ => HoldingTable i v r (f t) q :=
  sat_write holdingTable_stable (fun _ hw => hw.2.1)
    fun _ hw => ⟨hw.1, hw.2.1.write, hf _ hw.2.2.write⟩

theorem sat_presentNr (ht : t.nr = some n) :
    (terms jobs).Sat i (HoldingTable i v r t p) (presentNr r n)
      fun _ w => ∃ t', HoldingTable i v r t' (promoted p) w := by
  refine sat_read holdingTable_stable (fun w hw => ⟨_, hw.2.1⟩) ?_
  -- The anchor is a second table of the request.
  have hstable : ∀ a u, (terms jobs).Stable i fun w =>
      (w.tables.At (some i) a u ∧ a ≠ r) ∧ HoldingTable i v r t p w :=
    fun a u w w' hrely hw =>
      ⟨⟨hrely.1 _ a u (.inr rfl) hw.1.1, hw.1.2⟩,
        (holdingTable_stable : (terms jobs).Stable i _) w w' hrely hw.2⟩
  refine (sat_new holdingTable_stable fun w hw => ?_).bind
    (S := fun a w => (w.tables.At (some i) a { toFields := anchorFields t.toFields } ∧ a ≠ r) ∧
      HoldingTable i v r t p w) fun a => ?_
  · exact ⟨⟨Heap.at_alloc, hw.2.1.lt.ne'⟩, hw.1, hw.2.1.alloc, hw.2.2.keep Heap.keeps_alloc⟩
  obtain ⟨cell, nr, anchor⟩ := p
  cases nr with
  | none =>
    intro w _ hw
    have hnr := hw.2.2.2.nr
    rw [ht] at hnr
    cases hnr
  | some n' =>
    refine Sat.ask (a := Action.read n) (φ := fun u => u.toFields = n') (hstable a _) (fun _ => rfl)
      (fun w _ hw => ?_) fun u hu => ?_
    · have hnr := hw.2.2.2.nr
      rw [ht] at hnr
      obtain ⟨o, u, -, hat, hu⟩ := hnr
      exact (congrArg Table.toFields hat.read).trans hu
    · subst hu
      refine sat_write (hstable a _) (fun w hw => hw.2.2.1) fun w hw => ?_
      obtain ⟨⟨ha, har⟩, hv, hat, hs⟩ := hw
      obtain rfl := hs.cell
      have hs' := hs.write (f := promoteTable u.toFields a)
      exact ⟨promoteTable u.toFields a t, hv, hat.write, rfl, hs'.nr,
        some i, _, ⟨.inr rfl, har⟩, ha.write_of_ne har, rfl⟩

theorem sat_promote :
    (terms jobs).Sat i (HoldingTable i v r t p) (promote r t.nr)
      fun _ w => ∃ t', HoldingTable i v r t' (promoted p) w := by
  cases ht : t.nr with
  | some n => exact sat_presentNr ht
  | none =>
    refine Sat.pure fun w _ hw => ⟨t, ?_⟩
    have hnr := hw.2.2.nr
    obtain ⟨cell, nr, anchor⟩ := p
    cases nr with
    | none => exact hw
    | some n =>
      rw [ht] at hnr
      cases hnr

end

theorem Points.isSome {ok : Option Nat → Ref → Prop} {ref : Option Ref}
    {f : Option Fields} (hp : Points h ok ref f) : ref.isSome = f.isSome := by
  rw [← hp.read, Option.isSome_map]

theorem sat_present {cell : Option Ref} {p : Option Picture} :
    (terms jobs).Sat i (Holding i v cell p) (present cell)
      fun _ => Holding i v cell (p.map presented) := by
  cases cell with
  | none =>
    refine Sat.pure fun w _ hw => ?_
    cases p with
    | none => exact hw
    | some p => cases hw.2
  | some r =>
    cases p with
    | none => exact fun w _ hw => absurd hw.2 id
    | some p =>
      refine sat_held fun t ht => ?_
      refine sat_read holdingTable_stable (fun w hw => ⟨_, hw.2.1⟩) ?_
      refine sat_promote.bind fun _ => Sat.exists_pre fun t' => ?_
      refine (sat_rewrite (q := labelled (enbLabel p.cell.cellId) (promoted p)) fun h hs =>
        ⟨?_, hs.nr, hs.lteAnchor⟩).bind fun _ => ?_
      · unfold labelTable labelled
        rw [← hs.cell, ← hs.lteAnchor.isSome, ← ht]
      · refine (sat_rewrite (q := presented p) fun h hs =>
          ⟨congrArg addSignalLevels hs.cell, hs.nr, hs.lteAnchor⟩).post ?_
        exact fun _ w hw => ⟨hw.1, _, hw.2.1, hw.2.2⟩

/-! ## Requests -/

def Reported (lua : Lua) (jobs : Nat → Job) (i : Nat) (m : Method) (reply : Reply) (w : Store) :
    Prop := ∃ v, w.taken i = some v ∧ reply = report lua (jobs i).outside v m

theorem sat_networksInfo : (terms jobs).Sat i (fun _ => True) (networksInfo lua)
    (Reported lua jobs i .networksInfo) := by
  refine sat_cachedServingCell.bind fun cell => Sat.exists_pre fun v => ?_
  refine sat_ask (.status .wwan) holding_stable ?_
  refine sat_ask (.status .wwan4) holding_stable ?_
  refine sat_ask (.status .wwan6) holding_stable ?_
  refine sat_present.bind fun _ => ?_
  refine sat_ask (.sendAt .cops) holding_stable ?_
  refine sat_ask (.sendAt .cnum) holding_stable ?_
  refine sat_ask (.config .modes) holding_stable ?_
  refine sat_ask (.config .apn) holding_stable ?_
  refine sat_ask .traffic holding_stable ?_
  refine sat_readHeld.bind fun p => Sat.assume ?_
  rintro rfl
  exact Sat.pure fun w _ hw => ⟨v, hw.1, rfl⟩

theorem sat_networksStatus : (terms jobs).Sat i (fun _ => True) (networksStatus lua)
    (Reported lua jobs i .networksStatus) := by
  refine sat_cachedServingCell.bind fun cell => Sat.exists_pre fun v => ?_
  refine sat_ask (.status .wwan) holding_stable ?_
  refine sat_ask (.status .wwan4) holding_stable ?_
  refine sat_ask (.status .wwan6) holding_stable ?_
  refine sat_ask (.config .dialEnabled) holding_stable ?_
  refine sat_ask .traffic holding_stable ?_
  refine sat_readHeld.bind fun p => Sat.assume ?_
  rintro rfl
  exact Sat.pure fun w _ hw => ⟨v, hw.1, rfl⟩

theorem sat_simPinSnapshot {α : Type} {f : Nat × Option Rat → Prog α} {Q : α → Store → Prop}
    (hf : (terms jobs).Sat i (fun _ => True) (f (pinOf lua (jobs i).outside)) Q) :
    (terms jobs).Sat i (fun _ => True) (simPinSnapshot lua >>= f) Q := by
  have hpin : (terms jobs).Sat i (fun _ => True) (simPinSnapshot lua)
      fun pin _ => pin = pinOf lua (jobs i).outside ∧ True := by
    refine sat_ask (.sendAt .cpin) true_stable ?_
    refine Sat.ite (fun h => ?_) fun h => ?_
    · refine sat_ask (.sendAt .qpinc) true_stable (Sat.pure fun _ _ _ => ⟨?_, trivial⟩)
      exact congrArg (pinStatus lua _) (if_pos h).symm
    · refine Sat.pure fun _ _ _ => ⟨?_, trivial⟩
      exact congrArg (pinStatus lua _) (if_neg h).symm
  refine hpin.bind fun pin => Sat.assume ?_
  rintro rfl
  exact hf

theorem sat_simsStatus : (terms jobs).Sat i (fun _ => True) (simsStatus lua)
    (Reported lua jobs i .simsStatus) := by
  refine sat_simPinSnapshot ?_
  refine sat_ask (.sendAt .cops) true_stable ?_
  refine sat_ask (.sendAt .qccid) true_stable ?_
  refine sat_ask (.sendAt .qnwinfo) true_stable ?_
  refine sat_cachedServingCell.bind fun cell => Sat.exists_pre fun v => ?_
  refine sat_readHeld.bind fun p => Sat.assume ?_
  rintro rfl
  refine sat_ask (.config .apn) holding_stable ?_
  exact Sat.pure fun w _ hw => ⟨v, hw.1, rfl⟩

theorem sat_simCardEntry : (terms jobs).Sat i (fun _ => True) (simCardEntry lua)
    (Reported lua jobs i .simCardEntry) := by
  refine sat_simPinSnapshot ?_
  refine sat_ask (.sendAt .qccid) true_stable ?_
  refine sat_ask (.sendAt .cops) true_stable ?_
  refine sat_ask (.sendAt .qnwinfo) true_stable ?_
  refine sat_cachedServingCell.bind fun cell => Sat.exists_pre fun v => ?_
  refine sat_readHeld.bind fun p => Sat.assume ?_
  rintro rfl
  refine sat_ask (.status .wwan) holding_stable ?_
  refine sat_ask (.config .simName) holding_stable ?_
  refine sat_ask (.config .apn) holding_stable ?_
  refine sat_ask (.sendAt .cimi) holding_stable ?_
  refine sat_ask .traffic holding_stable ?_
  exact Sat.pure fun w _ hw => ⟨v, hw.1, rfl⟩

theorem sat_carrierSnapshot : (terms jobs).Sat i (fun _ => True) (carrierSnapshot lua)
    fun carrier w => ∃ v, w.taken i = some v ∧
      carrier = ((jobs i).outside (.sendAt .qcainfo), v.cell.getD {}) := by
  refine sat_cachedServingCell.bind fun cell => Sat.exists_pre fun v => ?_
  refine sat_ask (.sendAt .qcainfo) holding_stable ?_
  refine sat_readHeld.bind fun p => Sat.assume ?_
  rintro rfl
  exact Sat.pure fun w _ hw => ⟨v, hw.1, rfl⟩

theorem sat_cellInfo : (terms jobs).Sat i (fun _ => True) (cellInfo lua)
    (Reported lua jobs i .cellInfo) := by
  refine sat_carrierSnapshot.bind fun carrier => Sat.pure fun w _ hw => ?_
  obtain ⟨v, hv, rfl⟩ := hw
  exact ⟨v, hv, rfl⟩

theorem sat_signalsHistory (time : Option Int) : (terms jobs).Sat i (fun _ => True)
    (signalsHistory time) (Reported lua jobs i (.signalsHistory time)) := by
  refine sat_ask (.time .history) true_stable ?_
  refine (Sat.perform (a := Action.signalHistory) true_stable fun w hinv _ =>
    ⟨hinv, guarantees_look w, _, Function.update_self _ _ _, rfl⟩).bind
    (S := fun samples w => ∃ v, w.taken i = some v ∧ samples = v.samples) fun samples => ?_
  refine Sat.pure fun w _ hw => ?_
  obtain ⟨v, hv, rfl⟩ := hw
  exact ⟨v, hv, rfl⟩

theorem sat_request (m : Method) : (terms jobs).Sat i (fun _ => True) (m.program lua)
    (Reported lua jobs i m) := by
  cases m with
  | networksInfo => exact sat_networksInfo
  | networksStatus => exact sat_networksStatus
  | simsStatus => exact sat_simsStatus
  | simCardEntry => exact sat_simCardEntry
  | cellInfo => exact sat_cellInfo
  | signalsHistory time => exact sat_signalsHistory time

/-! ## The sampler -/

theorem sat_ledLevel (cell : Option Ref) :
    (terms jobs).Sat i (Kept cell) (ledLevel cell) fun _ _ => True := by
  cases cell with
  | none => exact Sat.pure fun _ _ _ => trivial
  | some r =>
    have hread : ∀ t p, (terms jobs).Sat i (Known r t p) (ledLevel (some r)) fun _ _ => True :=
      fun t p => (sat_readCell known_stable fun w hw => ⟨⟨none, hw.1⟩, Shared, hw.2⟩).bind
        fun _ => Sat.pure fun _ _ _ => trivial
    intro w hinv hw
    obtain ⟨p, t, ht, hs⟩ := hw r rfl
    exact hread t p w hinv ⟨ht, hs⟩

theorem cacheShared_addSample {w : Store} (s : Sample) (hw : CacheShared w) :
    CacheShared (w.addSample s) := by
  unfold Store.addSample
  exact fun r hr => hw r hr

theorem relies_addSample {w : Store} (s : Sample) : Relies i w (w.addSample s) := by
  unfold Store.addSample
  exact ⟨.refl, rfl⟩

theorem sat_addSample (hi : (jobs i).task = .sample) :
    (terms jobs).Sat i (fun _ => True) (addSample s) fun _ _ => True := by
  refine Sat.perform (a := Action.addSample s) true_stable fun w hinv _ =>
    ⟨cacheShared_addSample s hinv, ⟨fun j _ => relies_addSample s, fun h => absurd hi h⟩, trivial⟩

theorem sat_signalSample (hi : (jobs i).task = .sample) :
    (terms jobs).Sat i (fun _ => True) (signalSample lua) fun _ _ => True := by
  refine (sat_refreshServingCell .sampler).bind fun cell => ?_
  refine (sat_ledLevel cell).bind fun level => ?_
  refine (sat_carrierSnapshot.post fun _ _ _ => trivial).bind fun carrier => ?_
  refine Sat.ite (fun _ => Sat.pure fun _ _ _ => trivial) fun _ => ?_
  refine sat_ask (.time .sampled) true_stable ?_
  exact (sat_addSample hi).bind fun _ => Sat.pure fun _ _ _ => trivial

end GlXe3000.Cellular.Radio.Daemon
