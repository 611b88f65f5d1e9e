import GlXe3000.Oui.System

/-! # A session that is over stays over

Expiry is lazy: an entry whose time is up stays in the table until `session` is called for it, and
`touch`, which does not look at the time, gives it another. A websocket asks about its session once,
when it is opened. So a session that is over stays over where nobody touches an expired one and its
websockets are closed before it ends. -/

namespace GlXe3000.Oui

namespace LifeRecord

/-- The session was accepted by a method, or something was sent on its behalf. -/
def serves (sid : Text) : LifeRecord → Bool
  | .used sid' _ _ => sid' = sid
  | .pushed _ sid' _ => sid' = sid
  | .ended _ => false

end LifeRecord

/-- Until when a session may be used again: its timeout from the last accepted use on. -/
def deadline (sid : Text) : List LifeRecord → Option Nat
  | [] => none
  | .used sid' time timeout :: log =>
    if sid' = sid then some (time + timeout) else deadline sid log
  | _ :: log => deadline sid log

namespace State
variable (s : State)

def Over (sid : Text) : Prop :=
  LifeRecord.ended sid ∈ s.life ∨ ∃ t, deadline sid s.life = some t ∧ t < s.now

def Watched (sid : Text) : Prop := ∃ conn k, s.sockets conn = some k ∧ k.sid = some sid

def Live (sid : Text) : Prop := ∃ x, s.daemon.sessions.lookup sid = some x ∧ s.now ≤ x.expire

end State

/-- Session ids are not given out twice, an expired session is not touched, and a session that is
logged out, cleared or evicted or whose time runs out has no open websocket. -/
def Orderly (s : State) : Event → Prop
  | .tick n => ∀ sid x, s.Watched sid → s.daemon.sessions.lookup sid = some x →
      s.now + n ≤ x.expire
  | .login _ _ sid => deadline sid s.life = none ∧
      ∀ v, s.daemon.sessions.victim = some v → ¬s.Watched v
  | .logout sid => ¬s.Watched sid
  | .touch sid => ∀ x, s.daemon.sessions.lookup sid = some x → s.now ≤ x.expire
  | .clearSession => ∀ sid, ¬s.Watched sid
  | _ => True

theorem deadline_append (h : ∀ t d, LifeRecord.used sid t d ∉ new) :
    deadline sid (new ++ log) = deadline sid log := by
  induction new with
  | nil => rfl
  | cons r new ih =>
    have htail : deadline sid (new ++ log) = deadline sid log :=
      ih fun t d hr => h t d (List.mem_cons_of_mem r hr)
    cases r with
    | used sid' t d =>
      have hne : sid' ≠ sid := by
        rintro rfl
        exact h t d List.mem_cons_self
      simp only [List.cons_append, deadline, if_neg hne]
      exact htail
    | ended sid' => exact htail
    | pushed conn sid' topic => exact htail

/-- What the log says of a session in the table, and of one that has a websocket. -/
structure Tracked (s : State) : Prop where
  entered : ∀ sid x, s.daemon.sessions.lookup sid = some x →
    deadline sid s.life = some x.expire ∧ LifeRecord.ended sid ∉ s.life
  issued : ∀ sid, LifeRecord.ended sid ∈ s.life → deadline sid s.life ≠ none
  watched : ∀ sid, s.Watched sid → s.Live sid

/-- What steps lead to: in the meantime, only sessions that were live at first were served, and
those that were new. -/
structure Progress (s s' : State) : Prop where
  tracked : Tracked s'
  now : s.now ≤ s'.now
  serves : ∃ new, s'.life = new ++ s.life ∧
    ∀ r ∈ new, ∀ sid, r.serves sid = true → s.Live sid ∨ deadline sid s.life = none

namespace Tracked
variable {s : State} {sid : Text}

theorem not_live_of_over (h : Tracked s) (hover : s.Over sid) : ¬s.Live sid := by
  rintro ⟨x, hx, hexp⟩
  obtain ⟨hdeadline, hended⟩ := h.entered sid x hx
  obtain hover | ⟨t, ht, hlt⟩ := hover
  · exact hended hover
  · cases hdeadline.symm.trans ht
    exact Nat.not_lt.2 hexp hlt

theorem deadline_of_over (h : Tracked s) (hover : s.Over sid) : deadline sid s.life ≠ none := by
  obtain hover | ⟨t, ht, -⟩ := hover
  · exact h.issued sid hover
  · rw [ht]; exact Option.some_ne_none t

theorem deadline_of_lookup (h : Tracked s)
    (hx : s.daemon.sessions.lookup sid = some x) : deadline sid s.life ≠ none := by
  rw [(h.entered sid x hx).1]
  exact Option.some_ne_none _

end Tracked

namespace Progress
variable {s s' : State} {sid : Text}

theorem refl (h : Tracked s) : Progress s s := ⟨h, Nat.le_refl _, [], rfl, nofun⟩

theorem of_same (h : Tracked s) (hnow : s'.now = s.now)
    (hsessions : ∀ sid, s'.daemon.sessions.lookup sid = s.daemon.sessions.lookup sid)
    (hsockets : s'.sockets = s.sockets) (hlife : s'.life = s.life) : Progress s s' := by
  refine ⟨⟨?_, ?_, ?_⟩, Nat.le_of_eq hnow.symm, [], hlife, nofun⟩
  · intro sid x hx
    rw [hsessions] at hx
    rw [hlife]
    exact h.entered sid x hx
  · rw [hlife]; exact h.issued
  · rintro sid ⟨conn, k, hk, hsid⟩
    rw [hsockets] at hk
    obtain ⟨x, hx, hexp⟩ := h.watched sid ⟨conn, k, hk, hsid⟩
    exact ⟨x, (hsessions sid).trans hx, Nat.le_trans (Nat.le_of_eq hnow) hexp⟩

theorem use {x : Session} (h : Tracked s) (hx : s.daemon.sessions.lookup sid = some x)
    (hexp : s.now ≤ x.expire) :
    Progress s { s with
      daemon := s.daemon.extend s.now s.timeout sid x
      life := .used sid s.now s.timeout :: s.life } := by
  refine ⟨⟨?_, ?_, ?_⟩, Nat.le_refl _, [_], rfl, ?_⟩
  · intro sid' x' hx'
    by_cases hsid : sid' = sid
    · subst hsid
      simp only [Daemon.extend, AList.lookup_insert, Option.some.injEq] at hx'
      subst hx'
      simpa [deadline] using (h.entered sid' x hx).2
    · simp only [Daemon.extend, AList.lookup_insert_ne hsid] at hx'
      simpa [deadline, Ne.symm hsid] using h.entered sid' x' hx'
  · intro sid' hended
    have hold : LifeRecord.ended sid' ∈ s.life := by simpa using hended
    unfold deadline
    split
    · exact Option.some_ne_none _
    · exact h.issued sid' hold
  · intro sid' hw
    by_cases hsid : sid' = sid
    · subst hsid
      exact ⟨_, AList.lookup_insert _, Nat.le_add_right ..⟩
    · obtain ⟨x', hx', hexp'⟩ := h.watched sid' hw
      exact ⟨x', (AList.lookup_insert_ne hsid).trans hx', hexp'⟩
  · intro r hr sid' hserves
    obtain rfl := List.mem_singleton.1 hr
    obtain rfl : sid = sid' := by simpa [LifeRecord.serves] using hserves
    exact .inl ⟨x, hx, hexp⟩

theorem drop (new : List LifeRecord) (h : Tracked s) (hw : ¬s.Watched sid)
    (hnew : new = [] ∨ new = [.ended sid] ∧ deadline sid s.life ≠ none) :
    Progress s { s with daemon := s.daemon.logout sid, life := new ++ s.life } := by
  have hkept : ∀ sid', sid' ≠ sid →
      (s.daemon.logout sid).sessions.lookup sid' = s.daemon.sessions.lookup sid' :=
    fun sid' hsid => AList.lookup_erase_ne hsid
  have hdeadline : ∀ sid', deadline sid' (new ++ s.life) = deadline sid' s.life := by
    intro sid'
    refine deadline_append ?_
    obtain rfl | ⟨rfl, -⟩ := hnew <;> simp
  have hended : ∀ sid', LifeRecord.ended sid' ∈ new → sid' = sid ∧ deadline sid s.life ≠ none := by
    intro sid' hmem
    obtain rfl | ⟨rfl, hissued⟩ := hnew
    · cases hmem
    · exact ⟨by simpa using hmem, hissued⟩
  refine ⟨⟨?_, ?_, ?_⟩, Nat.le_refl _, new, rfl, ?_⟩
  · intro sid' x hx
    have hsid : sid' ≠ sid := by
      rintro rfl
      cases (AList.lookup_erase ..).symm.trans hx
    obtain ⟨hd, he⟩ := h.entered sid' x ((hkept sid' hsid).symm.trans hx)
    refine ⟨(hdeadline sid').trans hd, ?_⟩
    intro hmem
    obtain hmem | hmem := List.mem_append.1 hmem
    · exact hsid (hended sid' hmem).1
    · exact he hmem
  · intro sid' hmem
    refine (hdeadline sid').trans_ne ?_
    obtain hmem | hmem := List.mem_append.1 hmem
    · obtain ⟨rfl, hissued⟩ := hended sid' hmem
      exact hissued
    · exact h.issued sid' hmem
  · intro sid' hw'
    obtain ⟨x, hx, hexp⟩ := h.watched sid' hw'
    exact ⟨x, (hkept sid' fun hsid => hw (hsid ▸ hw')).trans hx, hexp⟩
  · intro r hr sid' hserves
    obtain rfl | ⟨rfl, -⟩ := hnew
    · cases hr
    · obtain rfl := List.mem_singleton.1 hr
      cases hserves

theorem session (h : Tracked s) : Progress s (s.session sid).2 := by
  unfold State.session Daemon.session
  cases hx : s.daemon.sessions.lookup sid with
  | none => exact .refl h
  | some x =>
    by_cases hexp : x.expire < s.now
    · simp only [if_pos hexp]
      refine Progress.drop [] h ?_ (.inl rfl)
      intro hw
      obtain ⟨x', hx', hexp'⟩ := h.watched sid hw
      cases hx.symm.trans hx'
      exact Nat.not_lt.2 hexp' hexp
    · simp only [if_neg hexp]
      exact .use h hx (Nat.le_of_not_lt hexp)

theorem session_live (haccepted : (s.session sid).1 = true) : (s.session sid).2.Live sid := by
  unfold State.session Daemon.session at haccepted ⊢
  cases hx : s.daemon.sessions.lookup sid with
  | none => simp [hx] at haccepted
  | some x =>
    by_cases hexp : x.expire < s.now
    · simp [hx, hexp] at haccepted
    · simp only [if_neg hexp]
      exact ⟨_, AList.lookup_insert _, Nat.le_add_right ..⟩

theorem touch (h : Tracked s)
    (hexp : ∀ x, s.daemon.sessions.lookup sid = some x → s.now ≤ x.expire) :
    Progress s (s.touch sid) := by
  unfold State.touch Daemon.touch
  cases hx : s.daemon.sessions.lookup sid with
  | none => exact .refl h
  | some x => exact .use h hx (hexp x hx)

theorem setSocket (h : Progress s s')
    (hk : ∀ k', k = some k' → ∀ sid, k'.sid = some sid → s'.Live sid) :
    Progress s (s'.setSocket conn k) := by
  refine { h with tracked := { h.tracked with watched := ?_ } }
  rintro sid ⟨conn', k', hk', hsid⟩
  by_cases hconn : conn' = conn
  · subst hconn
    simp only [State.setSocket, Function.update_self] at hk'
    exact hk k' hk' sid hsid
  · simp only [State.setSocket, Function.update_of_ne hconn] at hk'
    exact h.tracked.watched sid ⟨conn', k', hk', hsid⟩

theorem push {k : Socket} (h : Progress s s')
    (hk : ∀ sid, k.sid = some sid → s.Live sid) : Progress s (s'.push conn k answering topics) := by
  obtain ⟨new, hnew, hserves⟩ := h.serves
  unfold State.push
  generalize hpushed : k.sid.toList.flatMap (fun sid =>
    (topics.filter (· ∈ answering)).map (LifeRecord.pushed conn sid)) = pushed
  have honly : ∀ r ∈ pushed, ∃ sid topic, r = .pushed conn sid topic ∧ k.sid = some sid := by
    intro r hr
    subst hpushed
    obtain ⟨sid, hsid, hr⟩ := List.mem_flatMap.1 hr
    obtain ⟨topic, -, rfl⟩ := List.mem_map.1 hr
    exact ⟨sid, topic, rfl, Option.mem_toList.1 hsid⟩
  have hdeadline : ∀ sid, deadline sid (pushed ++ s'.life) = deadline sid s'.life := by
    intro sid
    refine deadline_append ?_
    intro t d hr
    obtain ⟨_, _, hr, -⟩ := honly _ hr
    cases hr
  have hended : ∀ sid, LifeRecord.ended sid ∈ pushed ++ s'.life → .ended sid ∈ s'.life := by
    intro sid hr
    obtain hr | hr := List.mem_append.1 hr
    · obtain ⟨_, _, hr, -⟩ := honly _ hr
      cases hr
    · exact hr
  refine ⟨⟨?_, ?_, h.tracked.watched⟩, h.now, pushed ++ new, ?_, ?_⟩
  · intro sid x hx
    obtain ⟨hd, he⟩ := h.tracked.entered sid x hx
    exact ⟨(hdeadline sid).trans hd, mt (hended sid) he⟩
  · intro sid hr
    exact (hdeadline sid).trans_ne (h.tracked.issued sid (hended sid hr))
  · rw [List.append_assoc, ← hnew]
  · intro r hr sid hserve
    obtain hr | hr := List.mem_append.1 hr
    · obtain ⟨sid', topic, rfl, hsid⟩ := honly r hr
      obtain rfl : sid' = sid := by simpa [LifeRecord.serves] using hserve
      exact .inl (hk sid' hsid)
    · exact hserves r hr sid hserve

theorem wsOpen {conn : Nat} {loopback : Bool} {sid : Option Text} (h : Tracked s) :
    Progress s (s.wsOpen conn loopback sid) := by
  unfold State.wsOpen
  split
  · exact .refl h
  · split
    · refine (refl h).setSocket ?_
      rintro _ ⟨⟩ sid ⟨⟩
    · exact .refl h
  · next sid =>
    dsimp only
    split
    · next haccepted =>
      refine (session h).setSocket ?_
      rintro _ ⟨⟩ _ ⟨⟩
      exact session_live haccepted
    · exact session h

theorem wsTimeout {conn : Nat} {ubus : Bool} {answering : List Topic} (h : Tracked s) :
    Progress s (s.wsTimeout conn ubus answering) := by
  unfold State.wsTimeout
  split
  · exact .refl h
  · next k hk =>
    have hlive : ∀ sid, k.sid = some sid → s.Live sid :=
      fun sid hsid => h.watched sid ⟨conn, k, hk, hsid⟩
    dsimp only
    split
    · next sid hsid =>
      split
      · refine (touch h ?_).push hlive
        intro x hx
        obtain ⟨x', hx', hexp⟩ := hlive sid hsid
        cases hx.symm.trans hx'
        exact hexp
      · exact (refl h).push hlive
    · exact (refl h).push hlive

theorem wsSubscribe {conn : Nat} {topic : Topic} {answering : List Topic} (h : Tracked s) :
    Progress s (s.wsSubscribe conn topic answering) := by
  unfold State.wsSubscribe
  split
  · exact .refl h
  · next k hk =>
    have hlive : ∀ sid, k.sid = some sid → s.Live sid :=
      fun sid hsid => h.watched sid ⟨conn, k, hk, hsid⟩
    refine ((refl h).setSocket ?_).push hlive
    rintro _ ⟨⟩ sid hsid
    exact hlive sid hsid

theorem wsUnsubscribe {conn : Nat} {topic : Topic} (h : Tracked s) :
    Progress s (s.wsUnsubscribe conn topic) := by
  unfold State.wsUnsubscribe
  split
  · exact .refl h
  · next k hk =>
    refine (refl h).setSocket ?_
    rintro _ ⟨⟩ sid hsid
    exact h.watched sid ⟨conn, k, hk, hsid⟩

theorem logout (h : Tracked s) (hw : ¬s.Watched sid) : Progress s (s.logout sid) := by
  unfold State.logout
  cases hx : s.daemon.sessions.lookup sid with
  | none => exact .drop [] h hw (.inl rfl)
  | some x => exact .drop [.ended sid] h hw (.inr ⟨rfl, h.deadline_of_lookup hx⟩)

theorem clearSession (h : Tracked s) (hw : ∀ sid, ¬s.Watched sid) : Progress s s.clearSession := by
  have hended : ∀ sid, LifeRecord.ended sid ∈ s.daemon.sessions.keys.map LifeRecord.ended →
      ∃ x, s.daemon.sessions.lookup sid = some x := by
    intro sid hr
    obtain ⟨sid', hkey, ⟨⟩⟩ := List.mem_map.1 hr
    exact Option.isSome_iff_exists.1 (AList.lookup_isSome.2 (AList.mem_keys.2 hkey))
  have hdeadline : ∀ sid, deadline sid s.clearSession.life = deadline sid s.life := by
    intro sid
    refine deadline_append ?_
    intro t d hr
    obtain ⟨_, -, hr⟩ := List.mem_map.1 hr
    cases hr
  refine ⟨⟨nofun, ?_, fun sid hw' => absurd hw' (hw sid)⟩, Nat.le_refl _, _, rfl, ?_⟩
  · intro sid hr
    refine (hdeadline sid).trans_ne ?_
    obtain hr | hr := List.mem_append.1 hr
    · obtain ⟨x, hx⟩ := hended sid hr
      exact h.deadline_of_lookup hx
    · exact h.issued sid hr
  · intro r hr sid hserve
    obtain ⟨_, -, rfl⟩ := List.mem_map.1 hr
    cases hserve

theorem openSession {d : Daemon} {u : Text} {auth : List AuthRecord} (h : Tracked s)
    (hd : d.sessions = s.daemon.sessions) (hnew : deadline sid s.life = none)
    (hvictim : ∀ v, s.daemon.sessions.victim = some v → ¬s.Watched v) :
    Progress s { s with
      daemon := d.openSession s.now s.timeout u sid
      auth := auth
      life := .used sid s.now s.timeout ::
        s.daemon.sessions.victim.toList.map LifeRecord.ended ++ s.life } := by
  have hother : ∀ {sid' x}, s.daemon.sessions.lookup sid' = some x → sid' ≠ sid := by
    rintro sid' x hx rfl
    exact h.deadline_of_lookup hx hnew
  have hended : ∀ sid', LifeRecord.ended sid' ∈
      s.daemon.sessions.victim.toList.map LifeRecord.ended →
      s.daemon.sessions.victim = some sid' := by
    intro sid' hr
    obtain ⟨v, hv, ⟨⟩⟩ := List.mem_map.1 hr
    exact Option.mem_toList.1 hv
  have hdeadline : ∀ sid', sid' ≠ sid → deadline sid' (.used sid s.now s.timeout ::
      s.daemon.sessions.victim.toList.map LifeRecord.ended ++ s.life) = deadline sid' s.life := by
    intro sid' hsid
    refine deadline_append ?_
    intro t d hr
    obtain ⟨⟨⟩⟩ | hr := List.mem_cons.1 hr
    · exact hsid rfl
    · obtain ⟨_, -, hr⟩ := List.mem_map.1 hr
      cases hr
  refine ⟨⟨?_, ?_, ?_⟩, Nat.le_refl _, _, rfl, ?_⟩
  · intro sid' x hx
    by_cases hsid : sid' = sid
    · subst hsid
      simp only [Daemon.openSession, AList.lookup_insert, Option.some.injEq] at hx
      subst hx
      refine ⟨by simp [deadline], ?_⟩
      intro hr
      obtain ⟨⟩ | ⟨_, hr⟩ := hr
      obtain hr | hr := List.mem_append.1 hr
      · obtain ⟨x, hx⟩ := SessionTable.victim_mem (hended sid' hr)
        exact h.deadline_of_lookup hx hnew
      · exact h.issued sid' hr hnew
    · simp only [Daemon.openSession, AList.lookup_insert_ne hsid, hd] at hx
      obtain ⟨hx, hv⟩ := SessionTable.lookup_evict hx
      obtain ⟨hdl, he⟩ := h.entered sid' x hx
      refine ⟨(hdeadline sid' hsid).trans hdl, ?_⟩
      intro hr
      obtain ⟨⟩ | ⟨_, hr⟩ := hr
      obtain hr | hr := List.mem_append.1 hr
      · exact hv (hended sid' hr)
      · exact he hr
  · intro sid' hr
    by_cases hsid : sid' = sid
    · subst hsid
      simp [deadline]
    · refine (hdeadline sid' hsid).trans_ne ?_
      obtain ⟨⟩ | ⟨_, hr⟩ := hr
      obtain hr | hr := List.mem_append.1 hr
      · obtain ⟨x, hx⟩ := SessionTable.victim_mem (hended sid' hr)
        exact h.deadline_of_lookup hx
      · exact h.issued sid' hr
  · intro sid' hw
    obtain ⟨x, hx, hexp⟩ := h.watched sid' hw
    refine ⟨x, ?_, hexp⟩
    simp only [Daemon.openSession, AList.lookup_insert_ne (hother hx), hd]
    exact SessionTable.lookup_evict_of_ne hx fun hv => hvictim sid' hv hw
  · intro r hr sid' hserve
    obtain rfl | hr := List.mem_cons.1 hr
    · obtain rfl : sid = sid' := by simpa [LifeRecord.serves] using hserve
      exact .inr hnew
    · obtain ⟨_, -, rfl⟩ := List.mem_map.1 hr
      cases hserve

theorem login {sha256 : Text → Text} {u hash : Text} (h : Tracked s)
    (hg : Orderly s (.login u hash sid)) : Progress s (s.login sha256 u hash sid) := by
  have hout : Daemon.LoginOutcome s.daemon s.now s.timeout sha256 u hash sid _ :=
    Daemon.login_outcome
  unfold State.login
  generalize s.daemon.login s.now s.timeout sha256 u hash sid = r at hout ⊢
  cases hout with
  | accepted ch hlock hch hexp hacc => exact .openSession h rfl hg.1 hg.2
  | _ => exact .of_same h rfl (fun _ => rfl) rfl rfl

theorem step {sha256 : Text → Text} (e : Event) (hg : Orderly s e) (h : Tracked s) :
    Progress s (s.step sha256 e) := by
  cases e with
  | tick n =>
    refine ⟨{ h with watched := ?_ }, Nat.le_add_right .., [], rfl,
      fun _ hr => absurd hr List.not_mem_nil⟩
    intro sid hw
    obtain ⟨x, hx, -⟩ := h.watched sid hw
    exact ⟨x, hx, hg sid x hw hx⟩
  | configure timeout => exact .of_same h rfl (fun _ => rfl) rfl rfl
  | passwd shadow => exact .of_same h rfl (fun _ => rfl) rfl rfl
  | shuffle order =>
    simp only [State.step]
    split
    · next hperm => exact .of_same h rfl (fun _ => AList.perm_lookup hperm) rfl rfl
    · exact .refl h
  | challenge u nonce =>
    simp only [State.step, State.challenge, Daemon.challenge]
    split_ifs
    · exact .refl h
    · exact .refl h
    · cases readShadowEntry s.shadow u with
      | none => exact .refl h
      | some entry => exact .of_same h rfl (fun _ => rfl) rfl rfl
  | login u hash sid => exact .login h hg
  | logout sid => exact .logout h hg
  | session sid => exact .session h
  | touch sid => exact .touch h hg
  | clearSession => exact .clearSession h hg
  | wsOpen conn loopback sid => exact .wsOpen h
  | wsTimeout conn ubus answering => exact .wsTimeout h
  | wsSubscribe conn topic answering => exact .wsSubscribe h
  | wsUnsubscribe conn topic => exact .wsUnsubscribe h
  | wsClose conn =>
    refine (refl h).setSocket ?_
    intro so hso
    cases hso

theorem keeps_over (h : Tracked s) (hp : Progress s s') (hover : s.Over sid) :
    s'.Over sid ∧ s'.life.filter (·.serves sid) = s.life.filter (·.serves sid) := by
  obtain ⟨new, hnew, hserves⟩ := hp.serves
  have hnone : ∀ r ∈ new, r.serves sid = false := by
    intro r hr
    refine Bool.eq_false_iff.2 ?_
    intro hserve
    obtain hlive | hfresh := hserves r hr sid hserve
    · exact h.not_live_of_over hover hlive
    · exact h.deadline_of_over hover hfresh
  rw [hnew, List.filter_append, List.filter_eq_nil_iff.2 fun r hr => by simp [hnone r hr]]
  refine ⟨?_, rfl⟩
  obtain hover | ⟨t, ht, hlt⟩ := hover
  · refine .inl ?_
    rw [hnew]
    exact List.mem_append_right new hover
  · refine .inr ⟨t, ?_, Nat.lt_of_lt_of_le hlt hp.now⟩
    rw [hnew, deadline_append, ht]
    intro time timeout hr
    simpa [LifeRecord.serves] using hnone _ hr

end Progress

theorem Tracked.of_atStart {s : State} (h : s.AtStart) : Tracked s := by
  refine ⟨?_, ?_, ?_⟩
  · intro sid x hx
    rw [h.sessions] at hx
    cases hx
  · intro sid hr
    rw [h.life] at hr
    cases hr
  · rintro sid ⟨conn, k, hk, -⟩
    cases (h.sockets conn).symm.trans hk

/-- In every orderly run: once a session is over, no method accepts it and nothing is sent on a
websocket that was opened with it. -/
theorem over_never_served_again {sha256 : Text → Text} {s : State} {es es' : List Event}
    {sid : Text} (h0 : s.AtStart) (hg : (machine sha256).Admits Orderly s (es ++ es'))
    (hover : ((machine sha256).run s es).Over sid) :
    ((machine sha256).run s (es ++ es')).Over sid ∧
      ((machine sha256).run s (es ++ es')).life.filter (·.serves sid) =
        ((machine sha256).run s es).life.filter (·.serves sid) := by
  obtain ⟨hg, hg'⟩ := Machine.admits_append.1 hg
  have htracked : Tracked ((machine sha256).run s es) :=
    Machine.invariant (I := Tracked) (fun _ e hg h => (Progress.step e hg h).tracked) hg
      (.of_atStart h0)
  rw [Machine.run_append]
  generalize (machine sha256).run s es = s₁ at hover hg' htracked ⊢
  have hrun := Machine.invariant (M := machine sha256)
    (I := fun s => Tracked s ∧ s.Over sid ∧
      s.life.filter (·.serves sid) = s₁.life.filter (·.serves sid))
    (fun s e hg h =>
      have hp := Progress.step e hg h.1
      have hkept := hp.keeps_over h.1 h.2.1
      ⟨hp.tracked, hkept.1, hkept.2.trans h.2.2⟩)
    hg' ⟨htracked, hover, rfl⟩
  exact hrun.2

/-- A session that was logged out opens no websocket. -/
theorem over_never_served_again_logout :
    let s := (machine id).run { shadow := some "root::0:" }
      [.challenge "root" "n", .login "root" [] "a",
        .logout "a"]
    let s' := (machine id).run s [.touch "a", .wsOpen 0 false (some "a")]
    s'.Over "a" ∧
      s'.life.filter (·.serves "a") = s.life.filter (·.serves "a") := by
  intro s s'
  have hg : (machine id).Admits Orderly { shadow := some "root::0:" }
      ([.challenge "root" "n", .login "root" [] "a",
        .logout "a"] ++ [.touch "a", .wsOpen 0 false (some "a")]) := by
    refine ⟨trivial, ⟨rfl, nofun⟩, ?_, nofun, trivial, trivial⟩
    rintro ⟨conn, k, hk, -⟩
    cases hk
  have hover : s.Over "a" := .inl (by decide)
  exact over_never_served_again ⟨fun _ => rfl, rfl, fun _ => rfl, fun _ => rfl, rfl, rfl⟩ hg hover

/-- A websocket is served after the logout of its session, and a session that was not used for
longer than the timeout is back after a `touch`. -/
theorem ended_session_served :
    (let s := (machine id).run { shadow := some "root::0:" }
      [.challenge "root" "n", .login "root" [] "a",
        .wsOpen 0 false (some "a"), .logout "a"]
    s.Over "a" ∧
      ((machine id).run s [.wsSubscribe 0 .mcuStatus [.mcuStatus]]).life =
        .pushed 0 "a" .mcuStatus :: s.life) ∧
    (let s := (machine id).run { shadow := some "root::0:" }
      [.challenge "root" "n", .login "root" [] "a", .tick 301]
    s.Over "a" ∧
      ((machine id).run s [.touch "a", .session "a"]).life =
        .used "a" 301 300 :: .used "a" 301 300 :: s.life) := by
  refine ⟨⟨.inl ?_, ?_⟩, ⟨.inr ⟨300, ?_, ?_⟩, ?_⟩⟩ <;> decide

end GlXe3000.Oui
