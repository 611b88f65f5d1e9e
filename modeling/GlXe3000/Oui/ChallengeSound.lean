import GlXe3000.Oui.System

/-! # A login answers a challenge

There is one slot for a pending challenge a user, which any client can overwrite or use up. What
keeps the slot sound over all interleavings: it holds a nonce that no login was based on and that is
in no other slot, and it is empty while the user is locked out, since the failure that locks a user
out has used the challenge up and no other is given until the lock ends. -/

namespace GlXe3000.Oui

def FreshNonces (s : State) : Event → Prop
  | .challenge _ nonce => ∀ c, AuthRecord.challenge c ∈ s.auth → c.nonce ≠ nonce
  | _ => True

/-- The challenge is in the log, and the user's password field is what it was then unless the shadow
file has been written since. -/
def Stands (auth : List AuthRecord) (c : ChallengeCall) (field : Option Text) : Prop :=
  ∃ later before, auth = later ++ .challenge c :: before ∧
    (AuthRecord.passwd ∈ later ∨ c.field = field)

/-- The login `l`, made after `earlier`, is based on the challenge `c` and gives the right hash for
it, where the user had a password when the challenge was made. -/
structure Answers (sha256 : Text → Text) (l : LoginCall) (earlier : List AuthRecord)
    (c : ChallengeCall) : Prop where
  made : Stands earlier c l.field
  username : c.username = l.username
  nonce : l.nonce = some c.nonce
  after : c.time ≤ l.time
  soon : l.time ≤ c.time + 2
  hash : ∃ field, c.field = some field ∧
    (field ≠ [] → l.hash = expectedHash sha256 l.username field c.nonce)

/-- An accepted login answers a challenge, and no login before it was based on the same nonce. -/
structure Justified (sha256 : Text → Text) (l : LoginCall) (earlier : List AuthRecord) : Prop where
  answers : l.accepted = true → ∃ c, Answers sha256 l earlier c
  once : ∀ n, l.nonce = some n → ∀ l', AuthRecord.login l' ∈ earlier → l'.nonce ≠ some n

namespace Stands
variable {auth : List AuthRecord} {c : ChallengeCall} {field field' : Option Text}

theorem mem (h : Stands auth c field) : AuthRecord.challenge c ∈ auth := by
  obtain ⟨later, before, rfl, -⟩ := h
  simp

theorem cons (r : AuthRecord) (h : Stands auth c field) : Stands (r :: auth) c field := by
  obtain ⟨later, before, rfl, hfield⟩ := h
  exact ⟨r :: later, before, rfl, hfield.imp_left (List.mem_cons_of_mem r)⟩

theorem passwd (h : Stands auth c field) : Stands (.passwd :: auth) c field' := by
  obtain ⟨later, before, rfl, -⟩ := h
  exact ⟨.passwd :: later, before, rfl, .inl List.mem_cons_self⟩

end Stands

namespace AuthRecord
variable {r : AuthRecord} {l : LoginCall} {auth earlier : List AuthRecord}

def isLogin : AuthRecord → Bool
  | .login _ => true
  | _ => false

theorem mem_of_cons (hr : r.isLogin = false) (h : .login l ∈ r :: auth) : .login l ∈ auth := by
  obtain rfl | h := List.mem_cons.1 h
  · cases hr
  · exact h

theorem suffix_of_cons (hr : r.isLogin = false) (h : .login l :: earlier <:+ r :: auth) :
    .login l :: earlier <:+ auth := by
  rcases List.suffix_cons_iff.1 h with h | h
  · cases h
    cases hr
  · exact h

end AuthRecord

structure Issued (s : State) (username : Text) (ch : Challenge) (c : ChallengeCall) : Prop where
  made : Stands s.auth c (passwordField s.shadow username)
  username : c.username = username
  nonce : c.nonce = ch.nonce
  expire : ch.expire = c.time + challengeTtl
  past : c.time ≤ s.now
  field : c.field = some ch.entry.full

structure Sound (sha256 : Text → Text) (s : State) : Prop where
  issued : ∀ u ch, s.daemon.challenges u = some ch → ∃ c, Issued s u ch c
  unused : ∀ u ch, s.daemon.challenges u = some ch →
    ∀ l, AuthRecord.login l ∈ s.auth → l.nonce ≠ some ch.nonce
  distinct : ∀ u u' ch ch', s.daemon.challenges u = some ch → s.daemon.challenges u' = some ch' →
    ch.nonce = ch'.nonce → u = u'
  known : ∀ l n, AuthRecord.login l ∈ s.auth → l.nonce = some n →
    ∃ c, AuthRecord.challenge c ∈ s.auth ∧ c.nonce = n
  lockedOut : ∀ u, s.daemon.locked s.now u = true → s.daemon.challenges u = none
  history : ∀ l earlier, .login l :: earlier <:+ s.auth → Justified sha256 l earlier

namespace Sound
variable {sha256 : Text → Text} {s s' : State} {u hash sid : Text}

theorem of_same (h : Sound sha256 s) (hs : SameAuth s s') : Sound sha256 s' := by
  have hlocked : ∀ u, s'.daemon.locked s'.now u = s.daemon.locked s.now u := by
    intro u
    simp only [Daemon.locked, hs.now, hs.loginFails]
  constructor
  · intro u ch hch
    rw [hs.challenges] at hch
    obtain ⟨c, hc⟩ := h.issued u ch hch
    refine ⟨c, ?_, hc.username, hc.nonce, hc.expire, ?_, hc.field⟩
    · rw [hs.auth, hs.shadow]; exact hc.made
    · rw [hs.now]; exact hc.past
  · rw [hs.challenges, hs.auth]; exact h.unused
  · rw [hs.challenges]; exact h.distinct
  · rw [hs.auth]; exact h.known
  · intro u hu
    rw [hlocked] at hu
    rw [hs.challenges]
    exact h.lockedOut u hu
  · rw [hs.auth]; exact h.history

theorem tick (n : Nat) (h : Sound sha256 s) : Sound sha256 { s with now := s.now + n } := by
  refine { h with issued := ?_, lockedOut := ?_ }
  · intro u ch hch
    obtain ⟨c, hc⟩ := h.issued u ch hch
    exact ⟨c, { hc with past := Nat.le_add_right_of_le hc.past }⟩
  · intro u hu
    refine h.lockedOut u ?_
    simp only [Daemon.locked, Option.any_eq_true, decide_eq_true_eq] at hu ⊢
    obtain ⟨t, ht, hlt⟩ := hu
    exact ⟨t, ht, Nat.lt_of_add_right_lt hlt⟩

theorem passwd (shadow : Option Text) (h : Sound sha256 s) :
    Sound sha256 { s with shadow := shadow, auth := .passwd :: s.auth } := by
  refine { h with issued := ?_, unused := ?_, known := ?_, history := ?_ }
  · intro u ch hch
    obtain ⟨c, hc⟩ := h.issued u ch hch
    exact ⟨c, { hc with made := hc.made.passwd }⟩
  · intro u ch hch l hl
    exact h.unused u ch hch l (AuthRecord.mem_of_cons rfl hl)
  · intro l n hl hn
    obtain ⟨c, hc, hcn⟩ := h.known l n (AuthRecord.mem_of_cons rfl hl) hn
    exact ⟨c, List.mem_cons_of_mem _ hc, hcn⟩
  · intro l earlier hl
    exact h.history l earlier (AuthRecord.suffix_of_cons rfl hl)

theorem challenge (hfresh : FreshNonces s (.challenge u nonce))
    (h : Sound sha256 s) : Sound sha256 (s.challenge u nonce) := by
  unfold State.challenge Daemon.challenge
  split_ifs with hempty hlock
  · exact h
  · exact h
  cases hentry : readShadowEntry s.shadow u with
  | none => exact h
  | some entry =>
    dsimp only
    -- The slot of `u` is written; the nonce in it is in no other slot and in no record.
    have hnew : ∀ u' ch, s.daemon.challenges u' = some ch → ch.nonce ≠ nonce := by
      intro u' ch hch
      obtain ⟨c, hc⟩ := h.issued u' ch hch
      rw [← hc.nonce]
      exact hfresh c hc.made.mem
    have hslot : ∀ u' ch, Function.update s.daemon.challenges u
        (some ⟨nonce, entry, s.now + challengeTtl⟩) u' = some ch →
        (u' = u ∧ ch = ⟨nonce, entry, s.now + challengeTtl⟩) ∨
          s.daemon.challenges u' = some ch := by
      intro u' ch hch
      by_cases hu : u' = u
      · subst hu
        rw [Function.update_self] at hch
        exact .inl ⟨rfl, (Option.some.inj hch).symm⟩
      · rw [Function.update_of_ne hu] at hch
        exact .inr hch
    obtain ⟨content, hshadow, hfield⟩ := readShadowEntry_full hentry
    constructor
    · intro u' ch hch
      obtain ⟨rfl, rfl⟩ | hch := hslot u' ch hch
      · refine ⟨_, ⟨[], s.auth, rfl, .inr rfl⟩, rfl, rfl, rfl, Nat.le_refl _, ?_⟩
        simp only [passwordField, hshadow]
        exact hfield
      · obtain ⟨c, hc⟩ := h.issued u' ch hch
        exact ⟨c, { hc with made := hc.made.cons _ }⟩
    · intro u' ch hch l hl hn
      replace hl := AuthRecord.mem_of_cons rfl hl
      obtain ⟨rfl, rfl⟩ | hch := hslot u' ch hch
      · obtain ⟨c, hc, hcn⟩ := h.known l _ hl hn
        exact hfresh c hc hcn
      · exact h.unused u' ch hch l hl hn
    · intro u₁ u₂ ch₁ ch₂ h₁ h₂ hn
      obtain ⟨rfl, rfl⟩ | hold₁ := hslot u₁ ch₁ h₁
      · obtain ⟨rfl, rfl⟩ | hold₂ := hslot u₂ ch₂ h₂
        · rfl
        · exact absurd hn.symm (hnew u₂ ch₂ hold₂)
      · obtain ⟨rfl, rfl⟩ | hold₂ := hslot u₂ ch₂ h₂
        · exact absurd hn (hnew u₁ ch₁ hold₁)
        · exact h.distinct u₁ u₂ ch₁ ch₂ hold₁ hold₂ hn
    · intro l n hl hn
      obtain ⟨c, hc, hcn⟩ := h.known l n (AuthRecord.mem_of_cons rfl hl) hn
      exact ⟨c, List.mem_cons_of_mem _ hc, hcn⟩
    · intro u' hu'
      by_cases hu : u' = u
      · subst hu; exact absurd hu' hlock
      · exact (Function.update_of_ne hu ..).trans (h.lockedOut u' hu')
    · intro l earlier hl
      exact h.history l earlier (AuthRecord.suffix_of_cons rfl hl)

theorem attempt (h : Sound sha256 s) (hnow : s'.now = s.now) (hshadow : s'.shadow = s.shadow)
    (hauth : s'.auth = .login (s.loginCall u hash accepted) :: s.auth)
    (hslot : s'.daemon.challenges = Function.update s.daemon.challenges u none)
    (hlocked : ∀ u', u' ≠ u → s'.daemon.locked s.now u' = s.daemon.locked s.now u')
    (hacc : accepted = true → ∃ c, Answers sha256 (s.loginCall u hash accepted) s.auth c) :
    Sound sha256 s' := by
  have hother : ∀ u' ch, s'.daemon.challenges u' = some ch →
      u' ≠ u ∧ s.daemon.challenges u' = some ch := by
    intro u' ch hch
    rw [hslot] at hch
    by_cases hu : u' = u
    · subst hu
      rw [Function.update_self] at hch
      cases hch
    · rw [Function.update_of_ne hu] at hch
      exact ⟨hu, hch⟩
  have hbasis : ∀ n, (s.loginCall u hash accepted).nonce = some n →
      ∃ ch, s.daemon.challenges u = some ch ∧ ch.nonce = n := by
    intro n hn
    exact Option.map_eq_some_iff.1 hn
  constructor
  · intro u' ch hch
    obtain ⟨c, hc⟩ := h.issued u' ch (hother u' ch hch).2
    refine ⟨c, ?_, hc.username, hc.nonce, hc.expire, hnow ▸ hc.past, hc.field⟩
    rw [hauth, hshadow]
    exact hc.made.cons _
  · intro u' ch hch l hl hn
    obtain ⟨hu, hch⟩ := hother u' ch hch
    rw [hauth] at hl
    obtain hl | hl := List.mem_cons.1 hl
    · cases hl
      obtain ⟨ch', hch', hn'⟩ := hbasis _ hn
      exact hu (h.distinct u' u ch ch' hch hch' hn'.symm)
    · exact h.unused u' ch hch l hl hn
  · intro u₁ u₂ ch₁ ch₂ h₁ h₂
    exact h.distinct u₁ u₂ ch₁ ch₂ (hother u₁ ch₁ h₁).2 (hother u₂ ch₂ h₂).2
  · intro l n hl hn
    rw [hauth] at hl ⊢
    obtain hl | hl := List.mem_cons.1 hl
    · cases hl
      obtain ⟨ch, hch, rfl⟩ := hbasis n hn
      obtain ⟨c, hc⟩ := h.issued u ch hch
      exact ⟨c, List.mem_cons_of_mem _ hc.made.mem, hc.nonce⟩
    · obtain ⟨c, hc, hcn⟩ := h.known l n hl hn
      exact ⟨c, List.mem_cons_of_mem _ hc, hcn⟩
  · intro u' hu'
    rw [hslot]
    by_cases hu : u' = u
    · subst hu; exact Function.update_self ..
    · rw [hnow, hlocked u' hu] at hu'
      exact (Function.update_of_ne hu ..).trans (h.lockedOut u' hu')
  · intro l earlier hl
    rw [hauth] at hl
    obtain hl | hl := List.suffix_cons_iff.1 hl
    · cases hl
      refine ⟨hacc, ?_⟩
      intro n hn l' hl'
      obtain ⟨ch, hch, rfl⟩ := hbasis n hn
      exact h.unused u ch hch l' hl'
    · exact h.history l earlier hl

theorem answers {ch : Challenge} (h : Sound sha256 s) (hch : s.daemon.challenges u = some ch)
    (hexp : s.now ≤ ch.expire) (hacc : ch.accepts sha256 u hash = true) :
    ∃ c, Answers sha256 (s.loginCall u hash true) s.auth c := by
  obtain ⟨c, hc⟩ := h.issued u ch hch
  refine ⟨c, hc.made, hc.username, ?_, hc.past, ?_, ch.entry.full, hc.field, ?_⟩
  · simp only [State.loginCall, hch, Option.map_some, hc.nonce]
  · rw [hc.expire] at hexp
    exact hexp
  · intro hfield
    unfold Challenge.accepts at hacc
    split at hacc
    · next hempty => rw [hempty] at hfield; exact absurd rfl hfield
    · rw [hc.nonce]
      exact of_decide_eq_true hacc

theorem login (h : Sound sha256 s) : Sound sha256 (s.login sha256 u hash sid) := by
  have hout : Daemon.LoginOutcome s.daemon s.now s.timeout sha256 u hash sid _ :=
    Daemon.login_outcome
  unfold State.login
  generalize s.daemon.login s.now s.timeout sha256 u hash sid = r at hout ⊢
  cases hout with
  | lockedOut m hlock =>
    refine h.attempt rfl rfl rfl ?_ (fun _ _ => rfl) nofun
    rw [← h.lockedOut u hlock, Function.update_eq_self]
  | expired m hlock hold => exact h.attempt rfl rfl rfl rfl (fun _ _ => rfl) nofun
  | failed m ch hlock hch hexp hacc =>
    refine h.attempt rfl rfl rfl rfl ?_ nofun
    intro u' hu
    simp only [Daemon.locked, Daemon.countFail, Function.update_of_ne hu, Daemon.consume]
  | accepted ch hlock hch hexp hacc =>
    refine h.attempt rfl rfl rfl rfl ?_ fun _ => h.answers hch hexp hacc
    intro u' hu
    simp only [Daemon.locked, Daemon.openSession, Function.update_of_ne hu, Daemon.consume]

theorem step (e : Event) (hfresh : FreshNonces s e) (h : Sound sha256 s) :
    Sound sha256 (s.step sha256 e) := by
  cases e with
  | tick n => exact h.tick n
  | passwd shadow => exact h.passwd shadow
  | challenge u nonce => exact h.challenge hfresh
  | login u hash sid => exact h.login
  | _ => exact h.of_same (.step rfl)

theorem of_atStart (h : s.AtStart) : Sound sha256 s := by
  constructor
  · intro u ch hch
    cases (h.challenges u).symm.trans hch
  · intro u ch hch
    cases (h.challenges u).symm.trans hch
  · intro u u' ch ch' hch
    cases (h.challenges u).symm.trans hch
  · intro l n hl
    rw [h.auth] at hl
    cases hl
  · exact fun u _ => h.challenges u
  · intro l earlier hl
    rw [h.auth] at hl
    cases List.suffix_nil.1 hl

end Sound

/-- Over all interleavings: an accepted login comes at most two seconds after a challenge for the
same user, with the hash of the password field of that time and of the challenge's nonce, and no two
logins are based on one nonce, whether they are accepted or not. -/
theorem accepted_login_answers_challenge {sha256 : Text → Text} {s : State} {es : List Event}
    (h0 : s.AtStart) (hfresh : (machine sha256).Admits FreshNonces s es) {l : LoginCall}
    {earlier : List AuthRecord} (hl : .login l :: earlier <:+ ((machine sha256).run s es).auth) :
    (l.accepted = true → ∃ c, Answers sha256 l earlier c) ∧
      ∀ n, l.nonce = some n → ∀ l', AuthRecord.login l' ∈ earlier → l'.nonce ≠ some n := by
  have hsound : Sound sha256 ((machine sha256).run s es) :=
    Machine.invariant (fun _ e => Sound.step e) hfresh (Sound.of_atStart h0)
  exact ⟨(hsound.history l earlier hl).answers, (hsound.history l earlier hl).once⟩

/-- One challenge and, a second later, the right hash, with the identity in place of the digest. -/
theorem accepted_login_answers_challenge_root :
    ∃ c, Answers id
      ⟨"root", "root:$1$s$h:n", 1, some "$1$s$h", some "n", true⟩
      [.challenge ⟨"root", "n", 0, some "$1$s$h"⟩] c := by
  have hlog : [.login ⟨"root", "root:$1$s$h:n", 1, some "$1$s$h",
        some "n", true⟩, .challenge ⟨"root", "n", 0, some "$1$s$h"⟩] <:+
      ((machine id).run { shadow := some "root:$1$s$h:0:" }
        [.challenge "root" "n", .tick 1,
          .login "root" "root:$1$s$h:n" "sid"]).auth :=
    ⟨[], by decide⟩
  refine (accepted_login_answers_challenge ?_ ?_ hlog).1 rfl
  · exact ⟨fun _ => rfl, rfl, fun _ => rfl, fun _ => rfl, rfl, rfl⟩
  · exact ⟨nofun, trivial, trivial, trivial⟩

end GlXe3000.Oui
