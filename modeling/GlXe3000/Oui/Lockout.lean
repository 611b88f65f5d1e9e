import GlXe3000.Lib.Limiter
import GlXe3000.Oui.System

/-! # How many passwords can be tried

A wrong hash is only counted where it is compared with the password, that is where the user is not
locked out and has a challenge that has not expired. The count is the library's `Lockout`. -/

namespace GlXe3000.Oui

def Daemon.lockout (d : Daemon) (username : Text) : Lockout :=
  ⟨((d.loginFails username).getD {}).count, ((d.loginFails username).getD {}).lockedUntil⟩

namespace State
variable (sha256 : Text → Text) (username : Text) (s : State)

/-- A login of the user whose hash is compared with the password, with this result. -/
def evaluates (result : Bool) : Event → Bool
  | .login username' hash _ => username' = username && !s.daemon.locked s.now username &&
      (s.daemon.challenges username).any fun ch =>
        s.now ≤ ch.expire && ch.accepts sha256 username hash = result
  | _ => false

def wrongHash (e : Event) : Bool := s.evaluates sha256 username false e

def loggedIn (e : Event) : Bool := s.evaluates sha256 username true e

end State

namespace Daemon
variable {d : Daemon} {now : Nat} {username username' : Text}

theorem refuses_lockout : (d.lockout username).refuses now = d.locked now username := by
  unfold locked lockout Lockout.refuses
  cases d.loginFails username <;> rfl

theorem lockout_congr {d' : Daemon} (h : d'.loginFails username = d.loginFails username) :
    d'.lockout username = d.lockout username := by
  unfold lockout
  rw [h]

theorem lockout_countFail : ((d.consume username).countFail now username).lockout username =
    (d.lockout username).fail d.config.maxLoginFail d.config.loginFailWait now := by
  unfold lockout countFail consume Lockout.fail
  by_cases hlock : d.config.maxLoginFail ≤ ((d.loginFails username).getD {}).count + 1
  · simp [hlock]
  · simp [hlock]

end Daemon

namespace State
variable {sha256 : Text → Text} {username : Text} {s : State}

inductive Attempt (sha256 : Text → Text) (username : Text) (s : State) (e : Event) (s' : State) :
    Prop
  | wrong (hwrong : s.wrongHash sha256 username e = true) (hnow : s'.now = s.now)
    (hlock : s.daemon.locked s.now username = false)
    (hfail : s'.daemon.lockout username = (s.daemon.lockout username).fail
      s.daemon.config.maxLoginFail s.daemon.config.loginFailWait s.now)
  | accepted (hacc : s.loggedIn sha256 username e = true)
    (hwrong : s.wrongHash sha256 username e = false) (hnow : s'.now = s.now)
  | neither (hwrong : s.wrongHash sha256 username e = false) (hnow : s.now ≤ s'.now)
    (hsame : s'.daemon.lockout username = s.daemon.lockout username)

theorem login_attempt (username' hash sid : Text) :
    s.Attempt sha256 username (.login username' hash sid)
      (s.login sha256 username' hash sid) := by
  have hout : s.daemon.LoginOutcome s.now s.timeout sha256 username' hash sid _ :=
    Daemon.login_outcome
  unfold State.login
  generalize s.daemon.login s.now s.timeout sha256 username' hash sid = r at hout ⊢
  by_cases hu : username' = username
  · subst hu
    cases hout with
    | lockedOut m hlock =>
      refine .neither ?_ (Nat.le_refl _) rfl
      simp [wrongHash, evaluates, hlock]
    | expired m hlock hold =>
      refine .neither ?_ (Nat.le_refl _) rfl
      cases hch : s.daemon.challenges username' with
      | none => simp [wrongHash, evaluates, hch]
      | some ch => simp [wrongHash, evaluates, hch, hold ch hch]
    | failed m ch hlock hch hexp hacc =>
      refine .wrong ?_ rfl hlock Daemon.lockout_countFail
      simp [wrongHash, evaluates, hlock, hch, hexp, hacc]
    | accepted ch hlock hch hexp hacc =>
      refine .accepted ?_ ?_ rfl
      · simp [loggedIn, evaluates, hlock, hch, hexp, hacc]
      · simp [wrongHash, evaluates, hch, hacc]
  · -- The failures of another user are not touched.
    have hwrong : s.wrongHash sha256 username (.login username' hash sid) = false := by
      simp [wrongHash, evaluates, hu]
    have hne : username ≠ username' := Ne.symm hu
    cases hout with
    | lockedOut m hlock => exact .neither hwrong (Nat.le_refl _) rfl
    | expired m hlock hold => exact .neither hwrong (Nat.le_refl _) rfl
    | failed m ch hlock hch hexp hacc =>
      exact .neither hwrong (Nat.le_refl _)
        (Daemon.lockout_congr (Function.update_of_ne hne _ _))
    | accepted ch hlock hch hexp hacc =>
      exact .neither hwrong (Nat.le_refl _)
        (Daemon.lockout_congr (Function.update_of_ne hne _ _))

theorem login_config (username' hash sid : Text) :
    (s.login sha256 username' hash sid).daemon.config = s.daemon.config := by
  have hout : s.daemon.LoginOutcome s.now s.timeout sha256 username' hash sid _ :=
    Daemon.login_outcome
  unfold State.login
  generalize s.daemon.login s.now s.timeout sha256 username' hash sid = r at hout ⊢
  cases hout <;> rfl

theorem challenge_same (username' nonce : Text) :
    (s.challenge username' nonce).now = s.now ∧
      (s.challenge username' nonce).daemon.config = s.daemon.config ∧
      (s.challenge username' nonce).daemon.lockout username = s.daemon.lockout username := by
  unfold State.challenge Daemon.challenge
  split_ifs
  · exact ⟨rfl, rfl, rfl⟩
  · exact ⟨rfl, rfl, rfl⟩
  · cases readShadowEntry s.shadow username' <;> exact ⟨rfl, rfl, rfl⟩

theorem step_attempt (e : Event) :
    (s.step sha256 e).daemon.config = s.daemon.config ∧
      s.Attempt sha256 username e (s.step sha256 e) := by
  cases e with
  | login username' hash sid =>
    exact ⟨login_config username' hash sid, login_attempt username' hash sid⟩
  | tick n => exact ⟨rfl, .neither rfl (Nat.le_add_right _ _) rfl⟩
  | passwd shadow => exact ⟨rfl, .neither rfl (Nat.le_refl _) rfl⟩
  | challenge username' nonce =>
    obtain ⟨hnow, hconfig, hsame⟩ := challenge_same (s := s) username' nonce
    exact ⟨hconfig, .neither rfl (Nat.le_of_eq hnow.symm) hsame⟩
  | _ =>
    refine ⟨(SameAuth.step rfl).config, .neither rfl (Nat.le_of_eq (SameAuth.step rfl).now.symm) ?_⟩
    exact Daemon.lockout_congr (congrFun (SameAuth.step rfl).loginFails _)

end State

section
variable (sha256 : Text → Text) (username : Text) (s : State) (es : List Event)

def wrongHashTimes : List Nat :=
  (machine sha256).times State.now (State.wrongHash sha256 username) s es

def loginTimes : List Nat :=
  (machine sha256).times State.now (State.loggedIn sha256 username) s es

end

section
variable {sha256 : Text → Text} {username : Text} {s : State} {es : List Event} {a n : Nat}

theorem held_run (hmax : 0 < s.daemon.config.maxLoginFail)
    (hno : ∀ t ∈ loginTimes sha256 username s es,
      ¬(a ≤ t ∧ t < a + s.daemon.config.loginFailWait))
    (h : Lockout.Held s.daemon.config.maxLoginFail s.daemon.config.loginFailWait a s.now
      (s.daemon.lockout username) n) :
    n + (Lockout.during s.daemon.config.loginFailWait a
      (wrongHashTimes sha256 username s es)).length ≤ s.daemon.config.maxLoginFail := by
  induction es generalizing s n with
  | nil => exact h.le
  | cons e es ih =>
    have hstep : (s.step sha256 e).daemon.config = s.daemon.config ∧
        s.Attempt sha256 username e (s.step sha256 e) := State.step_attempt e
    obtain ⟨hconfig, hattempt⟩ := hstep
    have hrest := @ih (s.step sha256 e)
    rw [hconfig] at hrest
    have hno' : ∀ t ∈ loginTimes sha256 username (s.step sha256 e) es,
        ¬(a ≤ t ∧ t < a + s.daemon.config.loginFailWait) :=
      fun t ht => hno t (List.mem_append_right _ ht)
    cases hattempt with
    | wrong hwrong hnow hlock hfail =>
      have htimes : wrongHashTimes sha256 username s (e :: es) =
          [s.now] ++ wrongHashTimes sha256 username (s.step sha256 e) es := by
        simp [wrongHashTimes, Machine.times, hwrong, machine]
      rw [htimes, Lockout.length_during_append, ← Nat.add_assoc]
      refine hrest hmax hno' ?_
      rw [hnow, hfail]
      exact h.fail hmax (Daemon.refuses_lockout.trans hlock)
    | accepted hacc hwrong hnow =>
      have htimes : wrongHashTimes sha256 username s (e :: es) =
          wrongHashTimes sha256 username (s.step sha256 e) es := by
        simp [wrongHashTimes, Machine.times, hwrong, machine]
      rw [htimes]
      refine hrest hmax hno' ?_
      rw [hnow]
      refine h.outside hmax (hno s.now ?_) _
      simp [loginTimes, Machine.times, hacc]
    | neither hwrong hnow hsame =>
      have htimes : wrongHashTimes sha256 username s (e :: es) =
          wrongHashTimes sha256 username (s.step sha256 e) es := by
        simp [wrongHashTimes, Machine.times, hwrong, machine]
      rw [htimes]
      refine hrest hmax hno' ?_
      rw [hsame]
      exact h.later hnow

/-- In an interval as long as the lock in which the user does not log in, no more wrong hashes are
compared with the password than it takes to lock the user out. -/
theorem wrong_hashes_bounded (s : State) (es : List Event) (username : Text) (a : Nat)
    (hmax : 1 ≤ s.daemon.config.maxLoginFail)
    (hno : ∀ t ∈ loginTimes sha256 username s es,
      ¬(a ≤ t ∧ t < a + s.daemon.config.loginFailWait)) :
    ((wrongHashTimes sha256 username s es).filter fun t =>
      a ≤ t && t < a + s.daemon.config.loginFailWait).length ≤ s.daemon.config.maxLoginFail := by
  have hheld : Lockout.Held s.daemon.config.maxLoginFail s.daemon.config.loginFailWait a s.now
      (s.daemon.lockout username) 0 := .zero hmax _ _ _ _
  have hle := held_run hmax hno hheld
  rw [Nat.zero_add] at hle
  exact hle

/-- Of three wrong hashes in two seconds, the third is refused without a look at it. -/
theorem wrong_hashes_bounded_two : let s : State :=
      { shadow := some "root:$1$s$h:0:", daemon := { config := { maxLoginFail := 2 } } }
    let es : List Event :=
      [.challenge "root" "n", .login "root" "guess" "a",
        .tick 1, .challenge "root" "m",
        .login "root" "other guess" "b", .tick 1,
        .challenge "root" "k", .login "root" "root:$1$s$h:k" "c"]
    wrongHashTimes id "root" s es = [0, 1] ∧
      ((wrongHashTimes id "root" s es).filter fun t =>
        0 ≤ t && t < 0 + s.daemon.config.loginFailWait).length ≤ 2 := by
  exact ⟨by decide, wrong_hashes_bounded _ _ _ 0 (by decide) (by decide)⟩

end
end GlXe3000.Oui
