import GlXe3000.Oui.Shadow

/-! # The session daemon `gl-ngx-session`

Its `ubus` methods on three tables: one pending challenge a user, the sessions, and the failed
logins. The caller supplies what a method reads from outside: the clock, the session timeout (UCI,
read anew for each use), the shadow file and the random hex of a nonce or a session id. The digest
is a parameter: nothing here depends on how `sha256` computes it. -/

namespace GlXe3000.Oui

/-- A pending challenge, with the shadow entry as it was when the challenge was made. -/
structure Challenge where
  nonce : Text
  entry : Entry
  expire : Nat
  deriving DecidableEq

structure Session where
  username : Text
  aclgroup : Text
  created : Nat
  expire : Nat
  deriving DecidableEq

structure Fail where
  count : Nat := 0
  lockedUntil : Option Nat := none
  deriving DecidableEq

/-- A section `config account` of `gl-oui-acl`. -/
structure Account where
  username : Option Text
  group : Option Text
  deriving DecidableEq

structure Config where
  maxLoginFail : Nat := 10
  loginFailWait : Nat := 600
  accounts : List Account := []
  deriving DecidableEq

/-- The table `sessions`; `pairs` visits the entries in the order of the list. -/
abbrev SessionTable := AList fun _ : Text => Session

structure Daemon where
  config : Config := {}
  challenges : Text → Option Challenge := fun _ => none
  sessions : SessionTable := ∅
  loginFails : Text → Option Fail := fun _ => none

def maxSession : Nat := 5
def challengeTtl : Nat := 2

structure Offer where
  nonce : Text
  alg : Text
  salt : Text
  deriving DecidableEq

def Entry.offer (nonce : Text) : Entry → Offer
  | .empty => ⟨nonce, "none", []⟩
  | .crypt alg salt _ => ⟨nonce, alg, salt⟩

namespace SessionTable

/-- The scan of `evict_oldest_session_if_full`: the first of the sessions created first. -/
def oldest (t : SessionTable) : Option Text :=
  (t.entries.foldl (fun o e =>
    match o with
    | none => some e
    | some m => if e.2.created < m.2.created then some e else some m) none).map (·.1)

def victim (t : SessionTable) : Option Text :=
  if maxSession ≤ t.keys.length then t.oldest else none

def evictOldestSessionIfFull (t : SessionTable) : SessionTable :=
  match t.victim with
  | some sid => t.erase sid
  | none => t

end SessionTable

namespace Daemon
variable (d : Daemon) (now timeout : Nat)

/-- `fail and fail.locked_until and now() < fail.locked_until`. -/
def locked (username : Text) : Bool :=
  ((d.loginFails username).bind Fail.lockedUntil).any (now < ·)

def lookupAclgroup (username : Text) : Text :=
  if username = "root" then "root"
  else
    (d.config.accounts.foldl
      (fun group a => if a.username = some username then a.group else group) none).getD
      "guest"

def challenge (shadow : Option Text) (username nonce : Text) : Except String Offer × Daemon :=
  if username.isEmpty then (.error "invalid username", d)
  else if d.locked now username then (.error "Login fail number over limit", d)
  else
    match readShadowEntry shadow username with
    | none => (.error "invalid username or password", d)
    | some entry =>
      (.ok (entry.offer nonce), { d with
        challenges := Function.update d.challenges username
          (some ⟨nonce, entry, now + challengeTtl⟩) })

def countFail (username : Text) : Daemon :=
  let f := (d.loginFails username).getD {}
  let f' : Fail :=
    if d.config.maxLoginFail ≤ f.count + 1 then ⟨0, some (now + d.config.loginFailWait)⟩
    else { f with count := f.count + 1 }
  { d with loginFails := Function.update d.loginFails username (some f') }

/-- The end of a login that is accepted: the failures are forgotten, and a session is entered. -/
def openSession (username sid : Text) : Daemon :=
  { d with
    loginFails := Function.update d.loginFails username none
    sessions := d.sessions.evictOldestSessionIfFull.insert sid
      ⟨username, d.lookupAclgroup username, now, now + timeout⟩ }

/-- `challenges[username] = nil`. -/
def consume (username : Text) : Daemon :=
  { d with challenges := Function.update d.challenges username none }

end Daemon

/-- What the client's hash is compared with, for a user whose password field is `field`. -/
def expectedHash (sha256 : Text → Text) (username field nonce : Text) : Text :=
  sha256 (username ++ ':' :: field ++ ':' :: nonce)

def Challenge.accepts (sha256 : Text → Text) (ch : Challenge) (username hash : Text) : Bool :=
  match ch.entry with
  | .empty => true
  | .crypt _ _ _ => hash = expectedHash sha256 username ch.entry.full ch.nonce

namespace Daemon
variable (d : Daemon) (now timeout : Nat)

def login (sha256 : Text → Text) (username hash sid : Text) : Except String Text × Daemon :=
  if d.locked now username then (.error "Login fail number over limit", d)
  else
    match d.challenges username with
    | none => (.error "challenge expired", d.consume username)
    | some ch =>
      if ch.expire < now then (.error "challenge expired", d.consume username)
      else if ch.accepts sha256 username hash then
        (.ok sid, (d.consume username).openSession now timeout username sid)
      else (.error "invalid username or password", (d.consume username).countFail now username)

def logout (sid : Text) : Daemon := { d with sessions := d.sessions.erase sid }

def extend (sid : Text) (x : Session) : Daemon :=
  { d with sessions := d.sessions.insert sid { x with expire := now + timeout } }

/-- Answers the user and the group of a session that has not expired, and drops one that has. -/
def session (sid : Text) : Option (Text × Text) × Daemon :=
  match d.sessions.lookup sid with
  | none => (none, d)
  | some x =>
    if x.expire < now then (none, d.logout sid)
    else (some (x.username, x.aclgroup), d.extend now timeout sid x)

def touch (sid : Text) : Daemon :=
  match d.sessions.lookup sid with
  | none => d
  | some x => d.extend now timeout sid x

def clearSession : Daemon := { d with sessions := ∅ }

end Daemon

/-! ## What the methods do to the tables -/

namespace SessionTable
variable {t : SessionTable} {sid : Text} {x : Session}

theorem lookup_evict (h : t.evictOldestSessionIfFull.lookup sid = some x) :
    t.lookup sid = some x ∧ t.victim ≠ some sid := by
  unfold evictOldestSessionIfFull at h
  split at h
  · next v hv =>
    by_cases hsid : sid = v
    · subst hsid
      rw [AList.lookup_erase] at h
      cases h
    · rw [AList.lookup_erase_ne hsid] at h
      exact ⟨h, fun hv' => hsid (Option.some.inj (hv'.symm.trans hv))⟩
  · next hv => exact ⟨h, fun hv' => nomatch hv.symm.trans hv'⟩

theorem victim_mem (h : t.victim = some sid) : ∃ x, t.lookup sid = some x := by
  have hscan : ∀ (l : List (Sigma fun _ : Text => Session)) (o : Option (Sigma fun _ => Session)) e,
      l.foldl (fun o e =>
        match o with
        | none => some e
        | some m => if e.2.created < m.2.created then some e else some m) o = some e →
      e ∈ l ∨ o = some e := by
    intro l
    induction l with
    | nil => exact fun o e h => .inr h
    | cons a l ih =>
      intro o e h
      obtain h | h := ih _ e h
      · exact .inl (List.mem_cons_of_mem a h)
      · cases o with
        | none => cases h; exact .inl List.mem_cons_self
        | some m =>
          dsimp only at h
          split at h
          · cases h; exact .inl List.mem_cons_self
          · exact .inr h
  unfold victim at h
  split at h
  · obtain ⟨e, he, rfl⟩ := Option.map_eq_some_iff.1 h
    obtain he | he := hscan _ _ e he
    · exact ⟨e.2, AList.mem_lookup_iff.2 he⟩
    · cases he
  · cases h

theorem lookup_evict_of_ne (h : t.lookup sid = some x) (hv : t.victim ≠ some sid) :
    t.evictOldestSessionIfFull.lookup sid = some x := by
  unfold evictOldestSessionIfFull
  split
  · next v hv' =>
    rw [AList.lookup_erase_ne fun hsid => hv (by rw [hv', hsid])]
    exact h
  · exact h

end SessionTable

namespace Daemon
variable {d : Daemon} {now timeout : Nat} {sha256 : Text → Text} {username hash sid : Text}

inductive LoginOutcome (d : Daemon) (now timeout : Nat) (sha256 : Text → Text)
    (username hash sid : Text) : Except String Text × Daemon → Prop
  | lockedOut (m : String) (hlock : d.locked now username = true) :
    LoginOutcome d now timeout sha256 username hash sid (.error m, d)
  | expired (m : String) (hlock : d.locked now username = false)
    (hold : ∀ ch, d.challenges username = some ch → ch.expire < now) :
    LoginOutcome d now timeout sha256 username hash sid (.error m, d.consume username)
  | failed (m : String) (ch : Challenge) (hlock : d.locked now username = false)
    (hch : d.challenges username = some ch) (hexp : now ≤ ch.expire)
    (hacc : ch.accepts sha256 username hash = false) :
    LoginOutcome d now timeout sha256 username hash sid
      (.error m, (d.consume username).countFail now username)
  | accepted (ch : Challenge) (hlock : d.locked now username = false)
    (hch : d.challenges username = some ch) (hexp : now ≤ ch.expire)
    (hacc : ch.accepts sha256 username hash = true) :
    LoginOutcome d now timeout sha256 username hash sid
      (.ok sid, (d.consume username).openSession now timeout username sid)

theorem login_outcome :
    LoginOutcome d now timeout sha256 username hash sid
      (d.login now timeout sha256 username hash sid) := by
  unfold login
  cases hlock : d.locked now username with
  | true => exact .lockedOut _ hlock
  | false =>
    cases hch : d.challenges username with
    | none =>
      refine .expired _ hlock ?_
      intro ch h
      cases hch.symm.trans h
    | some ch =>
      dsimp only
      by_cases hexp : ch.expire < now
      · rw [if_neg Bool.false_ne_true, if_pos hexp]
        refine .expired _ hlock ?_
        intro ch' h
        cases hch.symm.trans h
        exact hexp
      · rw [if_neg Bool.false_ne_true, if_neg hexp]
        cases hacc : ch.accepts sha256 username hash with
        | false => exact .failed _ ch hlock hch (Nat.le_of_not_lt hexp) hacc
        | true => exact .accepted ch hlock hch (Nat.le_of_not_lt hexp) hacc

end Daemon
end GlXe3000.Oui
