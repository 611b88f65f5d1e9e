import GlXe3000.Lib.Machine
import GlXe3000.Oui.Session

/-! # The daemon, its callers and the websockets

The machine interleaves the calls of any number of clients with the clock, with writes to the shadow
file and the timeout, and with the connections of `oui-ws.lua`. Each `ubus` call is one step, as
the daemon handles one at a time. Two logs, newest record first, note what happened: `auth` the
challenges and logins, `life` the uses and ends of sessions and what their websockets were sent. -/

namespace GlXe3000.Oui

/-- The keys of `TOPICS`. -/
inductive Topic
  | cableStatus
  | repeaterStatus
  | cellularModemsInfo
  | cellularModemsStatus
  | cellularSimsInfo
  | cellularSimsStatus
  | cellularNetworksInfo
  | cellularNetworksStatus
  | mcuStatus
  | networkQualityStatus
  | meshConfig
  | meshStatus
  | meshTopology
  | vpnclientStatus
  | cloudStatus
  deriving DecidableEq

/-- The topics whose name starts with `cellular.`. -/
def Topic.cellular : List Topic :=
  [.cellularModemsInfo, .cellularModemsStatus, .cellularSimsInfo, .cellularSimsStatus,
    .cellularNetworksInfo, .cellularNetworksStatus]

/-- A websocket: the `sid` it was opened with, if any, and its subscriptions. -/
structure Socket where
  sid : Option Text
  subscribed : List Topic := []
  deriving DecidableEq

namespace Socket

def companions (k : Socket) (topic : Topic) : List Topic :=
  if topic ∈ Topic.cellular then
    Topic.cellular.filter fun u => u ≠ topic ∧ u ∉ k.subscribed
  else []

def subscribe (k : Socket) (topic : Topic) : Socket :=
  { k with subscribed := k.subscribed.insert topic ++ k.companions topic }

def unsubscribe (k : Socket) (topic : Topic) : Socket :=
  { k with subscribed := k.subscribed.filter (· ≠ topic) }

end Socket

structure ChallengeCall where
  username : Text
  nonce : Text
  time : Nat
  field : Option Text
  deriving DecidableEq

/-- A call of `login`. -/
structure LoginCall where
  username : Text
  hash : Text
  time : Nat
  field : Option Text
  nonce : Option Text
  accepted : Bool
  deriving DecidableEq

inductive AuthRecord
  | challenge (c : ChallengeCall)
  | login (l : LoginCall)
  | passwd
  deriving DecidableEq

inductive LifeRecord
  /-- A method accepted the session, which is to last `timeout` from then on. -/
  | used (sid : Text) (time timeout : Nat)
  | ended (sid : Text)
  | pushed (conn : Nat) (sid : Text) (topic : Topic)
  deriving DecidableEq

structure State where
  now : Nat := 0
  timeout : Nat := 300
  shadow : Option Text := none
  daemon : Daemon := {}
  sockets : Nat → Option Socket := fun _ => none
  auth : List AuthRecord := []
  life : List LifeRecord := []

inductive Event
  | tick (n : Nat)
  /-- `session_timeout` is set. -/
  | configure (timeout : Nat)
  | passwd (shadow : Option Text)
  /-- The session table is laid out anew, so that `pairs` visits it in another order. -/
  | shuffle (order : SessionTable)
  | challenge (username nonce : Text)
  | login (username hash sid : Text)
  | logout (sid : Text)
  | session (sid : Text)
  | touch (sid : Text)
  | clearSession
  | wsOpen (conn : Nat) (loopback : Bool) (sid : Option Text)
  /-- No frame came for `POLL_INTERVAL_MS`. The topics of `answering` have something to send. -/
  | wsTimeout (conn : Nat) (ubus : Bool) (answering : List Topic)
  | wsSubscribe (conn : Nat) (topic : Topic) (answering : List Topic)
  | wsUnsubscribe (conn : Nat) (topic : Topic)
  | wsClose (conn : Nat)

def passwordField (shadow : Option Text) (username : Text) : Option Text :=
  shadow.bind fun content => shadowString content username

namespace State
variable (s : State)

def challenge (username nonce : Text) : State :=
  match s.daemon.challenge s.now s.shadow username nonce with
  | (.ok _, d) =>
    { s with
      daemon := d
      auth := .challenge ⟨username, nonce, s.now, passwordField s.shadow username⟩ :: s.auth }
  | (.error _, d) => { s with daemon := d }

def loginCall (username hash : Text) (accepted : Bool) : LoginCall :=
  ⟨username, hash, s.now, passwordField s.shadow username,
    (s.daemon.challenges username).map Challenge.nonce, accepted⟩

def login (sha256 : Text → Text) (username hash sid : Text) : State :=
  match s.daemon.login s.now s.timeout sha256 username hash sid with
  | (.ok sid, d) =>
    { s with
      daemon := d
      auth := .login (s.loginCall username hash true) :: s.auth
      life := .used sid s.now s.timeout ::
        s.daemon.sessions.victim.toList.map LifeRecord.ended ++ s.life }
  | (.error _, d) =>
    { s with daemon := d, auth := .login (s.loginCall username hash false) :: s.auth }

def logout (sid : Text) : State :=
  { s with
    daemon := s.daemon.logout sid
    life := if (s.daemon.sessions.lookup sid).isSome then .ended sid :: s.life else s.life }

def session (sid : Text) : Bool × State :=
  match s.daemon.session s.now s.timeout sid with
  | (some _, d) => (true, { s with daemon := d, life := .used sid s.now s.timeout :: s.life })
  | (none, d) => (false, { s with daemon := d })

def touch (sid : Text) : State :=
  { s with
    daemon := s.daemon.touch s.now s.timeout sid
    life :=
      if (s.daemon.sessions.lookup sid).isSome then .used sid s.now s.timeout :: s.life
      else s.life }

def clearSession : State :=
  { s with
    daemon := s.daemon.clearSession
    life := s.daemon.sessions.keys.map LifeRecord.ended ++ s.life }

def setSocket (conn : Nat) (k : Option Socket) : State :=
  { s with sockets := Function.update s.sockets conn k }

/-- `push_topic` for each topic that has something to send. -/
def push (conn : Nat) (k : Socket) (answering topics : List Topic) : State :=
  { s with
    life := k.sid.toList.flatMap (fun sid =>
      (topics.filter (· ∈ answering)).map (LifeRecord.pushed conn sid)) ++ s.life }

def wsOpen (conn : Nat) (loopback : Bool) (sid : Option Text) : State :=
  match s.sockets conn, sid with
  | some _, _ => s
  | none, none => if loopback then s.setSocket conn (some ⟨none, []⟩) else s
  | none, some sid =>
    let (accepted, s) := s.session sid
    if accepted then s.setSocket conn (some ⟨some sid, []⟩) else s

/-- The session is touched, if `ubus` can be reached, and all that is subscribed is sent. -/
def wsTimeout (conn : Nat) (ubus : Bool) (answering : List Topic) : State :=
  match s.sockets conn with
  | none => s
  | some k =>
    let s :=
      match k.sid with
      | some sid => if ubus then s.touch sid else s
      | none => s
    s.push conn k answering k.subscribed

def wsSubscribe (conn : Nat) (topic : Topic) (answering : List Topic) : State :=
  match s.sockets conn with
  | none => s
  | some k =>
    (s.setSocket conn (some (k.subscribe topic))).push conn k answering
      (topic :: k.companions topic)

def wsUnsubscribe (conn : Nat) (topic : Topic) : State :=
  match s.sockets conn with
  | none => s
  | some k => s.setSocket conn (some (k.unsubscribe topic))

def step (sha256 : Text → Text) : Event → State
  | .tick n => { s with now := s.now + n }
  | .configure timeout => { s with timeout := timeout }
  | .passwd shadow => { s with shadow := shadow, auth := .passwd :: s.auth }
  | .shuffle order =>
    if order.entries.Perm s.daemon.sessions.entries then
      { s with daemon := { s.daemon with sessions := order } }
    else s
  | .challenge username nonce => s.challenge username nonce
  | .login username hash sid => s.login sha256 username hash sid
  | .logout sid => s.logout sid
  | .session sid => (s.session sid).2
  | .touch sid => s.touch sid
  | .clearSession => s.clearSession
  | .wsOpen conn loopback sid => s.wsOpen conn loopback sid
  | .wsTimeout conn ubus answering => s.wsTimeout conn ubus answering
  | .wsSubscribe conn topic answering => s.wsSubscribe conn topic answering
  | .wsUnsubscribe conn topic => s.wsUnsubscribe conn topic
  | .wsClose conn => s.setSocket conn none

/-- The daemon has just started: it knows no challenge, no session and no failure, and no websocket
is open. The clock, the files and the configuration may be anything. -/
structure AtStart : Prop where
  challenges : ∀ u, s.daemon.challenges u = none
  sessions : s.daemon.sessions = ∅
  loginFails : ∀ u, s.daemon.loginFails u = none
  sockets : ∀ conn, s.sockets conn = none
  auth : s.auth = []
  life : s.life = []

end State

def machine (sha256 : Text → Text) : Machine State Event := ⟨fun s e => s.step sha256 e⟩

def Event.authenticates : Event → Bool
  | .tick _ | .passwd _ | .challenge _ _ | .login _ _ _ => true
  | _ => false

structure SameAuth (s s' : State) : Prop where
  now : s'.now = s.now
  shadow : s'.shadow = s.shadow
  challenges : s'.daemon.challenges = s.daemon.challenges
  loginFails : s'.daemon.loginFails = s.daemon.loginFails
  config : s'.daemon.config = s.daemon.config
  auth : s'.auth = s.auth

namespace SameAuth
variable {s : State} {sid : Text}

theorem trans (h : SameAuth s s') (h' : SameAuth s' s'') : SameAuth s s'' :=
  ⟨h'.now.trans h.now, h'.shadow.trans h.shadow, h'.challenges.trans h.challenges,
    h'.loginFails.trans h.loginFails, h'.config.trans h.config, h'.auth.trans h.auth⟩

theorem session : SameAuth s (s.session sid).2 := by
  unfold State.session Daemon.session
  cases s.daemon.sessions.lookup sid with
  | none => exact ⟨rfl, rfl, rfl, rfl, rfl, rfl⟩
  | some x =>
    by_cases hexp : x.expire < s.now
    · simp only [if_pos hexp]; exact ⟨rfl, rfl, rfl, rfl, rfl, rfl⟩
    · simp only [if_neg hexp]; exact ⟨rfl, rfl, rfl, rfl, rfl, rfl⟩

theorem touch : SameAuth s (s.touch sid) := by
  unfold State.touch Daemon.touch
  cases s.daemon.sessions.lookup sid with
  | none => exact ⟨rfl, rfl, rfl, rfl, rfl, rfl⟩
  | some x => exact ⟨rfl, rfl, rfl, rfl, rfl, rfl⟩

theorem wsOpen {conn : Nat} {loopback : Bool} {sid : Option Text} :
    SameAuth s (s.wsOpen conn loopback sid) := by
  unfold State.wsOpen
  split
  · exact ⟨rfl, rfl, rfl, rfl, rfl, rfl⟩
  · split <;> exact ⟨rfl, rfl, rfl, rfl, rfl, rfl⟩
  · next sid =>
    dsimp only
    split
    · exact session.trans ⟨rfl, rfl, rfl, rfl, rfl, rfl⟩
    · exact session

theorem wsTimeout {conn : Nat} {ubus : Bool} {answering : List Topic} :
    SameAuth s (s.wsTimeout conn ubus answering) := by
  unfold State.wsTimeout
  split
  · exact ⟨rfl, rfl, rfl, rfl, rfl, rfl⟩
  · dsimp only
    split
    · split
      · exact touch.trans ⟨rfl, rfl, rfl, rfl, rfl, rfl⟩
      · exact ⟨rfl, rfl, rfl, rfl, rfl, rfl⟩
    · exact ⟨rfl, rfl, rfl, rfl, rfl, rfl⟩

theorem step {sha256 : Text → Text} {e : Event} (h : e.authenticates = false) :
    SameAuth s (s.step sha256 e) := by
  cases e with
  | tick | passwd | challenge | login => cases h
  | shuffle order =>
    simp only [State.step]
    split <;> exact ⟨rfl, rfl, rfl, rfl, rfl, rfl⟩
  | session sid => exact session
  | touch sid => exact touch
  | wsOpen conn loopback sid => exact wsOpen
  | wsTimeout conn ubus answering => exact wsTimeout
  | wsSubscribe conn topic answering =>
    simp only [State.step, State.wsSubscribe]
    split <;> exact ⟨rfl, rfl, rfl, rfl, rfl, rfl⟩
  | wsUnsubscribe conn topic =>
    simp only [State.step, State.wsUnsubscribe]
    split <;> exact ⟨rfl, rfl, rfl, rfl, rfl, rfl⟩
  | configure | logout | clearSession | wsClose => exact ⟨rfl, rfl, rfl, rfl, rfl, rfl⟩

end SameAuth

end GlXe3000.Oui
