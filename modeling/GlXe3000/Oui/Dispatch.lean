import GlXe3000.Oui.Session

/-! # The endpoint `/rpc`

`oui-rpc.lua` passes `challenge`, `login` and `logout` on to the session daemon and runs the
handlers of the RPC objects for `call`. Which calls it lets through is decided before the object is
looked up: a handler runs for a call from loopback, for a pair listed under `no_auth`, for any call
while root has no password, and otherwise for a live session whose group allows it. -/

namespace GlXe3000.Oui
open Text

namespace Code
def parse : Int := -32700
def methodNotFound : Int := -32601
def invalidParams : Int := -32602
def internal : Int := -32603
def access : Int := -32000
def notFound : Int := -32001
def loginFailLimit : Int := -32003
end Code

/-- What the body of a request asks for. A parameter is `none` where it is not a string. -/
inductive Rpc
  | empty
  | challenge (username : Option Text)
  | login (username hash : Option Text)
  | logout (sid : Option Text)
  | alive
  | call (sid object method : Option Text)
  | unknown (method : Text)
  deriving DecidableEq

structure Request where
  remoteAddr : Text
  /-- The request carries the header `glinet`. -/
  glinet : Bool
  rpc : Rpc
  deriving DecidableEq

/-- A section `config no_auth 'name'` of `gl-oui-rpc`. -/
structure NoAuth where
  name : Text
  method : List Text
  deriving DecidableEq

/-- A section `config group 'name'` of `gl-oui-acl`. -/
structure Group where
  name : Text
  acl : List Text
  deriving DecidableEq

/-- What is found at `/usr/lib/oui-rpc/<object>.lua`. -/
inductive RpcObject
  | missing
  | broken
  | failing
  | table (handlers : List (Text × Bool))
  deriving DecidableEq

/-- Whether `ubus` can be reached and the daemon answers. -/
inductive Ubus
  | answers
  | noConnection
  | noAnswer
  deriving DecidableEq

inductive Reply
  | error (code : Int) (message : Text)
  | challenge (offer : Offer)
  | login (username sid : Text)
  | logout
  | alive (initialized : Bool)
  | call
  deriving DecidableEq

structure Env where
  now : Nat := 0
  timeout : Nat := 300
  shadow : Option Text := none
  ubus : Ubus := .answers
  noAuth : List NoAuth := []
  groups : List Group := []
  objects : Text → RpcObject := fun _ => .missing
  random : Text := []
  sha256 : Text → Text := id

structure Outcome where
  reply : Reply
  daemon : Daemon
  invoked : Option (Text × Text) := none

/-- `^[%a_][%w%-_]*$`. -/
def isName : Text → Bool
  | [] => false
  | c :: t => ((isAlnum c && !isDigit c) || c = '_') &&
      t.all fun c => isAlnum c || c = '-' || c = '_'

def isLoopback (addr : Text) : Bool := addr = "127.0.0.1" || addr = "::1"

def isNoAuth (sections : List NoAuth) (object method : Text) : Bool :=
  sections.any fun s => s.name = object && s.method.any (· = method)

/-- The pattern of an entry `pattern:perm`. -/
def aclPattern (entry : Text) : Option Text :=
  (cut ':' entry).bind fun r => if r.1.isEmpty then none else some r.1

def aclPatterns (object method : Text) : List Text :=
  ["*.*", object ++ '.' :: method, object ++ ".*".toList]

def aclAllows (groups : List Group) (aclgroup object method : Text) : Bool :=
  aclgroup = "root" || groups.any fun g => g.name = aclgroup &&
    g.acl.any fun entry => (aclPattern entry).any (· ∈ aclPatterns object method)

namespace Env
variable (e : Env)

/-- `call_gl_session`: the daemon is called if it can be. -/
def callGlSession {α : Type} (d : Daemon) (f : Daemon → α × Daemon) : Except String α × Daemon :=
  match e.ubus with
  | .answers => (.ok (f d).1, (f d).2)
  | .noConnection => (.error "ubus connect failed", d)
  | .noAnswer => (.error "error", d)

def rpcChallenge (d : Daemon) (username : Option Text) : Outcome :=
  match e.callGlSession d fun d => d.challenge e.now e.shadow (username.getD []) e.random with
  | (.error m, d) => { reply := .error Code.internal m.toList, daemon := d }
  | (.ok (.error m), d) => { reply := .error Code.loginFailLimit m.toList, daemon := d }
  | (.ok (.ok offer), d) => { reply := .challenge offer, daemon := d }

/-- `login`, with the daemon's check of the types. -/
def glSessionLogin (username hash : Option Text) (d : Daemon) :
    Except String (Text × Text) × Daemon :=
  match username, hash with
  | some username, some hash =>
    let r := d.login e.now e.timeout e.sha256 username hash e.random
    (r.1.map (username, ·), r.2)
  | _, _ => (.error "invalid params", d)

def rpcLogin (d : Daemon) (username hash : Option Text) : Outcome :=
  match e.callGlSession d (e.glSessionLogin username hash) with
  | (.error m, d) => { reply := .error Code.internal m.toList, daemon := d }
  | (.ok (.error m), d) => { reply := .error Code.access m.toList, daemon := d }
  | (.ok (.ok (username, sid)), d) => { reply := .login username sid, daemon := d }

def rpcLogout (d : Daemon) (sid : Option Text) : Outcome :=
  let d := (e.callGlSession d fun d => ((), (sid.map d.logout).getD d)).2
  { reply := .logout, daemon := d }

/-- The rest of `rpc_call`: the handler is looked up and run. -/
def dispatch (d : Daemon) (object method : Text) : Outcome :=
  match e.objects object with
  | .missing => ⟨.error Code.notFound ("no such object: ".toList ++ object), d, none⟩
  | .broken => ⟨.error Code.internal "failed to load rpc object", d, none⟩
  | .failing => ⟨.error Code.internal "failed to init rpc object", d, none⟩
  | .table handlers =>
    match handlers.lookup method with
    | none => ⟨.error Code.methodNotFound ("no such method: ".toList ++ method), d, none⟩
    | some true => ⟨.call, d, some (object, method)⟩
    | some false => ⟨.error Code.internal "internal error", d, some (object, method)⟩

/-- `call_gl_session("session", { sid = sid })`, as far as it names a user. -/
def callSession (d : Daemon) (sid : Option Text) : Option (Text × Text) × Daemon :=
  let r := e.callGlSession d fun d =>
    match sid with
    | some sid => d.session e.now e.timeout sid
    | none => (none, d)
  match r with
  | (.ok sess, d) => (sess, d)
  | (.error _, d) => (none, d)

def denied (d : Daemon) : Outcome := ⟨.error Code.access "Access denied", d, none⟩

def rpcCall (d : Daemon) (r : Request) (sid object method : Option Text) : Outcome :=
  match object, method with
  | some object, some method =>
    if isName object && isName method then
      if isLoopback r.remoteAddr || isNoAuth e.noAuth object method ||
          !rootPasswordIsSet e.shadow then
        e.dispatch d object method
      else
        match e.callSession d sid with
        | (none, d) => denied d
        | (some (_, aclgroup), d) =>
          if aclAllows e.groups aclgroup object method then e.dispatch d object method
          else denied d
    else ⟨.error Code.invalidParams "invalid object/method", d, none⟩
  | _, _ => ⟨.error Code.invalidParams "invalid object/method", d, none⟩

def serve (d : Daemon) (r : Request) : Outcome :=
  match r.rpc with
  | .empty => ⟨.error Code.parse "empty request body", d, none⟩
  | .challenge username => e.rpcChallenge d username
  | .login username hash => e.rpcLogin d username hash
  | .logout sid => e.rpcLogout d sid
  | .alive => ⟨.alive (rootPasswordIsSet e.shadow), d, none⟩
  | .call sid object method => e.rpcCall d r sid object method
  | .unknown method => ⟨.error Code.methodNotFound ("unknown method: ".toList ++ method), d, none⟩

end Env

/-! ## Who may call -/

/-- The grounds on which a call is let through, other than where it comes from. -/
inductive Grounds (e : Env) (d : Daemon) (sid : Option Text) (object method : Text) : Prop
  | listed (s : NoAuth) (hs : s ∈ e.noAuth) (hname : s.name = object) (hmethod : method ∈ s.method)
  | noPassword (content : Text) (hshadow : e.shadow = some content)
    (hroot : shadowString content "root" = some [])
  | root (t : Text) (x : Session) (hsid : sid = some t) (hx : d.sessions.lookup t = some x)
    (hexp : e.now ≤ x.expire) (hgroup : x.aclgroup = "root")
  | acl (t : Text) (x : Session) (hsid : sid = some t) (hx : d.sessions.lookup t = some x)
    (hexp : e.now ≤ x.expire) (g : Group) (hg : g ∈ e.groups) (hgroup : g.name = x.aclgroup)
    (pattern perm : Text) (hentry : pattern ++ ':' :: perm ∈ g.acl)
    (hpattern : pattern ∈ aclPatterns object method)

/-- The request calls a method, under a proper name, of an object that has a handler for it. -/
structure Reaches (e : Env) (r : Request) (sid : Option Text) (object method : Text) : Prop where
  call : r.rpc = .call sid (some object) (some method)
  names : isName object = true ∧ isName method = true
  handler : ∃ handlers, e.objects object = .table handlers ∧ (handlers.lookup method).isSome

/-- A caller that may have a handler run: a local daemon, known by its header, or one with other
grounds. -/
def Entitled (e : Env) (d : Daemon) (r : Request) (sid : Option Text) (object method : Text) :
    Prop :=
  (isLoopback r.remoteAddr = true ∧ r.glinet = true) ∨ Grounds e d sid object method

theorem isNoAuth_iff :
    isNoAuth sections object method = true ↔
      ∃ s ∈ sections, s.name = object ∧ method ∈ s.method := by
  simp [isNoAuth]

theorem rootPasswordIsSet_eq_false_iff :
    rootPasswordIsSet shadow = false ↔
      ∃ content, shadow = some content ∧ shadowString content "root" = some [] := by
  unfold rootPasswordIsSet
  generalize "root" = root
  cases shadow with
  | none => simp
  | some content =>
    cases h : shadowString content root with
    | none => simp [h]
    | some enc => simp [h]

theorem aclPattern_eq_some (h : aclPattern entry = some pattern) :
    ∃ perm, entry = pattern ++ ':' :: perm := by
  obtain ⟨⟨p, perm⟩, hcut, h⟩ := Option.bind_eq_some_iff.1 h
  split at h
  · cases h
  · cases h
    exact ⟨perm, (cut_eq_some.1 hcut).1⟩

theorem aclAllows_cases (h : aclAllows groups aclgroup object method = true) :
    aclgroup = "root" ∨ ∃ g ∈ groups, g.name = aclgroup ∧
      ∃ pattern perm, pattern ++ ':' :: perm ∈ g.acl ∧ pattern ∈ aclPatterns object method := by
  simp only [aclAllows, Bool.or_eq_true, decide_eq_true_eq, List.any_eq_true, Bool.and_eq_true,
    Option.any_eq_true] at h
  obtain h | ⟨g, hg, hname, entry, hentry, pattern, hpattern, hmem⟩ := h
  · exact .inl h
  · obtain ⟨perm, rfl⟩ := aclPattern_eq_some hpattern
    exact .inr ⟨g, hg, hname, pattern, perm, hentry, hmem⟩

theorem session_eq_some {d : Daemon} (h : (d.session now timeout sid).1 = some (u, g)) :
    ∃ x, d.sessions.lookup sid = some x ∧ now ≤ x.expire ∧ x.aclgroup = g := by
  unfold Daemon.session at h
  cases hx : d.sessions.lookup sid with
  | none => simp [hx] at h
  | some x =>
    by_cases hexp : x.expire < now
    · simp [hx, hexp] at h
    · simp only [hx, if_neg hexp] at h
      cases h
      exact ⟨x, rfl, Nat.le_of_not_lt hexp, rfl⟩

namespace Env
variable {e : Env} {d : Daemon} {r : Request} {sid : Option Text} {object method : Text}

theorem callSession_eq_some (h : (e.callSession d sid).1 = some (u, g)) :
    ∃ t x, sid = some t ∧ d.sessions.lookup t = some x ∧ e.now ≤ x.expire ∧ x.aclgroup = g := by
  unfold callSession callGlSession at h
  cases hubus : e.ubus with
  | answers =>
    cases sid with
    | none => simp [hubus] at h
    | some t =>
      simp only [hubus] at h
      obtain ⟨x, hx⟩ := session_eq_some h
      exact ⟨t, x, rfl, hx⟩
  | noConnection => simp [hubus] at h
  | noAnswer => simp [hubus] at h

theorem dispatch_invoked (h : (e.dispatch d object method).invoked = some (o, m)) :
    o = object ∧ m = method ∧
      ∃ handlers, e.objects object = .table handlers ∧ (handlers.lookup method).isSome := by
  unfold dispatch at h
  split at h
  · cases h
  · cases h
  · cases h
  · next handlers hobject =>
    split at h
    · cases h
    · next hlookup => cases h; exact ⟨rfl, rfl, handlers, hobject, by rw [hlookup]; rfl⟩
    · next hlookup => cases h; exact ⟨rfl, rfl, handlers, hobject, by rw [hlookup]; rfl⟩

theorem dispatch_of_reaches (h : Reaches e r sid object method) :
    (e.dispatch d object method).invoked = some (object, method) := by
  obtain ⟨handlers, hobject, hlookup⟩ := h.handler
  obtain ⟨returns, hlookup⟩ := Option.isSome_iff_exists.1 hlookup
  unfold Env.dispatch
  cases returns <;> simp [hobject, hlookup]

theorem serve_invoked (h : (e.serve d r).invoked = some (o, m)) :
    ∃ sid, Reaches e r sid o m ∧
      (isLoopback r.remoteAddr = true ∨ Grounds e d sid o m) := by
  unfold serve at h
  cases hrpc : r.rpc with
  | call sid object method =>
    simp only [hrpc] at h
    unfold rpcCall at h
    split at h
    · next object method =>
      split at h
      · next hnames =>
        have hreach : ∀ d', (e.dispatch d' object method).invoked = some (o, m) →
            o = object ∧ m = method ∧ Reaches e r sid o m := by
          intro d' hd
          obtain ⟨rfl, rfl, hhandler⟩ := dispatch_invoked hd
          exact ⟨rfl, rfl, hrpc, by simpa using hnames, hhandler⟩
        split at h
        · next hopen =>
          obtain ⟨rfl, rfl, hr⟩ := hreach _ h
          refine ⟨sid, hr, ?_⟩
          simp only [Bool.or_eq_true, Bool.not_eq_true'] at hopen
          obtain (hopen | hopen) | hopen := hopen
          · exact .inl hopen
          · obtain ⟨s, hs, hname, hmethod⟩ := isNoAuth_iff.1 hopen
            exact .inr (.listed s hs hname hmethod)
          · obtain ⟨content, hshadow, hroot⟩ := rootPasswordIsSet_eq_false_iff.1 hopen
            exact .inr (.noPassword content hshadow hroot)
        · split at h
          · cases h
          · next u aclgroup d' hsess =>
            split at h
            · next hallows =>
              obtain ⟨rfl, rfl, hr⟩ := hreach _ h
              refine ⟨sid, hr, .inr ?_⟩
              obtain ⟨t, x, hsid, hx, hexp, rfl⟩ := callSession_eq_some (congrArg Prod.fst hsess)
              obtain hroot | ⟨g, hg, hgroup, pattern, perm, hentry, hpattern⟩ :=
                aclAllows_cases hallows
              · exact .root t x hsid hx hexp hroot
              · exact .acl t x hsid hx hexp g hg hgroup pattern perm hentry hpattern
            · cases h
      · cases h
    · cases h
  | challenge username =>
    simp only [hrpc] at h
    unfold rpcChallenge at h
    split at h <;> cases h
  | login username hash =>
    simp only [hrpc] at h
    unfold rpcLogin at h
    split at h <;> cases h
  | _ =>
    simp only [hrpc] at h
    cases h

theorem serve_of_loopback (hloop : isLoopback r.remoteAddr = true)
    (hr : Reaches e r sid object method) : (e.serve d r).invoked = some (object, method) := by
  unfold serve rpcCall
  rw [hr.call]
  simp only [hr.names.1, hr.names.2, hloop, Bool.true_or, Bool.and_self, if_true]
  exact dispatch_of_reaches hr

end Env

/-- The handlers that a request has run are those its caller is entitled to, exactly if a caller
from loopback that reaches a handler has the header or other grounds. -/
theorem handler_only_for_entitled_iff (e : Env) (d : Daemon) (r : Request) :
    (∀ object method, (e.serve d r).invoked = some (object, method) →
      ∃ sid, r.rpc = .call sid (some object) (some method) ∧ Entitled e d r sid object method) ↔
    (∀ sid object method, isLoopback r.remoteAddr = true → Reaches e r sid object method →
      r.glinet = true ∨ Grounds e d sid object method) := by
  constructor
  · intro h sid object method hloop hr
    obtain ⟨sid', hcall, hent⟩ := h object method (Env.serve_of_loopback hloop hr)
    cases hr.call.symm.trans hcall
    exact hent.imp_left And.right
  · intro h object method hinvoked
    obtain ⟨sid, hr, hground⟩ := Env.serve_invoked hinvoked
    refine ⟨sid, hr.call, ?_⟩
    obtain hloop | hground := hground
    · exact (h sid object method hloop hr).imp_left fun hglinet => ⟨hloop, hglinet⟩
    · exact .inr hground

/-- A local process without the header, and without a session, has the router rebooted. -/
theorem handler_without_header : let e : Env :=
      { shadow := some "root:$1$s$h:0:"
        objects := fun _ => .table [("reboot", true)] }
    let r : Request := ⟨"127.0.0.1", false, .call none (some "system") (some "reboot")⟩
    (e.serve {} r).invoked = some ("system".toList, "reboot".toList) ∧
      ¬∃ sid, r.rpc = .call sid (some "system") (some "reboot") ∧
        Entitled e {} r sid "system" "reboot" := by
  intro e r
  refine ⟨by decide, ?_⟩
  rintro ⟨sid, hcall, ⟨-, hglinet⟩ | hground⟩
  · cases hglinet
  · cases hcall
    cases hground with
    | listed s hs => cases hs
    | noPassword content hshadow hroot =>
      cases hshadow
      revert hroot
      decide
    | root t x hsid => cases hsid
    | acl t x hsid => cases hsid

end GlXe3000.Oui
