import GlXe3000.Lib.Text

/-! # `/etc/shadow`, as the session daemon and the dispatcher read it -/

namespace GlXe3000.Oui
open Text

/-- The captures of `^([^:]+):([^:]*):`: a user and the password field. -/
def shadowField (line : Text) : Option (Text × Text) := do
  let (user, rest) ← cut ':' line
  if user.isEmpty then none
  let (enc, _) ← cut ':' rest
  some (user, enc)

def shadowString (shadow username : Text) : Option Text :=
  firstLine (fun line => (shadowField line).bind fun r =>
    if r.1 = username then some r.2 else none) shadow

/-- What `read_shadow_entry` returns: no password is set, or the parts of one. -/
inductive Entry
  | empty
  | crypt (alg salt hash : Text)
  deriving DecidableEq

/-- The captures of `^%$([^%$]+)%$([^%$]+)%$(.+)$`. -/
def parseCrypt : Text → Option Entry
  | '$' :: rest => do
    let (alg, rest) ← cut '$' rest
    let (salt, hash) ← cut '$' rest
    if alg.isEmpty || salt.isEmpty || hash.isEmpty then none
    some (.crypt alg salt hash)
  | _ => none

/-- A field that is neither empty nor a password belongs to a locked account. -/
def readShadowEntry (shadow : Option Text) (username : Text) : Option Entry := do
  let enc ← shadowString (← shadow) username
  if enc.isEmpty then some .empty else parseCrypt enc

/-- `full_crypt`: the parts put together again. -/
def Entry.full : Entry → Text
  | .empty => []
  | .crypt alg salt hash => '$' :: alg ++ '$' :: salt ++ '$' :: hash

theorem parseCrypt_full {e : Entry} (h : parseCrypt enc = some e) : e.full = enc := by
  unfold parseCrypt at h
  split at h
  · next rest =>
    simp only [Option.bind_eq_bind, Option.bind_eq_some_iff, Prod.exists] at h
    obtain ⟨alg, rest', halg, salt, hash, hsalt, h⟩ := h
    split at h
    · simp at h
    · obtain rfl : Entry.crypt alg salt hash = e := by simpa using h
      rw [(cut_eq_some.1 halg).1, (cut_eq_some.1 hsalt).1]
      simp [Entry.full]
  · cases h

theorem readShadowEntry_full {e : Entry} (h : readShadowEntry shadow username = some e) :
    ∃ content, shadow = some content ∧ shadowString content username = some e.full := by
  simp only [readShadowEntry, Option.bind_eq_bind, Option.bind_eq_some_iff] at h
  obtain ⟨content, hshadow, enc, henc, h⟩ := h
  refine ⟨content, hshadow, henc.trans (congrArg some ?_)⟩
  split at h
  · next hempty =>
    cases h
    exact List.isEmpty_iff.1 hempty
  · exact (parseCrypt_full h).symm

/-- `root_password_is_set`: a file or a line that is missing counts as a password. -/
def rootPasswordIsSet (shadow : Option Text) : Bool :=
  match shadow.bind fun content => shadowString content "root" with
  | none => true
  | some enc => !enc.isEmpty

end GlXe3000.Oui
