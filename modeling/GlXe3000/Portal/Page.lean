import GlXe3000.Lib.Text

/-! # What a probe is answered: `gl-repeater-portal`

The detector asks for two pages that are always the same. Any other page is the portal's, and its URL
is taken from the redirect or from the page. -/

namespace GlXe3000.Portal
open Text

structure Probe where
  url : Text
  body : Text
  titled : Bool

def probes : List Probe :=
  [⟨"http://captive.apple.com/hotspot-detect.html", "<body>success</body>", true⟩,
    ⟨"http://www.msftconnecttest.com/connecttest.txt", "microsoft connect test", false⟩]

structure Response where
  code : Nat
  location : Option Text
  contentLocation : Option Text
  body : Text

/-! ## The page -/

/-- `<tag>%s*success%s*</tag>`, somewhere in the page. -/
def hasSuccess (tag : String) (page : Text) : Bool :=
  (search (fun t => do
    let t ← strip (("<" ++ tag ++ ">").toList) t
    let t ← strip "success" (t.dropWhile isSpace)
    strip (("</" ++ tag ++ ">").toList) (t.dropWhile isSpace)) page).isSome

def isProbeSuccess (probe : Probe) (r : Response) : Bool :=
  let body := lower r.body
  r.code = 204 || r.code = 200 &&
    if probe.titled then hasSuccess "title" body && hasSuccess "body" body else has body probe.body

def isPortalish (code : Nat) : Bool := code = 200 || code = 511 || (300 ≤ code && code < 400)

/-! ## The URL of the portal -/

/-- `https?://`, and what is behind it. -/
def schemeTail (url : Text) : Option Text :=
  (strip "http://" url).or (strip "https://" url)

/-- `^(https?://[^/]+)`. -/
def authority (url : Text) : Text :=
  (schemeTail url).elim [] fun tail => url.take (url.length - tail.length) ++ tail.takeWhile (· ≠ '/')

def resolveLocation (base : Text) (location : Option Text) : Option Text :=
  location.bind fun location =>
    if location = [] then none
    else if (schemeTail location).isSome then some location
    else if location.head? = some '/' then some (authority base ++ location)
    else some (authority base ++ '/' :: location)

def isQuote (c : Char) : Bool := c.toNat = 34 || c.toNat = 39

def quoted (t : Text) : Option Text :=
  match t with
  | [] => none
  | c :: t =>
    let text := t.takeWhile fun c => !isQuote c
    if isQuote c && text ≠ [] then some text else none

/-- `%s*=%s*`. -/
def assigned (t : Text) : Option Text :=
  (strip ['='] (t.dropWhile isSpace)).map fun t => t.dropWhile isSpace

def stripWord (word : String) (t : Text) : Option Text :=
  if lower (t.take word.length) = word.toList then some (t.drop word.length) else none

def candidate (body : Text) : Option Text :=
  ((search (fun t => (stripWord "location" t).bind assigned |>.bind quoted) body).or
    (search (fun t => do
      let url ← (stripWord "href" t).bind assigned |>.bind quoted
      if (schemeTail url).any fun tail => tail ≠ [] then some url else none) body)).or
    (search (fun t => do
      let t ← strip "window.location" t
      let t ← strip ['='] (t.dropWhile (· ≠ '='))
      quoted (t.dropWhile isSpace)) body)

def extractPortalUrl (base : Text) (r : Response) : Text :=
  ((resolveLocation base (r.location.or r.contentLocation)).or
    (resolveLocation base (candidate r.body))).getD base

/-! ## Its domains -/

def hostOf (url : Text) : Option Text := do
  let tail ← schemeTail (lower url)
  let host := tail.takeWhile fun c => !(c = '/' || c = ':' || c = '?' || c = '#')
  if host = [] then none else some host

/-- `^[%w][%w%.%-]*$`. -/
def isPlainName : Text → Bool
  | [] => false
  | c :: t => isAlnum c && t.all fun c => isAlnum c || c = '.' || c = '-'

def parentOf (host : Text) : Option Text :=
  (cut '.' host).bind fun (label, parent) => if label = [] || parent = [] then none else some parent

/-- `portal_domains`: the host, and its parent unless that has a single label. -/
def portalDomains (url : Text) : List Text :=
  match hostOf url with
  | none => []
  | some host =>
    if host.all fun c => isDigit c || c = '.' then []
    else if 253 < host.length || !isPlainName host then []
    else host :: ((parentOf host).filter fun parent => '.' ∈ parent).toList

example : portalDomains "https://mav-fedelzet.instant.telekom.hu/index.php?x=1" =
    ["mav-fedelzet.instant.telekom.hu", "instant.telekom.hu"] := by decide

/-- A server that may be written for dnsmasq: `^[%x%.:]+$`. -/
def isServer (t : Text) : Bool := t ≠ [] && t.all fun c => isHex c || c = '.' || c = ':'

/-- `^%d+%.%d+%.%d+%.%d+$`. -/
def isDottedQuad (t : Text) : Bool := (pieces '.' t).length = 4 && (pieces '.' t).all isNumber

def unlines (ls : List Text) : Text := ['\n'].intercalate ls ++ ['\n']

def contentOf (ls : List Text) : Option Text := if ls = [] then none else some (unlines ls)

def rebindLines (url : Text) : List Text :=
  (portalDomains url).map fun domain => "rebind-domain-ok=/".toList ++ domain ++ ['/']

def forwardLines (url : Text) (dns : List Text) : List Text :=
  (portalDomains url).flatMap fun domain => (dns.filter isServer).map fun server =>
    "server=/".toList ++ domain ++ '/' :: server

def overrideContent (dns : List Text) : Option Text :=
  let servers := dns.filter isServer
  if servers = [] then none
  else some (unlines ("no-resolv" :: servers.map fun server => "server=".toList ++ server))

def portalRanges : List Text :=
  ["10.0.0.0/8", "172.16.0.0/12", "192.168.0.0/16", "192.0.2.0/24"]

def portalTargets (dns : List Text) : List Text := dns.filter isDottedQuad ++ portalRanges

end GlXe3000.Portal
