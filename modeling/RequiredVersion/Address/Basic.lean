import RequiredVersion.Address.Host
import RequiredVersion.Address.Route

/-! # Addresses of the web

An address is a scheme, perhaps a host, a path, and perhaps a query and a fragment.  Reading one
brings it into a normal form: the scheme in small letters, dot segments resolved, and characters
that may not stand in their part escaped.

The web schemes have a host of the net and take backslashes for slashes.  A host may stand behind
the name of a user and a password, and before the number of a service, which is left out where the
scheme has it anyway.  Files may be on a host, but most often are not. -/

namespace RequiredVersion

/-- Where an address leads to, and who asks. -/
structure Authority where
  user : List Char
  /-- The password; an empty one is none. -/
  password : List Char
  host : Host
  service : Option Nat
  deriving DecidableEq

structure Address where
  scheme : List Char
  authority : Option Authority
  route : Address.Route
  query : Option (List Char)
  fragment : Option (List Char)
  deriving DecidableEq

namespace Authority

/-- No host at all. -/
def absent : Authority := { user := [], password := [], host := .named [], service := none }

def credentials (a : Authority) : List Char :=
  if a.user.isEmpty && a.password.isEmpty then []
  else a.user ++ (if a.password.isEmpty then [] else ':' :: a.password) ++ ['@']

def chars (a : Authority) : List Char :=
  a.credentials ++ a.host.chars ++ ((a.service.map (fun n => ':' :: Text.decimal n)).getD [])

/-- Are there credentials that can be read?  The name of the user must be text, and without one the
password. -/
def hasReadableCredentials (a : Authority) : Bool :=
  match Address.unescaped? a.user with
  | some user =>
    !user.isEmpty || (!a.password.isEmpty && (Address.unescaped? a.password).isSome)
  | none => false

/-- The authority without credentials, where they can be read. -/
def withoutCredentials (a : Authority) : Authority :=
  if a.hasReadableCredentials then { a with user := [], password := [] } else a

end Authority

namespace Address

/-! ### Schemes -/

/-- How the addresses of a scheme are read. -/
inductive SchemeKind where
  /-- A host of the net, with the service that is asked for anyway. -/
  | web (service : Nat)
  | file
  | other
  deriving DecidableEq

def kindOf (scheme : List Char) : SchemeKind :=
  let scheme := String.ofList scheme
  if scheme = "http" ∨ scheme = "ws" then .web 80
  else if scheme = "https" ∨ scheme = "wss" then .web 443
  else if scheme = "ftp" then .web 21
  else if scheme = "file" then .file
  else .other

/-- Are backslashes slashes? -/
def SchemeKind.isWeb : SchemeKind → Bool
  | .other => false
  | _ => true

/-- Splits a text behind the characters that pass a test. -/
def splitWhile (p : Char → Bool) (cs : List Char) : List Char × List Char :=
  (cs.takeWhile p, cs.dropWhile p)

/-- The scheme of an address and the text behind its colon. -/
def splitScheme? (cs : List Char) : Option (List Char × List Char) :=
  match splitWhile (fun c => c.isAlphanum || c == '+' || c == '-' || c == '.') cs with
  | (c :: name, ':' :: rest) => if c.isAlpha then some (Text.lowerAscii (c :: name), rest) else none
  | _ => none

/-! ### Authorities -/

/-- Does a character end the authority? -/
def endsAuthority (web : Bool) (c : Char) : Bool :=
  Route.isSlash web c || c == '?' || c == '#'

/-- The text before the last at sign, if there is one, and the text behind it. -/
def splitCredentials (cs : List Char) : Option (List Char) × List Char :=
  let host := (cs.reverse.takeWhile (· != '@')).reverse
  let front := cs.take (cs.length - host.length)
  (if front.isEmpty then none else some front.dropLast, host)

/-- Splits a text at the first colon that is not in brackets. -/
def splitHost : (inside : Bool) → List Char → List Char × List Char
  | _, [] => ([], [])
  | inside, c :: cs =>
    if c == ':' && !inside then ([], c :: cs)
    else
      let inside := if c == '[' then true else if c == ']' then false else inside
      let (host, rest) := splitHost inside cs
      (c :: host, rest)

/-- The service behind a colon, and the text behind it: nothing, or one that starts with a
backslash. -/
def readService (usual : Option Nat) (cs : List Char) :
    Except Failure (Option Nat × List Char) :=
  let (digits, rest) := splitWhile Char.isDigit cs
  let n := Text.natOfDigits digits
  if 65535 < n || (!rest.isEmpty && rest.head? != some '\\') then .error .invalidService
  else .ok (if digits.isEmpty || usual == some n then none else some n, rest)

/-- The name of the user and the password, as they are written. -/
def readCredentials (cs : List Char) : List Char × List Char :=
  let (user, password) := splitWhile (· != ':') cs
  (escape keptInCredentials user, escape keptInCredentials password.tail)

/-- Reads an authority, and gives the text behind it. -/
def readAuthority (usual : Option Nat) (cs : List Char) :
    Except Failure (Authority × List Char) := do
  let web := usual.isSome
  let (text, rest) := splitWhile (fun c => !endsAuthority web c) cs
  let (credentials, text) := splitCredentials text
  let (hostText, serviceText) := splitHost false text
  if credentials == some [] && text.isEmpty && !rest.isEmpty then .error .emptyHost
  else if hostText.isEmpty && (web || !serviceText.isEmpty) then .error .emptyHost
  else
    let host ← if web then Host.ofNet hostText else Host.plain hostText
    let (service, left) ← readService usual serviceText.tail
    let (user, password) := readCredentials (credentials.getD [])
    if hostText.isEmpty && !(user.isEmpty && password.isEmpty) then .error .emptyHost
    else .ok ({ user, password, host, service }, left ++ rest)

/-- A text without a slash at its front. -/
def dropSlash (web : Bool) (cs : List Char) : List Char :=
  match cs with
  | c :: rest => if Route.isSlash web c then rest else c :: rest
  | [] => []

/-- The host of a file, if it has one, and the text behind it. -/
def readFileHost (cs : List Char) : Except Failure (Option Host × List Char) :=
  let (text, rest) := splitWhile (fun c => !endsAuthority true c) cs
  if Route.isDrive text then .ok (none, cs)
  else if text.isEmpty then .ok (none, rest)
  else do
    let host ← Host.ofNet text
    .ok (if host = .named "localhost".toList then none else some host, rest)

/-! ### Reading and writing -/

/-- The text without blanks and control characters around it, and without line breaks and tabs. -/
def cleaned (cs : List Char) : List Char :=
  (Text.trimWhile (fun c => c.toNat ≤ 0x20) cs).filter
    (fun c => c != '\t' && c != '\n' && c != '\r')

/-- Splits a path from the query and the fragment. -/
def splitPath (cs : List Char) : List Char × List Char :=
  splitWhile (fun c => c != '?' && c != '#') cs

/-- Reads the part behind the scheme of a file up to the query. -/
def readFile (body : List Char) : Except Failure (Authority × Route × List Char) :=
  match body with
  | a :: b :: cs =>
    if Route.isSlash true a && Route.isSlash true b then do
      let (host?, rest) ← readFileHost cs
      let (path, rest) := splitPath rest
      match host? with
      | none => .ok (Authority.absent, Route.ofFile path, rest)
      | some host =>
        let route := Route.ofFile (dropSlash true path)
        let authority := if route.startsAtDrive then Authority.absent
          else { Authority.absent with host }
        .ok (authority, route, rest)
    else plainFile body
  | _ => plainFile body
where
  plainFile (body : List Char) : Except Failure (Authority × Route × List Char) :=
    let (path, rest) := splitPath body
    .ok (Authority.absent, Route.ofFile (dropSlash true path), rest)

/-- Reads the part behind a scheme up to the query. -/
def readBody (kind : SchemeKind) (body : List Char) :
    Except Failure (Option Authority × Route × List Char) :=
  match kind with
  | .web service => do
    let (authority, rest) ← readAuthority (some service) (body.dropWhile (Route.isSlash true))
    let (path, rest) := splitPath rest
    .ok (some authority, Route.ofWeb (dropSlash true path), rest)
  | .file => (readFile body).map (fun r => (some r.1, r.2))
  | .other =>
    match body with
    | '/' :: '/' :: cs => do
      let (authority, rest) ← readAuthority none cs
      let (path, rest) := splitPath rest
      .ok (some authority,
        if path.isEmpty then .rooted [] else Route.ofOther (dropSlash false path), rest)
    | '/' :: cs =>
      let (path, rest) := splitPath cs
      .ok (none, Route.ofOther path, rest)
    | _ =>
      let (path, rest) := splitPath body
      .ok (none, .plain (escape keptInPlainText path), rest)

/-- Reads an address. -/
def parse (text : List Char) : Except Failure Address :=
  match splitScheme? (cleaned text) with
  | none => .error .noScheme
  | some (scheme, body) => do
    let kind := kindOf scheme
    let (authority, route, rest) ← readBody kind body
    let (query, fragment) := splitWhile (· != '#') rest
    .ok { scheme, authority, route
          query := query.tail?.map (escape (keptInQuery kind.isWeb))
          fragment := fragment.tail?.map (escape keptInFragment) }

/-- The path as it is written.  Without a host, two slashes at the front would be read as the start
of one, and are kept from it by a dot. -/
def routeChars (a : Address) : List Char :=
  let path := a.route.chars
  match a.authority, path with
  | none, '/' :: '/' :: _ => '/' :: '.' :: path
  | _, _ => path

def chars (a : Address) : List Char :=
  let optional (mark : List Char) : Option (List Char) → List Char
    | some part => mark ++ part
    | none => []
  a.scheme ++ ':' :: optional ['/', '/'] (a.authority.map Authority.chars) ++ a.routeChars ++
    optional ['?'] a.query ++ optional ['#'] a.fragment

def text (a : Address) : String := String.ofList a.chars

/-- Adds the fields of a form to the query. -/
def withForm (a : Address) (fields : List (String × String)) : Address :=
  let pairs := fields.map (fun f => formValue f.1 ++ '=' :: formValue f.2)
  let earlier := match a.query with
    | some (c :: cs) => [c :: cs]
    | _ => []
  { a with query := some ((earlier ++ pairs).intersperse ['&']).flatten }

/-- The address without the credentials of its user, where they can be read. -/
def withoutCredentials (a : Address) : Address :=
  { a with authority := a.authority.map Authority.withoutCredentials }

/-- Can a request be made for the address? -/
def isSupported (a : Address) : Bool :=
  let scheme := String.ofList a.scheme
  scheme = "http" || scheme = "https"

end Address

end RequiredVersion
