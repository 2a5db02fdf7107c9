import TrackerTraffic.Url.Host
import TrackerTraffic.Url.Path

/-!
# URLs

A URL is read without a base: a scheme, for most schemes an authority with a host and a
port, a path, and a query.  User names, passwords and fragments are read past.
-/

namespace TrackerTraffic

/-- The parts of a URL; the port is there unless it is the scheme's own. -/
structure Url where
  scheme : String
  host : Option Url.Host
  port : Option Nat
  path : String
  query : Option String
deriving DecidableEq

namespace Url

/-! ### Schemes -/

def kindOf (scheme : String) : SchemeKind :=
  if scheme = "file" then .file
  else if ["http", "https", "ws", "wss", "ftp"].contains scheme then .special
  else .other

/-- The port that a scheme has if none is named. -/
def defaultPort? (scheme : String) : Option Nat :=
  match scheme with
  | "http" => some 80
  | "https" => some 443
  | "ws" => some 80
  | "wss" => some 443
  | "ftp" => some 21
  | _ => none

def isSchemeCharacter (c : Char) : Bool := c.isAlphanum || c == '+' || c == '-' || c == '.'

/-- The scheme in lower case and what follows its colon. -/
def cutScheme? (cs : List Char) : Option (String × List Char) :=
  match cs.dropWhile isSchemeCharacter with
  | ':' :: rest =>
    if cs.head?.any Char.isAlpha then
      some (String.ofList ((cs.takeWhile isSchemeCharacter).map Char.toLower), rest)
    else none
  | _ => none

/-- The text without controls and spaces at its ends and without tabs and line ends. -/
def clean (cs : List Char) : List Char :=
  let blank (c : Char) : Bool := c.toNat ≤ 32
  ((cs.dropWhile blank).reverse.dropWhile blank).reverse.filter fun c =>
    c != '\t' && c != '\n' && c != '\r'

/-! ### Parts -/

def endsAuthority (kind : SchemeKind) (c : Char) : Bool := isSlash kind c || c == '?' || c == '#'

def endsPath (c : Char) : Bool := c == '?' || c == '#'

/-- The query of a text that starts behind a path. -/
def readQuery (kind : SchemeKind) : List Char → Option String
  | '?' :: rest =>
    some (String.ofList (Percent.encode (isEscapedInQuery kind) (rest.takeWhile (· != '#'))))
  | _ => none

/--
What stands in front of the last at sign of an authority, if there is one, and the text
behind it.
-/
def cutUser (kind : SchemeKind) (cs : List Char) : Option (List Char) × List Char :=
  let authority := cs.takeWhile (!endsAuthority kind ·)
  let rest := cs.drop authority.length
  if authority.contains '@' then
    (some ((authority.reverse.dropWhile (· != '@')).drop 1).reverse,
      (authority.reverse.takeWhile (· != '@')).reverse ++ rest)
  else (none, cs)

/-- The length of a host: to a colon outside of brackets or the end of the authority. -/
def hostLength (kind : SchemeKind) : Bool → List Char → Nat
  | _, [] => 0
  | inside, c :: rest =>
    if (c == ':' && !inside) || endsAuthority kind c then 0
    else hostLength kind (if c = '[' then true else if c = ']' then false else inside) rest + 1

/-- The host at the start of a text; schemes that are special need one. -/
def readHost (kind : SchemeKind) (cs : List Char) : Except UrlError (Option Host) :=
  if kind = .other then Host.readOpaque cs
  else if cs.isEmpty then .error .emptyHost
  else (Host.read cs).map some

/-- The port of digits, `none` for no digits. -/
def readPort (scheme : String) (digits : List Char) : Except UrlError (Option Nat) :=
  if !digits.all Char.isDigit then .error .port
  else
    let port := digits.foldl (fun n c => n * 10 + (c.toNat - 48)) 0
    if 65535 < port then .error .port
    else .ok (if digits.isEmpty ∨ defaultPort? scheme = some port then none else some port)

/-- The host and the port at the start of a text, and the rest. -/
def readAuthority (scheme : String) (cs : List Char) :
    Except UrlError (Option Host × Option Nat × List Char) := do
  let kind := kindOf scheme
  let length := hostLength kind false cs
  let host ← readHost kind (cs.take length)
  match cs.drop length with
  | ':' :: rest =>
    if host.isNone then .error .emptyHost
    else
      let digits := rest.takeWhile (!endsAuthority .special ·)
      return (host, ← readPort scheme digits, rest.drop digits.length)
  | rest => return (host, none, rest)

/-! ### Schemes with an authority -/

/-- The path behind an authority; special schemes have at least a slash. -/
def pathAfterAuthority (kind : SchemeKind) (cs : List Char) : List Char :=
  match cs with
  | [] => if kind = .other then [] else ['/']
  | c :: rest => (resolvePath kind (if isSlash kind c then rest else c :: rest)).1

/-- Reads what follows the two slashes of an authority. -/
def readWithAuthority (scheme : String) (cs : List Char) : Except UrlError Url := do
  let kind := kindOf scheme
  let (user, behind) := cutUser kind cs
  if user = some [] ∧ behind.head?.any (endsAuthority kind) then throw .emptyHost
  let (host, port, rest) ← readAuthority scheme behind
  if host.isNone ∧ user ≠ none ∧ user ≠ some [] ∧ user ≠ some [':'] then throw .emptyHost
  let path := rest.takeWhile (!endsPath ·)
  return ⟨scheme, host, port, String.ofList (pathAfterAuthority kind path),
    readQuery kind (rest.drop path.length)⟩

/-! ### Files and other schemes -/

/-- A file, with a host if it has one, and the text of the path behind its first slash. -/
def fileUrl (host : Option Host) (cs : List Char) : Url :=
  let path := cs.takeWhile (!endsPath ·)
  let (resolved, hasDrive) := resolvePath .file path
  ⟨"file", if hasDrive then none else host, none, String.ofList resolved,
    readQuery .file (cs.drop path.length)⟩

def dropSlash : List Char → List Char
  | c :: rest => if isSlash .file c then rest else c :: rest
  | [] => []

/-- The host of a file; the machine itself has no name. -/
def readFileHost (cs : List Char) : Except UrlError (Option Host) :=
  if cs.isEmpty then .ok none
  else (Host.read cs).map fun host => if host = .domain "localhost" then none else some host

/-- Reads the text behind `file:`. -/
def readFile (cs : List Char) : Except UrlError Url :=
  match cs with
  | c :: d :: rest =>
    if isSlash .file c && isSlash .file d then do
      let name := rest.takeWhile (!endsAuthority .file ·)
      if isDriveLetter name then return fileUrl none rest
      else return fileUrl (← readFileHost name) (dropSlash (rest.drop name.length))
    else .ok (fileUrl none (dropSlash cs))
  | cs => .ok (fileUrl none (dropSlash cs))

/-- Reads the text behind a scheme that has no authority. -/
def readWithoutAuthority (scheme : String) (cs : List Char) : Url :=
  let path := cs.takeWhile (!endsPath ·)
  let resolved := match path with
    | '/' :: rest => (resolvePath .other rest).1
    | path => Percent.encode Host.isControl path
  ⟨scheme, none, none, String.ofList resolved, readQuery .other (cs.drop path.length)⟩

/-! ### The whole text -/

def parse (text : String) : Except UrlError Url :=
  match cutScheme? (clean text.toList) with
  | none => .error .relative
  | some (scheme, rest) =>
    match kindOf scheme, rest with
    | .file, rest => readFile rest
    | .special, rest => readWithAuthority scheme (rest.dropWhile (isSlash .special))
    | .other, '/' :: '/' :: rest => readWithAuthority scheme rest
    | .other, rest => .ok (readWithoutAuthority scheme rest)

/-- The host's text, empty without a host. -/
def hostText (u : Url) : String := (u.host.map Host.text).getD ""

/-- The scheme, the host, the port and the path. -/
def endpoint (u : Url) : String :=
  let port := match u.port with
    | some n => ":" ++ toString n
    | none => ""
  u.scheme ++ "://" ++ u.hostText ++ port ++ u.path

end Url

end TrackerTraffic
