import SqlWorkload.Url.Host
/-!
# URLs

The parts of a URL. Blanks and controls at its two ends do not count, nor do tabs and line ends
anywhere, but in the path of a file they can set a drive apart from what follows it. What follows
the scheme has one of three forms: URLs of the web and of files have a domain as their host and take
a backslash for a slash; any other URL has a host only after two slashes.
-/

namespace SqlWorkload

/-- Each part as it is written; a part that is left out is empty. -/
structure Url where
  user : List Char := []
  password : List Char := []
  host : List Char := []
  /-- The path without the slashes at its front, and with its steps up and on the spot taken. -/
  path : List Char := []
  query : List Char := []
deriving DecidableEq, Repr

namespace Url

/-- The text without the blanks and controls at its ends. -/
def trim (s : List Char) : List Char :=
  let isEdge (c : Char) := c.toNat ≤ 0x20
  ((s.dropWhile isEdge).reverse.dropWhile isEdge).reverse

def isIgnored (c : Char) : Bool := ['\t', '\n', '\r'].contains c

/-- The characters that count. -/
def clean (s : List Char) : List Char := s.filter fun c => !isIgnored c

def isSchemeChar (c : Char) : Bool := c.isAlphanum || ['+', '-', '.'].contains c

/-- The scheme, which begins with a letter, and what follows the colon behind it. -/
def scheme? (s : List Char) : Option (String × List Char) :=
  match s.head?, s.dropWhile isSchemeChar with
  | some c, ':' :: rest =>
    if c.isAlpha then
      some (String.ofList ((s.takeWhile isSchemeChar).map Char.toLower), rest)
    else none
  | _, _ => none

inductive Form where
  | web
  | file
  | general
deriving DecidableEq, Repr

def Form.ofScheme (scheme : String) : Form :=
  if scheme = "file" then file
  else if scheme ∈ ["http", "https", "ws", "wss", "ftp"] then web
  else general

def Form.isSlash (form : Form) (c : Char) : Bool := c == '/' || (c == '\\' && form != .general)

/-- Whether the character ends the host part of a URL. -/
def Form.isEnd (form : Form) (c : Char) : Bool := form.isSlash c || c == '?' || c == '#'

/-! ## Paths -/

/-- Points in a path may be written as percent signs with their number. -/
def points : List (List Char) := [".".toList, "%2e".toList, "%2E".toList]

def isOnSpot (segment : List Char) : Bool := points.contains segment

def isUp (segment : List Char) : Bool :=
  points.any fun p => points.any fun q => segment == p ++ q

/-- A letter with a colon or bar after it, which names a drive. -/
def isDrive : List Char → Bool
  | [letter, mark] => letter.isAlpha && (mark == ':' || mark == '|')
  | _ => false

/-- The segments after a step up, the last segment first. There is no way up from a drive, nor from
a segment in which a drive stands before a backslash. -/
def stepUp : List (List Char) → List (List Char)
  | segment :: rest => if isDrive (segment.takeWhile (· != '\\')) then segment :: rest else rest
  | [] => []

/-- A drive at the front of a segment and what follows it, if only characters that do not count lie
between them. -/
def splitDrive? (segment : List Char) : Option (List Char × List Char) :=
  match segment.dropWhile isIgnored with
  | letter :: rest =>
    match rest.dropWhile isIgnored with
    | ':' :: c :: rest =>
      if letter.isAlpha ∧ isIgnored c ∧ clean rest ≠ [] then some ([letter, ':'], clean rest)
      else none
    | _ => none
  | [] => none

/-- The segments of a path with its steps taken, `taken` being those before them, last first. A step
at the end leaves an empty segment. The drive that is first in the path of a file becomes a segment
of its own, and what is set apart from it is no step. -/
def takeSteps (form : Form) (taken : List (List Char)) : List (List Char) → List (List Char)
  | [] => taken.reverse
  | segment :: rest =>
    match (if form = .file ∧ taken = [] then splitDrive? segment else none) with
    | some (drive, segment) => takeSteps form [segment, drive] rest
    | none =>
      let segment := clean segment
      let after :=
        if isUp segment then stepUp taken
        else if isOnSpot segment then taken
        else segment :: taken
      if rest = [] ∧ (isUp segment ∨ isOnSpot segment) then ([] :: after).reverse
      else takeSteps form after rest

def resolve (form : Form) (path : List Char) : List Char :=
  let path := match path.dropWhile isIgnored with
    | c :: rest => if form.isSlash c then rest else path
    | [] => []
  let segments := takeSteps form [] (Text.pieces form.isSlash path)
  (['/'].intercalate segments).dropWhile (· == '/')

/-- The URL with the query that the text begins with, if it begins with one. -/
def addQuery (u : Url) : List Char → Url
  | '?' :: rest => { u with query := clean (rest.takeWhile (· != '#')) }
  | _ => u

/-- The URL with the path and query that make up a text. -/
def addPath (form : Form) (u : Url) (s : List Char) : Url :=
  let isPathChar (c : Char) := c != '?' && c != '#'
  addQuery { u with path := resolve form (s.takeWhile isPathChar) } (s.dropWhile isPathChar)

/-! ## Hosts -/

/-- The length of the host at the front of a text, which goes on to the end of the host part or to a
colon outside of brackets. -/
def hostLength (form : Form) (inBrackets : Bool) : List Char → Nat
  | [] => 0
  | c :: rest =>
    if form.isEnd c ∨ (c = ':' ∧ !inBrackets) then 0
    else hostLength form (c == '[' || (c != ']' && inBrackets)) rest + 1

/-- The text after the number that a colon has put behind a host. It is below 65536, or left out. -/
def skipPort (s : List Char) : Except UrlError (List Char) :=
  let isEnd (c : Char) := ['/', '\\', '?', '#'].contains c
  let digits := s.takeWhile fun c => !isEnd c
  if digits.all Char.isDigit ∧ Text.digitsValue digits < UInt16.size then
    .ok (s.dropWhile fun c => !isEnd c)
  else .error .invalidPort

/-- The URL with the host, path and query that make up a text. A host may be empty if it has neither
a user before it nor a colon behind it, but not on the web. -/
def addHost (form : Form) (u : Url) (s : List Char) : Except UrlError Url := do
  let length := hostLength form false s
  let host := s.take length
  if form = .web ∧ host = [] then throw .emptyHost
  Host.check (form = .web) host
  let rest ← match s.drop length with
    | ':' :: rest => if host = [] then throw .emptyHost else skipPort rest
    | rest => pure rest
  if host = [] ∧ (u.user ≠ [] ∨ u.password ≠ []) then throw .emptyHost
  return addPath form { u with host } rest

/-- The URL that follows two slashes. The last at sign before the path ends the user and the
password, with the first colon between them. -/
def ofAuthority (form : Form) (s : List Char) : Except UrlError Url :=
  let front := s.takeWhile fun c => !form.isEnd c
  let afterAt := (front.reverse.takeWhile (· != '@')).length
  if front.length = afterAt then addHost form {} s
  else
    let login := front.take (front.length - afterAt - 1)
    let rest := s.drop (front.length - afterAt)
    if login = [] ∧ afterAt = 0 ∧ rest ≠ [] then .error .emptyHost
    else
      let user := login.takeWhile (· != ':')
      addHost form { user, password := login.drop (user.length + 1) } rest

/-- What follows a slash at the front of a text. -/
def Form.afterSlash? (form : Form) (s : List Char) : Option (List Char) :=
  match s.dropWhile isIgnored with
  | c :: rest => if form.isSlash c then some rest else none
  | [] => none

/-- The URL of a file. After two slashes comes a host, unless a drive stands there. -/
def ofFile (s : List Char) : Except UrlError Url :=
  match Form.file.afterSlash? s >>= Form.file.afterSlash? with
  | none => .ok (addPath .file {} s)
  | some rest =>
    let front := rest.takeWhile fun c => !Form.file.isEnd c
    let host := clean front
    if host = [] ∨ isDrive host then .ok (addPath .file {} rest)
    else do
      Host.check true host
      return addPath .file { host } (rest.drop front.length)

def ofText (text : String) : Except UrlError Url :=
  let s := trim text.toList
  match scheme? (clean s) with
  | none => .error .noScheme
  | some (scheme, rest) =>
    match Form.ofScheme scheme with
    -- with the characters that do not count, for the sake of drives
    | .file => ofFile ((s.dropWhile (· != ':')).drop 1)
    | .web => ofAuthority .web (rest.dropWhile Form.web.isSlash)
    | .general =>
      match rest with
      | '/' :: '/' :: rest => ofAuthority .general rest
      | '/' :: _ => .ok (addPath .general {} rest)
      | _ =>
        let isPathChar (c : Char) := c != '?' && c != '#'
        .ok (addQuery { path := rest.takeWhile isPathChar } (rest.dropWhile isPathChar))

/-- The names and values of the query. -/
def parameters (u : Url) : List (String × String) :=
  ((Text.pieces (· == '&') u.query).filter (· ≠ [])).map fun piece =>
    let name := piece.takeWhile (· != '=')
    (Text.Percent.decodeForm name, Text.Percent.decodeForm (piece.drop (name.length + 1)))

end Url

end SqlWorkload
