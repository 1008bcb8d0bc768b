import RelyingParty.Url.Basic

/-!
# Reading URLs

Blanks around the text and line breaks inside it do not count. A few schemes are special: their
hosts are domain names, a backslash is a slash to them, and they have a port by default, which is
left out. The path is freed from the segments that only point to itself or to its parent.
-/

namespace RelyingParty.Url

open RelyingParty.Text

/-- How a URL is read under its scheme. -/
inductive Kind where
  /-- A special scheme with hosts. -/
  | special
  /-- The scheme of files, whose hosts may be left out. -/
  | file
  /-- Any other scheme. -/
  | other
deriving DecidableEq, Repr

/-- The special schemes with hosts and the ports that they have by default. -/
def defaultPorts : List (String × Nat) :=
  [("http", 80), ("https", 443), ("ws", 80), ("wss", 443), ("ftp", 21)]

/-- How a URL is read under a scheme. -/
def Kind.ofScheme (scheme : String) : Kind :=
  if (defaultPorts.lookup scheme).isSome then .special
  else if scheme = "file" then .file
  else .other

/-- A text without what does not count: blanks around it, and tabs and line breaks. -/
def cleaned (text : String) : List Char :=
  let isOuter (c : Char) : Bool := c.toNat ≤ 0x20
  let inner := ((text.toList.dropWhile isOuter).reverse.dropWhile isOuter).reverse
  inner.filter fun c => c != '\t' && c != '\n' && c != '\r'

/-- The scheme, in lower case, and what follows its colon. -/
def scheme? (chars : List Char) : Option (String × List Char) :=
  let isSchemeChar (c : Char) : Bool := c.isAlphanum || c == '+' || c == '-' || c == '.'
  let name := chars.takeWhile isSchemeChar
  match name, chars.dropWhile isSchemeChar with
  | first :: _, ':' :: rest =>
    if first.isAlpha then some (String.ofList (name.map Char.toLower), rest) else none
  | _, _ => none

/-- Whether a character separates segments. -/
def isSlash (kind : Kind) (c : Char) : Bool :=
  c == '/' || kind != .other && c == '\\'

/-- Whether a character ends the host and what belongs to it. -/
def endsAuthority (kind : Kind) (c : Char) : Bool :=
  isSlash kind c || c == '?' || c == '#'

/-- Whether a character ends the path. -/
def endsPath (c : Char) : Bool :=
  c == '?' || c == '#'

/-- What lies before the last `@` and what behind it, if there is one. -/
def userInfo? (chars : List Char) : Option (List Char × List Char) :=
  if chars.contains '@' then
    let rest := (chars.reverse.takeWhile (· != '@')).reverse
    some (chars.take (chars.length - rest.length - 1), rest)
  else none

/-- The user and the password, with a colon between them. -/
def userAndPassword (chars : List Char) : String × String :=
  let user := chars.takeWhile (· != ':')
  (percentEncode inUserInfo user, percentEncode inUserInfo (chars.drop (user.length + 1)))

/-- The host and what follows it; a colon inside brackets belongs to the host. -/
def splitHost (isInside : Bool) : List Char → List Char × List Char
  | [] => ([], [])
  | c :: rest =>
    if c == ':' && !isInside then ([], c :: rest)
    else
      let inside := if c == '[' then true else if c == ']' then false else isInside
      let (host, later) := splitHost inside rest
      (c :: host, later)

/-- The port that digits stand for; none if there are no digits or it is the default. -/
def port? (scheme : String) (digits : List Char) : Except Fault (Option Nat) :=
  match numberIn? 10 digits with
  | none => .error .invalidPort
  | some n =>
    if UInt16.size ≤ n then .error .invalidPort
    else if digits.isEmpty || defaultPorts.lookup scheme = some n then .ok none
    else .ok (some n)

/-- Divides what follows the colon behind a host into the port and the beginning of a path that may
follow it without a slash. -/
def splitPort (chars : List Char) : List Char × List Char :=
  (chars.takeWhile (· != '\\'), chars.dropWhile (· != '\\'))

/-- The authority in the text up to the path, and what of that text belongs to the path. -/
def readAuthority (scheme : String) (kind : Kind) (chars : List Char) :
    Except Fault (Authority × List Char) := do
  let (info, rest) := (userInfo? chars).getD ([], chars)
  let (user, password) := userAndPassword info
  let (host, tail) := splitHost false rest
  if host.isEmpty && kind == .special then throw .emptyHost
  let found ← if kind == .special then Host.special host else Host.plain host
  if found = .name "" && (!tail.isEmpty || !user.isEmpty || !password.isEmpty) then
    throw .emptyHost
  let (digits, later) := splitPort (tail.drop 1)
  let port ← port? scheme digits
  return ({ user, password, host := found, port }, later)

/-- Whether a segment is a drive letter with a colon or a bar. -/
def isDriveLetter : List Char → Bool
  | [letter, mark] => letter.isAlpha && (mark == ':' || mark == '|')
  | _ => false

/-- Spellings of a dot in a segment that points to itself or its parent. -/
def dots : List Char → Option Nat
  | [] => some 0
  | '.' :: rest => (dots rest).map (· + 1)
  | '%' :: '2' :: 'e' :: rest => (dots rest).map (· + 1)
  | '%' :: '2' :: 'E' :: rest => (dots rest).map (· + 1)
  | _ => none

/-- Adds a segment to a path whose segments are given last first. The last segment of a URL that
points elsewhere leaves an empty one behind. -/
def addSegment (kind : Kind) (isLast : Bool) (path : List String) (segment : List Char) :
    List String :=
  let encoded := percentEncode inPath segment
  if dots encoded.toList = some 2 then
    let shortened :=
      match path with
      | last :: rest => if isDriveLetter last.toList then last :: rest else rest
      | [] => []
    if isLast then "" :: shortened else shortened
  else if dots encoded.toList = some 1 then
    if isLast then "" :: path else path
  else if kind = .file && path.isEmpty && isDriveLetter segment then
    String.ofList (segment.take 1 ++ [':']) :: path
  else encoded :: path

/-- Adds segments to a path whose segments are given last first. -/
def addSegments (kind : Kind) (path : List String) : List (List Char) → List String
  | [] => path
  | [last] => addSegment kind true path last
  | segment :: rest => addSegments kind (addSegment kind false path segment) rest

/-- The texts between slashes. -/
def splitSegments (kind : Kind) (chars : List Char) : List (List Char) :=
  chars.splitOnP (isSlash kind)

/-- The segments of a path without the slash in front of it. -/
def segments (kind : Kind) (chars : List Char) : List String :=
  (addSegments kind [] (splitSegments kind chars)).reverse

/-- The segments of the path of a file, which does not begin with empty ones. -/
def trimmed (segments : List String) : List String :=
  let kept := segments.dropWhile String.isEmpty
  if kept.isEmpty then [""] else kept

/-- The query and the fragment in the text from the end of the path on. -/
def readTail (kind : Kind) (chars : List Char) : Tail :=
  let isEncoded := if kind = .other then inQuery else inSpecialQuery
  let beforeFragment := chars.takeWhile (· != '#')
  let query :=
    match beforeFragment with
    | '?' :: query => some (percentEncode isEncoded query)
    | _ => none
  let fragment :=
    match chars.dropWhile (· != '#') with
    | '#' :: fragment => some (percentEncode inFragment fragment)
    | _ => none
  ⟨query, fragment⟩

/-- A path without one slash in front of it. -/
def withoutSlash (kind : Kind) : List Char → List Char
  | [] => []
  | c :: rest => if isSlash kind c then rest else c :: rest

/-- The path behind an authority: a special URL always has one. -/
def pathAfter (kind : Kind) (chars : List Char) : Path :=
  if chars.isEmpty && kind == .other then .segments []
  else .segments (segments kind (withoutSlash kind chars))

/-- Reads a URL whose authority begins `chars`. -/
def withAuthority (scheme : String) (kind : Kind) (chars : List Char) : Except Fault Url := do
  let front := chars.takeWhile (!endsAuthority kind ·)
  let rest := chars.drop front.length
  if front = ['@'] && !rest.isEmpty then throw .emptyHost
  let (found, later) ← readAuthority scheme kind front
  let path := later ++ rest.takeWhile (!endsPath ·)
  return ⟨scheme, some found, pathAfter kind path, readTail kind (rest.dropWhile (!endsPath ·))⟩

/-- The host of a file, if one is named; the local host needs no name. -/
def fileHost (chars : List Char) : Except Fault Host :=
  if chars.isEmpty then .ok (.name "")
  else
    match Host.special chars with
    | .ok (.name "localhost") => .ok (.name "")
    | result => result

/-- The host and the path in the URL of a file up to its query. Without two slashes, and with a
drive letter behind them, there is no host. -/
def splitFile (chars : List Char) : Except Fault (Host × List Char) :=
  match chars with
  | a :: b :: rest =>
    if isSlash .file a && isSlash .file b then do
      let front := rest.takeWhile (!isSlash .file ·)
      if isDriveLetter front then return (.name "", rest)
      return (← fileHost front, rest.drop front.length)
    else .ok (.name "", chars)
  | _ => .ok (.name "", chars)

/-- Reads the URL of a file behind its scheme. A path that begins with a drive letter has no
host. -/
def ofFile (scheme : String) (chars : List Char) : Except Fault Url := do
  let (host, path) ← splitFile (chars.takeWhile (!endsPath ·))
  let found := segments .file (withoutSlash .file path)
  let isDrive := found.head?.any (isDriveLetter ·.toList)
  return {
    scheme := scheme
    authority := some { host := if isDrive then .name "" else host }
    path := .segments (trimmed found)
    tail := readTail .file (chars.dropWhile (!endsPath ·)) }

/-- Reads a URL with another scheme behind its scheme. -/
def ofOther (scheme : String) (chars : List Char) : Except Fault Url :=
  let pathText := chars.takeWhile (!endsPath ·)
  let tail := readTail .other (chars.dropWhile (!endsPath ·))
  match pathText with
  | '/' :: '/' :: _ => withAuthority scheme .other (chars.drop 2)
  | '/' :: rest => .ok ⟨scheme, none, .segments (segments .other rest), tail⟩
  | _ => .ok ⟨scheme, none, .whole (percentEncode isControl pathText), tail⟩

/-- The URL that a text is. -/
def parse (text : String) : Except Fault Url :=
  match scheme? (cleaned text) with
  | none => .error .noScheme
  | some (scheme, rest) =>
    match Kind.ofScheme scheme with
    | .special => withAuthority scheme .special (rest.dropWhile (isSlash .special))
    | .file => ofFile scheme rest
    | .other => ofOther scheme rest

end Url

end RelyingParty
