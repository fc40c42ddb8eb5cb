import TenantApps.Url.Basic

/-!
# `TenantApps.Url.Parse` — URL parsing

Parsing of absolute URLs as browsers do it: surrounding controls and spaces, and tabs and line
breaks, are removed. The `Family` of the scheme decides how the rest is read: `web` schemes have a
host and treat `\` as `/`; `file` has an optional host and drive letters; any other scheme has an
authority only after `//`.

## Contents
- Percent-encode sets, `Family`, `splitScheme?`.
- `readAuthority`, `readSegments` with dot segments (`walk`), `ofRest`.
- `Url.parse`.
-/

namespace TenantApps.Url

/-! ## Percent-encode sets -/

/-- The fragment set. -/
def inFragment (c : Char) : Bool := Host.escapes c || " \"<>`".toList.contains c

/-- The path set. -/
def inPath (c : Char) : Bool := inFragment c || "#?\x7b\x7d".toList.contains c

/-- The user information set. -/
def inUser (c : Char) : Bool := inPath c || "/:;=@[\\]^|".toList.contains c

/-- The query set; special schemes add the apostrophe. -/
def inQuery (web : Bool) (c : Char) : Bool :=
  Host.escapes c || " \"#<>".toList.contains c || (web && c == '\'')

/-- Percent-encodes the characters of a set. -/
def escaped (escapes : Char → Bool) (cs : List Char) : String :=
  String.ofList (Percent.encode escapes cs)

/-! ## Schemes -/

/-- How the part after the scheme is parsed. -/
inductive Family
  /-- `http`, `https`, `ws`, `wss`, `ftp`. -/
  | web
  /-- `file`. -/
  | file
  /-- Any other scheme. -/
  | other
  deriving DecidableEq, Repr

/-- The family of a scheme. -/
def family (scheme : String) : Family :=
  if scheme = "file" then .file
  else if ["http", "https", "ws", "wss", "ftp"].contains scheme then .web
  else .other

/-- The default port of a scheme. -/
def usualPort? (scheme : String) : Option Nat :=
  if scheme = "http" ∨ scheme = "ws" then some 80
  else if scheme = "https" ∨ scheme = "wss" then some 443
  else if scheme = "ftp" then some 21
  else none

/-- Characters of a scheme. -/
def isSchemeChar (c : Char) : Bool := c.isAlphanum || c == '+' || c == '-' || c == '.'

/-- The scheme in lower case, and the text after its colon. -/
def splitScheme? (cs : List Char) : Option (String × List Char) :=
  match cs.takeWhile isSchemeChar, cs.dropWhile isSchemeChar with
  | c :: name, ':' :: rest =>
    if c.isAlpha then some (String.ofList ((c :: name).map Char.toLower), rest) else none
  | _, _ => none

/-- The text without surrounding controls and spaces, tabs and line breaks. -/
def significant (cs : List Char) : List Char :=
  let isBlank (c : Char) : Bool := c.toNat ≤ 0x20
  ((cs.dropWhile isBlank).reverse.dropWhile isBlank).reverse.filter fun c =>
    !(c == '\t' || c == '\n' || c == '\r')

/-! ## Authorities -/

/-- Slashes; backslashes count as such unless the family is `other`. -/
def isSlash (f : Family) (c : Char) : Bool := c == '/' || (c == '\\' && f ≠ .other)

/-- The end of the path. -/
def endsPath (c : Char) : Bool := c == '?' || c == '#'

/-- The end of the authority. -/
def endsAuthority (f : Family) (c : Char) : Bool := isSlash f c || endsPath c

/-- Splits host and port at the first colon outside brackets. -/
def splitHost (inside : Bool) : List Char → List Char × List Char
  | [] => ([], [])
  | c :: rest =>
    if c = ':' ∧ ¬inside then ([], c :: rest)
    else
      let inside := if c = '[' then true else if c = ']' then false else inside
      let (host, tail) := splitHost inside rest
      (c :: host, tail)

/-- User name and password; an empty password is `none`. -/
def readUser (info : List Char) : String × Option String :=
  let password := (info.dropWhile (· ≠ ':')).drop 1
  (escaped inUser (info.takeWhile (· ≠ ':')),
    if password = [] then none else some (escaped inUser password))

/-- The port after a colon, and the rest. -/
def readPort (scheme : String) (cs : List Char) : Except UrlError (Option Nat × List Char) :=
  let digits := cs.takeWhile Char.isDigit
  let rest := cs.dropWhile Char.isDigit
  let n := digits.foldl (fun n c => 10 * n + (c.toNat - '0'.toNat)) 0
  if 65535 < n ∨ rest.head?.any (· ≠ '\\') then .error .port
  else .ok (if digits = [] ∨ usualPort? scheme = some n then none else some n, rest)

/-- The optional port after a host. -/
def readPortAfter (scheme : String) :
    List Char → Except UrlError (Option Nat × List Char)
  | ':' :: rest => readPort scheme rest
  | rest => .ok (none, rest)

/-- The host; only schemes that are not `web` may leave it empty. -/
def readHost (f : Family) (cs : List Char) : Except UrlError (Option Host) :=
  match f, cs with
  | .web, [] => .error .emptyHost
  | .web, cs => (Host.parse cs).map some
  | _, [] => .ok none
  | _, cs => (Host.parseAny cs).map some

/-- Splits at the last `@`. -/
def splitUser (cs : List Char) : Option (List Char) × List Char :=
  if cs.contains '@' then
    (some ((cs.reverse.dropWhile (· ≠ '@')).drop 1).reverse, Text.afterLast '@' cs)
  else (none, cs)

/-- The authority and the rest. -/
def readAuthority (scheme : String) (cs : List Char) :
    Except UrlError (Authority × List Char) := do
  let f := family scheme
  let written := cs.takeWhile (!endsAuthority f ·)
  let follows := cs.dropWhile (!endsAuthority f ·)
  let (info, server) := splitUser written
  if info = some [] ∧ server = [] ∧ follows ≠ [] then throw .emptyHost
  let (username, password) := readUser (info.getD [])
  let (hostText, portText) := splitHost false server
  let host ← readHost f hostText
  if host = none ∧ portText ≠ [] then throw .emptyHost
  let (port, rest) ← readPortAfter scheme portText
  if host = none ∧ (username ≠ "" ∨ password ≠ none) then throw .emptyHost
  return (⟨username, password, host, port⟩, rest ++ follows)

/-! ## Paths -/

/-- A letter followed by `:` or `|`. -/
def isDriveLetter : List Char → Bool
  | [a, b] => a.isAlpha && (b == ':' || b == '|')
  | _ => false

/-- Whether `up` keeps the segment: a drive letter is not popped. -/
def staysBelow : List Char → Bool
  | a :: b :: rest => isDriveLetter [a, b] && (rest.isEmpty || rest.head? == some '\\')
  | _ => false

/-- Drops a leading `.`, plain or percent-encoded. -/
def dropPoint? : List Char → Option (List Char)
  | '.' :: rest | '%' :: '2' :: 'e' :: rest | '%' :: '2' :: 'E' :: rest => some rest
  | _ => none

/-- Single-dot segments. -/
def isHere (cs : List Char) : Bool := dropPoint? cs == some []

/-- Double-dot segments. -/
def isUp (cs : List Char) : Bool := (dropPoint? cs).bind dropPoint? == some []

/-- Pops a segment from the reversed path. -/
def up : List (List Char) → List (List Char)
  | [] => []
  | s :: above => if staysBelow s then s :: above else above

/-- Resolves dot segments; `done` holds the resolved segments in reverse. -/
def walk (f : Family) : List (List Char) → List (List Char) → List (List Char)
  | done, [] => done.reverse
  | done, s :: rest =>
    let folder (ss : List (List Char)) := if rest = [] then [] :: ss else ss
    if isUp s then walk f (folder (up done)) rest
    else if isHere s then walk f (folder done) rest
    else
      let s := Percent.encode inPath s
      let s := if f = .file ∧ done = [] ∧ isDriveLetter s then [s.headD 'c', ':'] else s
      walk f (s :: done) rest

/-- Drops one leading slash. -/
def dropSlash (f : Family) : List Char → List Char
  | [] => []
  | c :: rest => if isSlash f c then rest else c :: rest

/-- The resolved segments of a path. -/
def readSegments (f : Family) (cs : List Char) : List (List Char) :=
  let slashed := (dropSlash f cs).map fun c => if isSlash f c then '/' else c
  walk f [] (Text.split '/' slashed)

/-- The resolved segments of a file path, without leading empty ones. -/
def readFileSegments (cs : List Char) : List (List Char) :=
  let segments := readSegments .file cs
  match segments.dropWhile (· = []) with
  | [] => [[]]
  | ss => ss

/-- A path of segments. -/
def Path.ofSegments (ss : List (List Char)) : Path := .segments (ss.map String.ofList)

/-! ## URLs -/

/-- Assembles a URL; `rest` holds query and fragment. -/
def ofRest (scheme : String) (authority : Option Authority) (path : Path) (rest : List Char) :
    Url :=
  let query := rest.takeWhile (· ≠ '#')
  let fragment := rest.dropWhile (· ≠ '#')
  { scheme := scheme
    authority := authority
    path := path
    query := match query with
      | '?' :: q => some (escaped (inQuery (family scheme ≠ .other)) q)
      | _ => none
    fragment := match fragment with
      | '#' :: fr => some (escaped inFragment fr)
      | _ => none }

/-- Splits before `?` or `#`. -/
def splitPath (cs : List Char) : List Char × List Char :=
  (cs.takeWhile (!endsPath ·), cs.dropWhile (!endsPath ·))

/-- Parses after the two slashes of a `web` or `other` scheme. -/
def parseServer (scheme : String) (cs : List Char) : Except UrlError Url := do
  let (authority, rest) ← readAuthority scheme cs
  let (path, tail) := splitPath rest
  let segments := if path = [] ∧ family scheme = .other then []
    else readSegments (family scheme) path
  return ofRest scheme (some authority) (Path.ofSegments segments) tail

/-- Parses after the colon of `file`. -/
def parseFile (cs : List Char) : Except UrlError Url := do
  let (host, rest) ← (match cs with
    | a :: b :: rest =>
      if isSlash .file a ∧ isSlash .file b then
        let name := rest.takeWhile (!endsAuthority .file ·)
        if name = [] ∨ isDriveLetter name then .ok (none, rest)
        else (Host.parse name).map fun h =>
          (if h = .name "localhost" then none else some h,
            rest.dropWhile (!endsAuthority .file ·))
      else .ok (none, cs)
    | cs => .ok (none, cs) : Except UrlError (Option Host × List Char))
  let (path, tail) := splitPath rest
  let segments := readFileSegments path
  let host := if (readSegments .file path).head?.any isDriveLetter then none else host
  return ofRest "file" (some ⟨"", none, host, none⟩) (Path.ofSegments segments) tail

/-- Parses after the colon of an `other` scheme. -/
def parseOther (scheme : String) (cs : List Char) : Except UrlError Url :=
  let (path, tail) := splitPath cs
  match cs with
  | '/' :: '/' :: rest => parseServer scheme rest
  | '/' :: _ => .ok (ofRest scheme none (Path.ofSegments (readSegments .other path)) tail)
  | _ => .ok (ofRest scheme none (.plain (escaped Host.escapes path)) tail)

/-- Parses an absolute URL. -/
def parse (s : String) : Except UrlError Url :=
  match splitScheme? (significant s.toList) with
  | none => .error .relativeWithoutBase
  | some (scheme, rest) =>
    match family scheme with
    | .web => parseServer scheme (rest.dropWhile (isSlash .web))
    | .file => parseFile rest
    | .other => parseOther scheme rest

end TenantApps.Url
