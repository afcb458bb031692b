/-
Reading URLs.

The scheme decides how the rest is read. In a special scheme there always is a
host, and backslashes are slashes; files have a host or none; any other scheme
has a host only behind two slashes, and without any slash its path is flat.

* **`Url.parse`** reads a URL. There is no base, so that a text without scheme
  is a fault.
-/
import BookSync.Url.Path

namespace BookSync.Url

/-! ### Schemes -/

/-- How a scheme reads the rest of a URL. -/
inductive SchemeKind
  | special
  | file
  | plain
  deriving DecidableEq

/-- The kind of a scheme. -/
def SchemeKind.ofScheme : String → SchemeKind
  | "http" | "https" | "ws" | "wss" | "ftp" => special
  | "file" => file
  | _ => plain

/-- The number of the service that is meant where none is given. -/
def usualService? : String → Option Nat
  | "http" | "ws" => some 80
  | "https" | "wss" => some 443
  | "ftp" => some 21
  | _ => none

/-- The character divides a path. -/
def SchemeKind.isSlash (k : SchemeKind) (c : Char) : Bool := c = '/' || (k ≠ plain && c = '\\')

/-- The scheme, in lower case, and what follows its colon. -/
def splitScheme? (cs : List Char) : Option (String × List Char) :=
  match cs.span (· ≠ ':') with
  | (c :: name, _ :: rest) =>
    if c.isAlpha && name.all fun x => x.isAlphanum || x = '+' || x = '-' || x = '.' then
      some (String.ofList ((c :: name).map Char.toLower), rest)
    else none
  | _ => none

/-! ### Authority -/

/-- The text of a host, and the rest from a colon on that is not in brackets. -/
def splitHost (bracketed : Bool) : List Char → List Char × List Char
  | [] => ([], [])
  | c :: cs =>
    if c = ':' ∧ !bracketed then ([], c :: cs)
    else
      let (host, rest) := splitHost (c = '[' || (bracketed && c ≠ ']')) cs
      (c :: host, rest)

/-- User and password; an empty password is none. -/
def readCredentials (cs : List Char) : String × Option String :=
  let encoded (cs : List Char) := String.ofList (Percent.encode Percent.userinfo cs)
  match cs.span (· ≠ ':') with
  | (user, _ :: c :: password) => (encoded user, some (encoded (c :: password)))
  | (user, _) => (encoded user, none)

/-- The number of a service in front of a text, and what follows it. Only a
backslash may follow. -/
def readService (usual : Option Nat) (cs : List Char) : Except Fault (Option Nat × List Char) :=
  let (digits, rest) := cs.span fun c => (Decimal.digit? c).isSome
  let n := (digits.filterMap Decimal.digit?).foldl Decimal.push 0
  if 65535 < n ∨ (rest.head?.any (· ≠ '\\')) then .error .badService
  else .ok (if digits.isEmpty ∨ some n = usual then none else some n, rest)

/-- Host and service, and what follows them. -/
def readHost (k : SchemeKind) (usual : Option Nat) (cs : List Char) :
    Except Fault (Host × Option Nat × List Char) := do
  let (name, rest) := splitHost false cs
  let host ← if k = .plain then Host.ofPlain name
    else if name.isEmpty then .error .emptyHost
    else Host.ofSpecial name
  match rest with
  | [] => return (host, none, [])
  | _ :: cs =>
    if host.isAbsent then throw .emptyHost
    let (service, rest) ← readService usual cs
    return (host, service, rest)

/-- An authority, and what follows it; `goesOn` tells that the URL does not end
with it. Credentials ask for a host. -/
def readAuthority (k : SchemeKind) (usual : Option Nat) (goesOn : Bool) (cs : List Char) :
    Except Fault (Authority × List Char) := do
  match Text.splitAtLast? '@' cs with
  | none =>
    let (host, service, rest) ← readHost k usual cs
    return (⟨"", none, host, service⟩, rest)
  | some (before, after) =>
    if before.isEmpty ∧ after.isEmpty ∧ goesOn then throw .emptyHost
    let (user, password) := readCredentials before
    let (host, service, rest) ← readHost k usual after
    if host.isAbsent ∧ (user ≠ "" ∨ password.isSome) then throw .emptyHost
    return (⟨user, password, host, service⟩, rest)

/-! ### The parts behind the scheme -/

/-- The character ends a path. -/
def endsPath (c : Char) : Bool := c = '?' || c = '#'

/-- The text up to query and fragment, and the text from there on. -/
def splitPath (cs : List Char) : List Char × List Char := cs.span fun c => !endsPath c

/-- The text without a slash in front. -/
def dropSlash (k : SchemeKind) : List Char → List Char
  | [] => []
  | c :: cs => if k.isSlash c then cs else c :: cs

/-- The segments of a path behind its first slash. -/
def segments (k : SchemeKind) (cs : List Char) : List String :=
  Path.ofText k.isSlash (k = .file) cs

/-- The segments of a path behind a host. -/
def readPath (k : SchemeKind) (cs : List Char) : Path :=
  .segments (if k = .plain ∧ cs.isEmpty then [] else segments k (dropSlash k cs))

/-- Query and fragment. -/
def readTail (k : SchemeKind) (cs : List Char) : Option String × Option String :=
  let encoded (reserved : Percent.Reserved) (cs : List Char) :=
    some (String.ofList (Percent.encode reserved cs))
  let fragment (cs : List Char) := match cs with
    | [] => none
    | _ :: cs => encoded Percent.fragment cs
  match cs with
  | '?' :: cs =>
    let (query, rest) := cs.span (· ≠ '#')
    (encoded (if k = .plain then Percent.query else Percent.specialQuery) query, fragment rest)
  | cs => (none, fragment cs)

/-- Authority, path and the rest, where there is an authority. -/
def readHosted (k : SchemeKind) (usual : Option Nat) (cs : List Char) :
    Except Fault (Option Authority × Path × List Char) := do
  let (text, rest) := cs.span fun c => !(k.isSlash c || endsPath c)
  let (authority, more) ← readAuthority k usual (!rest.isEmpty) text
  let (path, tail) := splitPath (more ++ rest)
  return (some authority, readPath k path, tail)

/-- The host of a file; the own machine needs no name. -/
def readFileHost (cs : List Char) : Except Fault Host := do
  let host ← if cs.isEmpty then pure Host.absent else Host.ofSpecial cs
  return if host = .name "localhost" then .absent else host

/-- What stands behind two slashes. -/
def behindSlashes? (k : SchemeKind) : List Char → Option (List Char)
  | a :: b :: cs => if k.isSlash a && k.isSlash b then some cs else none
  | _ => none

/-- The host of a file, its path behind the first slash, and the rest. A drive
in place of the host is the start of the path. Where the host is missing, one
slash more counts as the first. -/
def splitFile (cs : List Char) : Except Fault (Host × List Char × List Char) := do
  let k := SchemeKind.file
  match behindSlashes? k cs with
  | none =>
    let (path, tail) := splitPath cs
    return (.absent, dropSlash k path, tail)
  | some cs =>
    let (path, tail) := splitPath cs
    let (name, rest) := path.span fun c => !k.isSlash c
    if (Path.drive? name).isSome then return (.absent, path, tail)
    else
      let host ← readFileHost name
      return (host, if host.isAbsent then rest else dropSlash k rest, tail)

/-- Authority, path and the rest of a file. A file on a drive has no host. -/
def readFile (cs : List Char) : Except Fault (Option Authority × Path × List Char) := do
  let (host, path, tail) ← splitFile cs
  let list := segments .file path
  let host := if Path.startsWithDrive list then .absent else host
  return (some ⟨"", none, host, none⟩, .segments (Path.dropEmpty list), tail)

/-- Authority, path and the rest in a scheme that is not special. -/
def readPlain (cs : List Char) : Except Fault (Option Authority × Path × List Char) :=
  match cs with
  | '/' :: '/' :: cs => readHosted .plain none cs
  | cs =>
    let (path, tail) := splitPath cs
    let path := match path with
      | '/' :: path => .segments (segments .plain path)
      | path => .flat (String.ofList (Percent.encode Percent.bare path))
    .ok (none, path, tail)

/-! ### Whole URLs -/

/-- A space or control character. -/
def isEdge (c : Char) : Bool := c ≤ ' '

/-- The text without what is passed over: spaces and control characters at both
ends, tabs and line ends anywhere. -/
def strip (cs : List Char) : List Char :=
  let cs := ((cs.dropWhile isEdge).reverse.dropWhile isEdge).reverse
  cs.filter fun c => !(c = '\t' || c = '\n' || c = '\r')

/-- Read a URL. -/
def parse (text : String) : Except Fault Url := do
  match splitScheme? (strip text.toList) with
  | none => throw .noScheme
  | some (scheme, rest) =>
    let k := SchemeKind.ofScheme scheme
    let (authority, path, tail) ← match k with
      | .special => readHosted k (usualService? scheme) (rest.dropWhile k.isSlash)
      | .file => readFile rest
      | .plain => readPlain rest
    let (query, fragment) := readTail k tail
    return ⟨scheme, authority, path, query, fragment⟩

end BookSync.Url
