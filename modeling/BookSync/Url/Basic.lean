/-
URLs.

All parts of a `Url` are encoded. A path is a list of segments, each of which
is printed behind a slash, or in a URL without host one flat text.

* **`Url.toString`** is the text of a URL.
-/
import BookSync.Url.Host

namespace BookSync

namespace Url

/-- Who is asked, and where. -/
structure Authority where
  user : String
  password : Option String
  host : Host
  /-- The number of the service at the host, unless it is the usual one of the
  scheme. -/
  service : Option Nat
  deriving DecidableEq

/-- A path. -/
inductive Path
  /-- A text that is not divided into segments. -/
  | flat (text : String)
  | segments (list : List String)
  deriving DecidableEq

end Url

/-- A URL. -/
structure Url where
  scheme : String
  authority : Option Url.Authority
  path : Url.Path
  query : Option String
  fragment : Option String
  deriving DecidableEq

namespace Url

/-- User and password, with what sets them off. -/
def Authority.credentials (a : Authority) : List Char :=
  match a.password with
  | some password => a.user.toList ++ ':' :: password.toList ++ ['@']
  | none => if a.user.isEmpty then [] else a.user.toList ++ ['@']

/-- Credentials, host and service. -/
def Authority.text (a : Authority) : List Char :=
  a.credentials ++ a.host.text ++
    match a.service with
    | some service => ':' :: Nat.toDigits 10 service
    | none => []

/-- The text of a path. -/
def Path.text : Path → List Char
  | flat text => text.toList
  | segments list => list.flatMap fun s => '/' :: s.toList

/-- The path would be taken for an authority. -/
def Path.startsEmpty : Path → Bool
  | segments ("" :: _ :: _) => true
  | _ => false

/-- What stands between scheme and query. -/
def bodyText (u : Url) : List Char :=
  match u.authority with
  | some a => '/' :: '/' :: a.text ++ u.path.text
  | none => (if u.path.startsEmpty then ['/', '.'] else []) ++ u.path.text

/-- A part that may be missing, with its mark in front. -/
def marked (mark : Char) : Option String → List Char
  | some s => mark :: s.toList
  | none => []

/-- The text of a URL. -/
def toChars (u : Url) : List Char :=
  u.scheme.toList ++ ':' :: u.bodyText ++ marked '?' u.query ++ marked '#' u.fragment

instance : ToString Url := ⟨fun u => String.ofList u.toChars⟩

end Url

end BookSync
