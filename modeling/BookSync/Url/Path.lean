/-
Paths of URLs.

A path is cut into segments at its slashes. A segment of one point is left out
and one of two points takes the segment before it away; at the end of a path
either leaves an empty segment behind. A point may be written in percent
encoding.

A *drive* is a letter with a colon or a bar behind it. It is never taken away.
In front of the path of a file it is written with a colon, and the file is then
on the own machine.

* **`Path.ofText`** reads a path behind its first slash;
* **`Path.startsWithDrive`** tells whether a drive stands in front of it.
-/
import BookSync.Url.Basic

namespace BookSync.Url.Path

/-! ### Special segments -/

/-- The points that a segment consists of, if it consists of points. -/
def points? : List Char → Option Nat
  | [] => some 0
  | '.' :: cs => (points? cs).map (· + 1)
  | '%' :: '2' :: c :: cs => if c = 'e' ∨ c = 'E' then (points? cs).map (· + 1) else none
  | _ => none

/-- The letter of a drive, and what stands behind the drive in its segment. -/
def splitDrive? : List Char → Option (Char × List Char)
  | c :: d :: cs => if c.isAlpha ∧ (d = ':' ∨ d = '|') then some (c, cs) else none
  | _ => none

/-- The letter of the drive that a segment is. -/
def drive? (cs : List Char) : Option Char :=
  match splitDrive? cs with
  | some (c, []) => some c
  | _ => none

/-- The segment is a drive, which may have a backslash behind it. -/
def isFixed (seg : String) : Bool :=
  match splitDrive? seg.toList with
  | some (_, rest) => rest.head?.all (· = '\\')
  | none => false

/-! ### Resolving -/

/-- Take away the last segment, which comes first in `done`. -/
def takeAway : List String → List String
  | [] => []
  | seg :: done => if isFixed seg then seg :: done else done

/-- The text of a segment behind those in `done`. -/
def segmentText (isFile : Bool) (done : List String) (seg : List Char) : String :=
  match if isFile && done.isEmpty then drive? seg else none with
  | some c => String.ofList [c, ':']
  | none => String.ofList (Percent.encode Percent.path seg)

/-- Put segments behind those in `done`, of which the last comes first. -/
def resolve (isFile : Bool) (done : List String) : List (List Char) → List String
  | [] => done.reverse
  | [last] =>
    match points? last with
    | some 1 => ("" :: done).reverse
    | some 2 => ("" :: takeAway done).reverse
    | _ => (segmentText isFile done last :: done).reverse
  | seg :: rest =>
    match points? seg with
    | some 1 => resolve isFile done rest
    | some 2 => resolve isFile (takeAway done) rest
    | _ => resolve isFile (segmentText isFile done seg :: done) rest

/-- The segments of a path. -/
def ofText (isSlash : Char → Bool) (isFile : Bool) (cs : List Char) : List String :=
  resolve isFile [] (Text.splitOn isSlash cs)

/-- The path starts with a drive. -/
def startsWithDrive (list : List String) : Bool := list.head?.any fun s => (drive? s.toList).isSome

/-- Segments without the empty ones in front, unless nothing would be left. -/
def dropEmpty (list : List String) : List String :=
  match list.dropWhile (·.isEmpty) with
  | [] => [""]
  | rest => rest

end BookSync.Url.Path
