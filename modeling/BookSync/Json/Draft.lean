/-
JSON texts read as far as they go.

A `Draft` is the tree of a JSON text in which a fault is a leaf, so that a text
with a fault still has a tree: everything before the fault stands to its left.
Whoever walks the tree in the order of the text meets its faults, and the
mismatches between data and expectation, in that order too.

A fault may be milder for a walker that only skips a value: a number out of
range or a lone surrogate is then no fault, and an early end may get another
name. `Draft` keeps both readings.

* **`Draft.value?`** is the value of a draft, or the first fault in it;
* **`Draft.skip?`** is the first fault that skipping meets;
* **`Value.toDraft`** is the draft of a value, which has no faults.
-/
import BookSync.Json.Value

namespace BookSync.Json

mutual

/-- The tree of a JSON text. -/
inductive Draft
  | null
  | bool (b : Bool)
  | number (n : Number)
  | text (s : String)
  /-- A list; `surplus` is the fault if items are left over. -/
  | array (surplus : Fault) (items : Items)
  | object (members : Members)
  /-- Reading fails here, but skipping goes on with `skipped`. -/
  | refused (fault : Fault) (skipped : Draft)
  /-- The text cannot be followed any further. -/
  | broken (reading skipping : Fault)

/-- The items of a list, up to its end or the first fault between items. -/
inductive Items
  | closed
  | broken (reading skipping : Fault)
  | item (head : Draft) (tail : Items)

/-- The members of an object, up to its end or the first fault between them. -/
inductive Members
  | closed
  | broken (reading skipping : Fault)
  | member (key : Except Fault String) (head : Draft) (tail : Members)

end

/-! ### Skipping -/

mutual

/-- The first fault met by skipping a draft. -/
def Draft.skip? : Draft → Option Fault
  | .array _ items => items.skip?
  | .object members => members.skip?
  | .refused _ skipped => skipped.skip?
  | .broken _ skipping => some skipping
  | _ => none

/-- The first fault met by skipping items. -/
def Items.skip? : Items → Option Fault
  | .closed => none
  | .broken _ skipping => some skipping
  | .item head tail => head.skip?.or tail.skip?

/-- The first fault met by skipping members. -/
def Members.skip? : Members → Option Fault
  | .closed => none
  | .broken _ skipping => some skipping
  | .member _ head tail => head.skip?.or tail.skip?

end

/-! ### Reading as a value -/

mutual

/-- The value of a draft. -/
def Draft.value? : Draft → Except Fault Value
  | .null => .ok .null
  | .bool b => .ok (.bool b)
  | .number n => .ok (.number n)
  | .text s => .ok (.text s)
  | .array _ items => items.values?.map .array
  | .object members => (members.values? []).map .object
  | .refused fault _ => .error fault
  | .broken reading _ => .error reading

/-- The values of items. -/
def Items.values? : Items → Except Fault (List Value)
  | .closed => .ok []
  | .broken reading _ => .error reading
  | .item head tail => do
    let v ← head.value?
    let vs ← tail.values?
    return v :: vs

/-- The values of members, put in their places among those in `done`. -/
def Members.values? (done : List (String × Value)) :
    Members → Except Fault (List (String × Value))
  | .closed => .ok done
  | .broken reading _ => .error reading
  | .member key head tail => do
    let k ← key
    let v ← head.value?
    tail.values? (insertMember k v done)

end

/-! ### Values as drafts -/

mutual

/-- The draft of a value. -/
def Value.toDraft : Value → Draft
  | .null => .null
  | .bool b => .bool b
  | .number n => .number n
  | .text s => .text s
  | .array items =>
    .array (.invalidLength items.length "fewer elements in array") (Value.toItems items)
  | .object members => .object (Value.toMembers members)

/-- The items of a list of values. -/
def Value.toItems : List Value → Items
  | [] => .closed
  | v :: vs => .item v.toDraft (Value.toItems vs)

/-- The members of a list of named values. -/
def Value.toMembers : List (String × Value) → Members
  | [] => .closed
  | (k, v) :: rest => .member (.ok k) v.toDraft (Value.toMembers rest)

end

end BookSync.Json
