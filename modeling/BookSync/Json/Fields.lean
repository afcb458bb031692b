/-
Decoding drafts into typed data.

A `Decoder` takes a draft to data or to the first fault it meets. Records are
described once, field by field, as `Fields`: each field has a name and a
decoder, and is required or not. Such a record is read from an object, by
name, or from a list, by position.

* **`Decoder.record`** reads a record in either form;
* an object may have other members, which are skipped, but no field twice;
* a list may be short of fields that are not required, but not too long.
-/
import BookSync.Json.Draft

namespace BookSync.Json

/-- Data from a draft, or the first fault. -/
abbrev Decoder (α : Type) := Draft → Except Fault α

/-- The fault of a draft that is not of the expected kind. -/
def mismatch (expected : String) : Draft → Fault
  | .null => .invalidType .null expected
  | .bool b => .invalidType (.bool b) expected
  | .number n => .invalidType (.number n) expected
  | .text s => .invalidType (.text s) expected
  | .array _ _ => .invalidType .sequence expected
  | .object _ => .invalidType .map expected
  | .refused fault _ => fault
  | .broken reading _ => reading

namespace Decoder

/-! ### Single values -/

/-- A text. -/
def text : Decoder String
  | .text s => .ok s
  | d => .error (mismatch "a string" d)

/-- An integer from `lo` to `hi`. -/
def integer (lo hi : Int) (expected : String) : Decoder Int
  | .number (.integer n) =>
    if lo ≤ n ∧ n ≤ hi then .ok n
    else .error (.invalidValue (.number (.integer n)) expected)
  | d => .error (mismatch expected d)

/-- An integer of 64 bits without sign. -/
def unsigned : Decoder UInt64 := fun d =>
  (integer 0 0xffffffffffffffff "u64" d).map fun n => UInt64.ofNat n.toNat

/-- An integer of 64 bits with sign. -/
def signed : Decoder Int := integer (-0x8000000000000000) 0x7fffffffffffffff "i64"

/-- A floating point number; an integer goes to the nearest one. -/
def float : Decoder Binary64
  | .number (.float x) => .ok x
  | .number (.integer n) => .ok ((Binary64.ofNat? (n < 0) n.natAbs).getD default)
  | d => .error (mismatch "f64" d)

/-- Any value. -/
def value : Decoder Value := Draft.value?

/-- Null, or what `decode` accepts. -/
def nullable {α : Type} (decode : Decoder α) : Decoder (Option α)
  | .null => .ok none
  | d => (decode d).map some

/-- The items of a list, all decoded or none. -/
def items {α : Type} (decode : Decoder α) : Items → Except Fault (List α)
  | .closed => .ok []
  | .broken reading _ => .error reading
  | .item head tail => do
    let a ← decode head
    let as ← items decode tail
    return a :: as

/-- A list. -/
def list {α : Type} (decode : Decoder α) : Decoder (List α)
  | .array _ is => items decode is
  | d => .error (mismatch "a sequence" d)

end Decoder

/-! ### Records -/

/-- The fault that a decoder finds, if any. -/
def Decoder.check {α : Type} (decode : Decoder α) (d : Draft) : Option Fault :=
  match decode d with
  | .ok _ => none
  | .error f => some f

/-- The fields of a record, in order, and how the record is made of them: from
the drafts that the fields have and the fault of one that is missing. -/
structure Fields (α : Type) where
  entries : List (String × (Draft → Option Fault))
  build : (String → Option Draft) → (String → Fault) → Except Fault α

namespace Fields

instance : Functor Fields where
  map f x := ⟨x.entries, fun given missing => (x.build given missing).map f⟩

instance : Seq Fields where
  seq f x :=
    let y := x ()
    ⟨f.entries ++ y.entries, fun given missing => do
      let g ← f.build given missing
      let a ← y.build given missing
      return g a⟩

/-- A field that has to be there. -/
def required {α : Type} (name : String) (decode : Decoder α) : Fields α :=
  ⟨[(name, decode.check)], fun given missing =>
    match given name with
    | some d => decode d
    | none => .error (missing name)⟩

/-- A field with a value to take when it is not there. -/
def withDefault {α : Type} (name : String) (decode : Decoder α) (otherwise : α) : Fields α :=
  ⟨[(name, decode.check)], fun given _ =>
    match given name with
    | some d => decode d
    | none => .ok otherwise⟩

/-- A field that may be missing or null. -/
def optional {α : Type} (name : String) (decode : Decoder α) : Fields (Option α) :=
  withDefault name decode.nullable none

end Fields

/-- The drafts that belong to fields, by name. -/
abbrev Assigned := List (String × Draft)

/-- Walk the members in the order of the text and assign drafts to the fields. -/
def Members.assign (entries : List (String × (Draft → Option Fault))) (done : Assigned) :
    Members → Except Fault Assigned
  | .closed => .ok done
  | .broken reading _ => .error reading
  | .member key head tail => do
    let k ← key
    match entries.lookup k with
    | none =>
      match head.skip? with
      | some f => .error f
      | none => tail.assign entries done
    | some check =>
      if (done.lookup k).isSome then .error (.duplicateField k)
      else
        match check head with
        | some f => .error f
        | none => tail.assign entries ((k, head) :: done)

/-- Assign items to the fields in order; also the items left over. -/
def Items.assign : List (String × (Draft → Option Fault)) → Items →
    Except Fault (Assigned × Items)
  | [], is => .ok ([], is)
  | _ :: _, .closed => .ok ([], .closed)
  | _ :: _, .broken reading _ => .error reading
  | (name, check) :: entries, .item head tail =>
    match check head with
    | some f => .error f
    | none => do
      let (done, left) ← Items.assign entries tail
      return ((name, head) :: done, left)

/-- The fault at the end of a list when no further item is wanted. -/
def Items.leftover? (surplus : Fault) : Items → Option Fault
  | .closed => none
  | .item _ _ => some surplus
  | .broken .endInList _ => some .endInList
  | .broken .trailingComma _ => some .trailingComma
  | .broken _ _ => some .trailingCharacters

/-- A record with this name and these fields. -/
def Decoder.record {α : Type} (name : String) (fields : Fields α) : Decoder α
  | .object members => do
    let done ← members.assign fields.entries []
    fields.build (fun field => done.lookup field) .missingField
  | .array surplus is => do
    let (done, left) ← Items.assign fields.entries is
    let expected := s!"struct {name} with {fields.entries.length} elements"
    let a ← fields.build (fun field => done.lookup field) fun field =>
      .invalidLength ((fields.entries.map (·.1)).idxOf field) expected
    match left.leftover? surplus with
    | some f => .error f
    | none => return a
  | d => .error (mismatch ("struct " ++ name) d)

end BookSync.Json
