import GeoMarket.Record.Codec

/-!
# Records written as JSON objects

A record is described member by member, and the description both writes and reads it. Reading
looks up each key it knows, whatever the order of the members, ignores other keys, and refuses
an object that repeats a known key. A record may embed another one, whose members then stand
among its own; it gathers every member it does not own first, and each of these needs a value.
A record without embedded parts is also read from an array of its members in order.
-/
namespace GeoMarket

/-- One member of a record. -/
structure Field (α : Type) where
  /-- The key. -/
  name : String
  /-- The codec of the value. -/
  codec : Codec α
  /-- The value when an object lacks the key. -/
  absent : Option α
  /-- The value when an array ends before the member. -/
  absentInRow : Option α
  /-- Values for which no member is written. -/
  omits : α → Bool

namespace Field

variable {α : Type}

/-- A member that must be there. -/
def required (name : String) (codec : Codec α) : Field α :=
  ⟨name, codec, none, none, fun _ => false⟩

/-- A member with a value of its own when it is missing. -/
def defaulted (name : String) (codec : Codec α) (value : α) : Field α :=
  ⟨name, codec, some value, some value, fun _ => false⟩

/-- A member that may be missing or `null`. -/
def optional (name : String) (codec : Codec α) : Field (Option α) :=
  defaulted name codec.nullable none

/-- An optional member that is not written when there is no value. -/
def omitted (name : String) (codec : Codec α) : Field (Option α) :=
  { optional name codec with omits := Option.isNone }

/-- A member that may be missing from an object or `null`, but has its place in an array. -/
def nullable (name : String) (codec : Codec α) : Field (Option α) :=
  { optional name codec with absentInRow := none }

/-- The member as it is written. -/
def write (field : Field α) (value : α) : List (String × Json) :=
  if field.omits value then [] else [(field.name, field.codec.write value)]

/-- The value found under the key, or its default. -/
def read (field : Field α) (reading : Reading) (found : Option Json) : Option α :=
  match found with
  | some tree => field.codec.read reading tree
  | none => field.absent

/-- The value of the next item of an array, or its default. -/
def readRow (field : Field α) (reading : Reading) : List Json → Option (α × List Json)
  | tree :: rest => (field.codec.read reading tree).map fun value => (value, rest)
  | [] => field.absentInRow.map fun value => (value, [])

end Field

/-- The description of a record type. -/
structure Record (α : Type) where
  /-- The keys of the members that the record owns. -/
  own : List String
  /-- The keys of the members of embedded records. -/
  embedded : List String
  /-- The value of an object, given what stands under each key. -/
  read : Reading → (String → Option Json) → Option α
  /-- The value of the items of an array and the items left over; a record that embeds another
  has no such form. -/
  row? : Option (Reading → List Json → Option (α × List Json))
  /-- The members of a value, in order. -/
  write : α → List (String × Json)

namespace Record

variable {α β : Type}

/-- Every key that the record knows. -/
def keys (record : Record α) : List String := record.own ++ record.embedded

/-- The record without members. -/
def empty : Record Unit where
  own := []
  embedded := []
  read _ _ := some ()
  row? := some fun _ items => some ((), items)
  write _ := []

/-- A record of one member. -/
def single (field : Field α) : Record α where
  own := [field.name]
  embedded := []
  read reading look := field.read reading (look field.name)
  row? := some field.readRow
  write := field.write

/-- The members of one record followed by those of another. -/
def append (first : Record α) (second : Record β) : Record (α × β) where
  own := first.own ++ second.own
  embedded := first.embedded ++ second.embedded
  read reading look := do
    let left ← first.read reading look
    let right ← second.read reading look
    some (left, right)
  row? := do
    let firstRow ← first.row?
    let secondRow ← second.row?
    some fun reading items => do
      let (left, rest) ← firstRow reading items
      let (right, rest) ← secondRow reading rest
      some ((left, right), rest)
  write value := first.write value.1 ++ second.write value.2

/-- One member in front of a record. -/
def field (field : Field α) (rest : Record β) : Record (α × β) := (single field).append rest

/-- The members of a record as part of another one. -/
def embed (record : Record α) : Record α where
  own := []
  embedded := record.keys
  read _ := record.read .gathered
  row? := none
  write := record.write

/-- A record whose values are put together from those of another. -/
def isomorphic (record : Record α) (pack : α → β) (unpack : β → α) : Record β where
  own := record.own
  embedded := record.embedded
  read reading look := (record.read reading look).map pack
  row? := record.row?.map fun row reading items =>
    (row reading items).map fun (value, rest) => (pack value, rest)
  write value := record.write (unpack value)

/-- How often a key occurs among members. -/
def occurrences (key : String) (members : List (String × Json)) : Nat :=
  members.countP fun member => member.1 == key

/-- No known key is repeated, and if the record gathers members, all of these have values. -/
def accepts (record : Record α) (members : List (String × Json)) : Bool :=
  record.keys.all (fun key => decide (occurrences key members ≤ 1))
    && (record.row?.isSome
      || members.all fun member => record.own.contains member.1 || member.2.readable)

/-- The value of the members of an object. -/
def ofMembers? (record : Record α) (reading : Reading) (members : List (String × Json)) :
    Option α :=
  if record.accepts members then record.read reading fun key => members.lookup key else none

/-- The value of the items of an array, none of which may be left over. -/
def ofRow? (record : Record α) (reading : Reading) (items : List Json) : Option α :=
  match record.row? with
  | none => none
  | some row =>
    match row reading items with
    | some (value, []) => some value
    | _ => none

/-- The record as a tree. -/
def codec (record : Record α) : Codec α where
  read
    | reading, .obj members => record.ofMembers? reading members
    | reading, .arr items => record.ofRow? reading items
    | _, _ => none
  write value := .obj (record.write value)

end Record
end GeoMarket
