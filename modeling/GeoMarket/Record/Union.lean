import GeoMarket.Record.Fields

/-!
# Unions told apart by a tag

A value of a union is an object with a tag member that names its kind, beside the members of
that kind. The tag may stand anywhere among them. All other members are gathered before the
kind reads them, so each of them needs a value. An array with the tag as its first item is read
through the array form of the kind.
-/
namespace GeoMarket.Union

/-- The key of the tag. -/
def tagKey : String := "type"

/-- The value of the only tag member, and the members beside it. -/
def split? (members : List (String × Json)) : Option (Json × List (String × Json)) :=
  match members.filter fun member => member.1 == tagKey with
  | [(_, tag)] =>
    let beside := members.filter fun member => member.1 != tagKey
    if beside.all fun member => member.2.readable then some (tag, beside) else none
  | _ => none

variable {κ α : Type}

/-- The kind that a tag names: a text, or among gathered members also the index of the kind. -/
def kind? (kinds : List (String × κ)) : Reading → Json → Option κ
  | _, .str name => kinds.lookup name
  | .gathered, .num (.natural index) => (kinds.map (·.2))[index.toNat]?
  | _, _ => none

/-- The codec of a union: the names of its kinds, what reads the rest of each kind, the kind of
a value, and the members of a value beside the tag. -/
def codec (kinds : List (String × κ)) (read : κ → Json → Option α) (name : α → String)
    (write : α → List (String × Json)) : Codec α where
  read
    | reading, .obj members => do
      let (tag, beside) ← split? members
      let kind ← kind? kinds reading tag
      read kind (.obj beside)
    | reading, .arr (tag :: rest) => do
      let kind ← kind? kinds reading tag
      if rest.all Json.readable then read kind (.arr rest) else none
    | _, _ => none
  write value := .obj ((tagKey, .str (name value)) :: write value)

/-- The rest of a kind that has a record of its own. -/
def readRecord (record : Record α) (tree : Json) : Option α := record.codec.read .gathered tree

/-- The rest of a kind without members: any object, or an empty array. -/
def readBare (value : α) : Json → Option α
  | .obj _ => some value
  | .arr [] => some value
  | _ => none

end GeoMarket.Union
