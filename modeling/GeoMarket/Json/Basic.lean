import GeoMarket.Json.Number
import GeoMarket.Text.Order

/-!
# JSON trees

The tree of a JSON text, with the members of an object in the order of the text and repeated
keys kept. A text can be well formed and still hold a part that has no value, such as half of a
surrogate pair; the tree keeps a leaf in its place, because readers that skip the part do not
mind it.
-/
namespace GeoMarket

/-- A JSON tree. -/
inductive Json
  /-- The literal `null`. -/
  | null
  /-- One of the literals `true` and `false`. -/
  | bool (value : Bool)
  /-- A number. -/
  | num (value : Json.Number)
  /-- A string. -/
  | str (value : String)
  /-- An array. -/
  | arr (items : List Json)
  /-- An object with its members in order. -/
  | obj (members : List (String × Json))
  /-- A well-formed part of a text that stands for no value. -/
  | unreadable
  deriving Inhabited

namespace Json

mutual

/-- Every part of the tree has a value. -/
def readable : Json → Bool
  | .arr items => allReadable items
  | .obj members => allMembersReadable members
  | .unreadable => false
  | _ => true

/-- Every tree of a list is readable. -/
def allReadable : List Json → Bool
  | [] => true
  | item :: rest => item.readable && allReadable rest

/-- The value of every member is readable. -/
def allMembersReadable : List (String × Json) → Bool
  | [] => true
  | (_, value) :: rest => value.readable && allMembersReadable rest

end

mutual

/-- Trees that agree node by node, with members in the same order. -/
def agrees : Json → Json → Bool
  | .null, .null => true
  | .bool left, .bool right => left == right
  | .num left, .num right => left == right
  | .str left, .str right => left == right
  | .arr left, .arr right => agreeItems left right
  | .obj left, .obj right => agreeMembers left right
  | _, _ => false

/-- Lists of trees that agree item by item. -/
def agreeItems : List Json → List Json → Bool
  | [], [] => true
  | left :: lefts, right :: rights => left.agrees right && agreeItems lefts rights
  | _, _ => false

/-- Lists of members that agree key by key and value by value. -/
def agreeMembers : List (String × Json) → List (String × Json) → Bool
  | [], [] => true
  | (leftKey, left) :: lefts, (rightKey, right) :: rights =>
    leftKey == rightKey && left.agrees right && agreeMembers lefts rights
  | _, _ => false

end

instance : BEq Json := ⟨agrees⟩

/-- A text as a tree. -/
instance : Coe String Json := ⟨.str⟩

/-- A natural number of 64 bits as a tree. -/
def ofNat (value : Nat) : Json := .num (.natural (UInt64.ofNat value))

/-- A text or `null`. -/
def ofText? : Option String → Json
  | some text => .str text
  | none => .null

/-- Put a member into a list sorted by key, in place of a member with the same key. -/
def insertMember (key : String) (value : Json) :
    List (String × Json) → List (String × Json)
  | [] => [(key, value)]
  | (other, old) :: rest =>
    if key == other then (key, value) :: rest
    else if Text.precedes key other then (key, value) :: (other, old) :: rest
    else (other, old) :: insertMember key value rest

mutual

/-- The tree with the members of every object sorted by key, the last of several equal keys
staying. -/
def sorted : Json → Json
  | .arr items => .arr (sortedItems items)
  | .obj members => .obj (sortedMembers members [])
  | tree => tree

/-- Every tree of a list sorted. -/
def sortedItems : List Json → List Json
  | [] => []
  | item :: rest => item.sorted :: sortedItems rest

/-- Members inserted one after another into sorted members. -/
def sortedMembers : List (String × Json) → List (String × Json) → List (String × Json)
  | [], found => found
  | (key, value) :: rest, found => sortedMembers rest (insertMember key value.sorted found)

end

end Json
end GeoMarket
