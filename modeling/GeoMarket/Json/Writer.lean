import GeoMarket.Json.Basic
import GeoMarket.Text.Ascii

/-!
# Writing JSON text

The compact layout has no white space; the indented layout puts every item and member on a line
of its own, two spaces deeper than its container. Members are written in the order of the tree.
-/
namespace GeoMarket.Json

/-- A character inside a string literal. -/
def escapedCharacter (character : Char) : List Char :=
  if character == '"' then ['\\', '"']
  else if character == '\\' then ['\\', '\\']
  else if character == '\n' then ['\\', 'n']
  else if character == '\r' then ['\\', 'r']
  else if character == '\t' then ['\\', 't']
  else if character.toNat == 8 then ['\\', 'b']
  else if character.toNat == 12 then ['\\', 'f']
  else if character.toNat < 32 then
    let byte := UInt8.ofNat character.toNat
    ['\\', 'u', '0', '0', Text.hexDigit ⟨byte.toNat / 16, by have := byte.toNat_lt; omega⟩,
      Text.hexDigit ⟨byte.toNat % 16, by omega⟩]
  else [character]

/-- A string literal. -/
def quoted (text : String) : String :=
  String.ofList ('"' :: text.toList.flatMap escapedCharacter ++ ['"'])

mutual

/-- The text without white space. -/
def compact : Json → String
  | .null => "null"
  | .bool true => "true"
  | .bool false => "false"
  | .num number => number.text
  | .str text => quoted text
  | .arr items => "[" ++ Text.joinWith "," (compactItems items) ++ "]"
  | .obj members => "\x7b" ++ Text.joinWith "," (compactMembers members) ++ "\x7d"
  | .unreadable => "null"

/-- The texts of the items of an array. -/
def compactItems : List Json → List String
  | [] => []
  | item :: rest => item.compact :: compactItems rest

/-- The texts of the members of an object. -/
def compactMembers : List (String × Json) → List String
  | [] => []
  | (key, value) :: rest => (quoted key ++ ":" ++ value.compact) :: compactMembers rest

end

/-- A line feed and the indentation of a depth. -/
def newline (depth : Nat) : String := String.ofList ('\n' :: List.replicate (2 * depth) ' ')

mutual

/-- The indented text at a depth. -/
def indentedAt (depth : Nat) : Json → String
  | .arr [] => "[]"
  | .obj [] => "\x7b\x7d"
  | .arr items =>
    "[" ++ Text.joinWith "," (indentedItems (depth + 1) items) ++ newline depth ++ "]"
  | .obj members =>
    "\x7b" ++ Text.joinWith "," (indentedMembers (depth + 1) members) ++ newline depth ++ "\x7d"
  | leaf => leaf.compact

/-- The items of an array, each on its line. -/
def indentedItems (depth : Nat) : List Json → List String
  | [] => []
  | item :: rest => (newline depth ++ item.indentedAt depth) :: indentedItems depth rest

/-- The members of an object, each on its line. -/
def indentedMembers (depth : Nat) : List (String × Json) → List String
  | [] => []
  | (key, value) :: rest =>
    (newline depth ++ quoted key ++ ": " ++ value.indentedAt depth) :: indentedMembers depth rest

end

/-- The indented text. -/
def indented (tree : Json) : String := tree.indentedAt 0

end GeoMarket.Json
