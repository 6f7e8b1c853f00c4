import GeoMarket.Json.Basic

/-!
# Codecs between values and JSON trees

A codec writes a value as a tree and reads a value back from a tree. A codec carries no law in
its value, because not every tree is accepted and not every value has a readable form; the laws of
reading and writing are classes that a codec belongs to or not. A reader tells that a tree has no
value, but not which part of it is at fault: nothing here depends on the text that says so.
-/
namespace GeoMarket

/-- How a reader came by a tree. -/
inductive Reading
  /-- Straight from the text. -/
  | direct
  /-- From members that an embedding record or a union has gathered first. -/
  | gathered
  deriving DecidableEq

/-- A writer and a reader of one type. -/
structure Codec (α : Type) where
  /-- The value of a tree, if the tree has one. -/
  read : Reading → Json → Option α
  /-- The tree of a value. -/
  write : α → Json

namespace Codec

variable {α β : Type}

/-- A text. -/
def text : Codec String where
  read
    | _, .str value => some value
    | _, _ => none
  write := .str

/-- A truth value. -/
def flag : Codec Bool where
  read
    | _, .bool value => some value
    | _, _ => none
  write := .bool

/-- The whole number of a tree, if it lies below a limit and is not negative. -/
def natural? (limit : Nat) : Json → Option Nat
  | .num (.natural value) => if value.toNat < limit then some value.toNat else none
  | _ => none

/-- A whole number of 32 bits. -/
def word32 : Codec UInt32 where
  read _ tree := (natural? 0x100000000 tree).map UInt32.ofNat
  write value := .num (.natural value.toUInt64)

/-- A whole number of 64 bits. -/
def word64 : Codec UInt64 where
  read
    | _, .num (.natural value) => some value
    | _, _ => none
  write value := .num (.natural value)

/-- A number of any kind, rounded to the nearest `Binary64`; one that is not finite is written
as `null` and never read back. -/
def amount : Codec Binary64 where
  read
    | _, .num value => some value.toBinary64
    | _, _ => none
  write value := if finite : value.isFinite = true then .num (.real value finite) else .null

/-- Nothing: written as `null`; gathered members may also bring an empty object. -/
def nothing : Codec Unit where
  read
    | _, .null => some ()
    | .gathered, .obj [] => some ()
    | _, _ => none
  write _ := .null

/-- A value or `null`. -/
def nullable (codec : Codec α) : Codec (Option α) where
  read
    | _, .null => some none
    | reading, tree => (codec.read reading tree).map some
  write
    | none => .null
    | some value => codec.write value

/-- An array of values; one item that cannot be read spoils it. -/
def listOf (codec : Codec α) : Codec (List α) where
  read
    | reading, .arr items => items.mapM (codec.read reading)
    | _, _ => none
  write values := .arr (values.map codec.write)

/-- Values of one type as values of another that may refuse them. -/
def refine (codec : Codec α) (pack : α → Option β) (unpack : β → α) : Codec β where
  read reading tree := (codec.read reading tree).bind pack
  write value := codec.write (unpack value)

/-- A name out of a fixed choice, written as a text; it is also read from an object that has the
name as its only key, with an empty value. -/
def choice (ofName? : String → Option α) (name : α → String) : Codec α where
  read
    | _, .str text => ofName? text
    | reading, .obj [(key, value)] =>
      (nothing.read reading value).bind fun _ => ofName? key
    | _, _ => none
  write value := .str (name value)

end Codec
end GeoMarket
