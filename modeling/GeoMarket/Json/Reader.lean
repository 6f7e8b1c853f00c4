import GeoMarket.Json.Basic
import GeoMarket.Text.Ascii

/-!
# Reading JSON text

A text holds one tree with white space around it. Only the grammar decides whether a text has a
tree; what the grammar allows and no value stands for becomes an unreadable leaf: a string with
half of a surrogate pair, a number beyond the range, an object with such a string as a key, and
a container inside too many others.
-/
namespace GeoMarket.Json

/-- Containers nested more deeply than this have no value. -/
def greatestDepth : Nat := 127

/-- The white space of the grammar. -/
def isSpace (character : Char) : Bool :=
  character == ' ' || character == '\t' || character == '\n' || character == '\r'

/-- The text from its first character that is not white space. -/
def skipSpace (text : List Char) : List Char := text.dropWhile isSpace

/-- The values of the leading digits, and the text after them. -/
def digits (text : List Char) : List Nat × List Char :=
  ((text.takeWhile Char.isDigit).map fun digit => digit.toNat - 48, text.dropWhile Char.isDigit)

/-- The fraction of a number literal, which needs a digit behind its point. -/
def fraction? : List Char → Option (Option (List Nat) × List Char)
  | '.' :: text =>
    match digits text with
    | ([], _) => none
    | (found, rest) => some (some found, rest)
  | text => some (none, text)

/-- The digits of a power of ten with the sign read before them. -/
def powerDigits? (down : Bool) (text : List Char) :
    Option (Option (Bool × List Nat) × List Char) :=
  match digits text with
  | ([], _) => none
  | (found, rest) => some (some (down, found), rest)

/-- The power of ten of a number literal. -/
def power? : List Char → Option (Option (Bool × List Nat) × List Char)
  | mark :: text =>
    if mark == 'e' || mark == 'E' then
      match text with
      | '-' :: text => powerDigits? true text
      | '+' :: text => powerDigits? false text
      | text => powerDigits? false text
    else some (none, mark :: text)
  | [] => some (none, [])

/-- A number literal without its sign; zero is the only whole part that starts with a zero. -/
def unsignedLiteral? (negative : Bool) (text : List Char) : Option (Literal × List Char) := do
  let (whole, rest) := digits text
  match whole with
  | [] => none
  | 0 :: _ :: _ => none
  | _ =>
    let (fraction, rest) ← fraction? rest
    let (power, rest) ← power? rest
    some (⟨negative, whole, fraction, power⟩, rest)

/-- A number literal. -/
def literal? : List Char → Option (Literal × List Char)
  | '-' :: text => unsignedLiteral? true text
  | text => unsignedLiteral? false text

/-- The code unit that four hexadecimal digits name. -/
def codeUnit? (first second third fourth : Char) : Option Nat := do
  let a ← Text.hexValue? first
  let b ← Text.hexValue? second
  let c ← Text.hexValue? third
  let d ← Text.hexValue? fourth
  some (((a.val * 16 + b.val) * 16 + c.val) * 16 + d.val)

/-- The character that a short escape stands for. -/
def shortEscape? (character : Char) : Option Nat :=
  match character with
  | '"' => some 34
  | '\\' => some 92
  | '/' => some 47
  | 'b' => some 8
  | 'f' => some 12
  | 'n' => some 10
  | 'r' => some 13
  | 't' => some 9
  | _ => none

/-- The code points and escaped code units of a string literal up to its closing quote, put in
front of the units found so far in reverse order. -/
def stringUnits? (found : List Nat) : List Char → Option (List Nat × List Char)
  | '"' :: rest => some (found, rest)
  | '\\' :: 'u' :: first :: second :: third :: fourth :: rest =>
    match codeUnit? first second third fourth with
    | some unit => stringUnits? (unit :: found) rest
    | none => none
  | '\\' :: mark :: rest =>
    match shortEscape? mark with
    | some unit => stringUnits? (unit :: found) rest
    | none => none
  | character :: rest =>
    if character.toNat < 32 ∨ character = '\\' then none
    else stringUnits? (character.toNat :: found) rest
  | [] => none

/-- A unit that is only half of a character. -/
def isSurrogate (unit : Nat) : Bool := decide (0xd800 ≤ unit) && decide (unit < 0xe000)

/-- The characters of reversed units, put in front of the characters found so far; a surrogate
without its partner makes none. -/
def characters? (found : List Char) : List Nat → Option (List Char)
  | [] => some found
  | [unit] => if isSurrogate unit then none else some (Char.ofNat unit :: found)
  | unit :: before :: rest =>
    if isSurrogate unit then
      if 0xdc00 ≤ unit ∧ 0xd800 ≤ before ∧ before < 0xdc00 then
        characters? (Char.ofNat (0x10000 + (before - 0xd800) * 0x400 + (unit - 0xdc00)) :: found)
          rest
      else none
    else characters? (Char.ofNat unit :: found) (before :: rest)

/-- The text of a string literal behind its opening quote, if it stands for a text. -/
def string? (text : List Char) : Option (Option String × List Char) :=
  match stringUnits? [] text with
  | some (units, rest) => some ((characters? [] units).map String.ofList, rest)
  | none => none

/-- A string as a tree. -/
def ofString? : Option String → Json
  | some text => .str text
  | none => .unreadable

/-- A number literal as a tree. -/
def ofLiteral (literal : Literal) : Json :=
  match literal.number? with
  | some number => .num number
  | none => .unreadable

/-- A container as a tree, unless it stands inside too many others. -/
def contained (depth : Nat) (tree : Json) : Json :=
  if depth < greatestDepth then tree else .unreadable

/-- An object of reversed members, unless a key has no text. -/
def ofMembers (reversed : List (Option String × Json)) : Json :=
  match reversed.reverse.mapM fun (key, value) => key.map fun key => (key, value) with
  | some members => .obj members
  | none => .unreadable

mutual

/-- A tree at the front of a text, inside `depth` containers. -/
def tree? : Nat → Nat → List Char → Option (Json × List Char)
  | 0, _, _ => none
  | fuel + 1, depth, text =>
    match skipSpace text with
    | 'n' :: 'u' :: 'l' :: 'l' :: rest => some (.null, rest)
    | 't' :: 'r' :: 'u' :: 'e' :: rest => some (.bool true, rest)
    | 'f' :: 'a' :: 'l' :: 's' :: 'e' :: rest => some (.bool false, rest)
    | '"' :: rest => (string? rest).map fun (text, rest) => (ofString? text, rest)
    | '[' :: rest =>
      match skipSpace rest with
      | ']' :: rest => some (contained depth (.arr []), rest)
      | rest => items? fuel depth [] rest
    | '{' :: rest =>
      match skipSpace rest with
      | '}' :: rest => some (contained depth (.obj []), rest)
      | rest => members? fuel depth [] rest
    | rest => (literal? rest).map fun (literal, rest) => (ofLiteral literal, rest)

/-- The items of an array up to its end, behind the items found so far in reverse order. -/
def items? : Nat → Nat → List Json → List Char → Option (Json × List Char)
  | 0, _, _, _ => none
  | fuel + 1, depth, found, text =>
    match tree? fuel (depth + 1) text with
    | none => none
    | some (item, rest) =>
      match skipSpace rest with
      | ',' :: rest => items? fuel depth (item :: found) rest
      | ']' :: rest => some (contained depth (.arr (item :: found).reverse), rest)
      | _ => none

/-- The members of an object up to its end, behind the members found so far in reverse order. -/
def members? : Nat → Nat → List (Option String × Json) → List Char → Option (Json × List Char)
  | 0, _, _, _ => none
  | fuel + 1, depth, found, text =>
    match skipSpace text with
    | '"' :: rest =>
      match string? rest with
      | none => none
      | some (key, rest) =>
        match skipSpace rest with
        | ':' :: rest =>
          match tree? fuel (depth + 1) rest with
          | none => none
          | some (value, rest) =>
            match skipSpace rest with
            | ',' :: rest => members? fuel depth ((key, value) :: found) rest
            | '}' :: rest => some (contained depth (ofMembers ((key, value) :: found)), rest)
            | _ => none
        | _ => none
    | _ => none

end

/-- The tree of a whole text; every step takes a character, so the length bounds the steps. -/
def parse? (text : String) : Option Json :=
  let characters := text.toList
  match tree? (2 * characters.length + 2) 0 characters with
  | some (tree, rest) => if (skipSpace rest).isEmpty then some tree else none
  | none => none

end GeoMarket.Json
