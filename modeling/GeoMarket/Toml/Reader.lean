import GeoMarket.Toml.Scalar

/-!
# Reading settings documents

A document is a text of statements, one to a line, with blank lines and comments between them. A
key is a path of bare or quoted names. Arrays may go over several lines and end with a comma;
tables in braces stay on one line and do not.
-/
namespace GeoMarket.Toml

/-- Values nested more deeply than this and longer keys are refused. -/
def greatestDepth : Nat := 79

/-- A character of a bare name. -/
def isBare (character : Char) : Bool :=
  character.isAlphanum || character == '_' || character == '-'

/-- One name of a key. -/
def name? (text : List Char) : Option (String × List Char) :=
  match text with
  | '"' :: _ => shortText? text
  | '\'' :: _ => shortText? text
  | _ =>
    let bare := text.takeWhile isBare
    if bare.isEmpty then none else some (String.ofList bare, text.dropWhile isBare)

/-- The path and the last name of a key, with gaps around each name. -/
def key? : Nat → List String → List Char → Option ((List String × String) × List Char)
  | 0, _, _ => none
  | fuel + 1, path, text =>
    match name? (skipGap text) with
    | none => none
    | some (name, rest) =>
      match skipGap rest with
      | '.' :: rest => key? fuel (path ++ [name]) rest
      | rest => some ((path, name), rest)

/-- A key that is not too long; every name takes a character. -/
def keyOf? (text : List Char) : Option ((List String × String) × List Char) :=
  (key? (text.length + 1) [] text).filter fun found => decide (found.1.1.length < greatestDepth)

mutual

/-- A value at the front of a text, inside `depth` containers. -/
def value? : Nat → Nat → List Char → Option (Toml × List Char)
  | 0, _, _ => none
  | fuel + 1, depth, text =>
    match text with
    | '[' :: rest => if depth < greatestDepth then items? fuel (depth + 1) [] rest else none
    | '{' :: rest =>
      if depth < greatestDepth then
        match skipGap rest with
        | '}' :: rest => some (.table .inline [], rest)
        | rest => entries? fuel (depth + 1) [] rest
      else none
    | text => scalar? text

/-- The items of an array up to its end, behind the items found so far in reverse order. -/
def items? : Nat → Nat → List Toml → List Char → Option (Toml × List Char)
  | 0, _, _, _ => none
  | fuel + 1, depth, found, text =>
    match skipLines false text with
    | ']' :: rest => some (.array found.reverse, rest)
    | text =>
      match value? fuel depth text with
      | none => none
      | some (item, rest) =>
        match skipLines false rest with
        | ',' :: rest => items? fuel depth (item :: found) rest
        | ']' :: rest => some (.array (item :: found).reverse, rest)
        | _ => none

/-- The assignments of a table in braces up to its end, carried out on its members so far. -/
def entries? : Nat → Nat → Members → List Char → Option (Toml × List Char)
  | 0, _, _, _ => none
  | fuel + 1, depth, members, text =>
    match keyOf? text with
    | some ((path, key), '=' :: rest) =>
      match value? fuel depth (skipGap rest) with
      | none => none
      | some (value, rest) =>
        match Members.assign? path key value .inline members, skipGap rest with
        | some members, ',' :: rest => entries? fuel depth members rest
        | some members, '}' :: rest => some (.table .inline members, rest)
        | _, _ => none
    | _ => none

end

/-- The text behind the end of a statement: a gap, a comment and the end of the line. -/
def lineEnd? (text : List Char) : Option (List Char) :=
  let rest := match skipGap text with
    | '#' :: rest => rest.dropWhile isPrintable
    | rest => rest
  match rest with
  | [] => some []
  | '\n' :: rest => some rest
  | _ => none

/-- The statement of a line that is not blank. -/
def statement? (text : List Char) : Option (Statement × List Char) := do
  match text with
  | '[' :: '[' :: rest =>
    match ← keyOf? rest with
    | ((path, key), ']' :: ']' :: rest) => some (.openItem path key, rest)
    | _ => none
  | '[' :: rest =>
    match ← keyOf? rest with
    | ((path, key), ']' :: rest) => some (.openTable path key, rest)
    | _ => none
  | text =>
    match ← keyOf? text with
    | ((path, key), '=' :: rest) =>
      let (value, rest) ← value? (2 * rest.length + 2) 0 (skipGap rest)
      some (.assign path key value, rest)
    | _ => none

/-- The statements of a text, behind those found so far in reverse order. -/
def statements? : Nat → List Statement → List Char → Option (List Statement)
  | 0, _, _ => none
  | fuel + 1, found, text =>
    match skipLines false text with
    | [] => some found.reverse
    | text =>
      match statement? text with
      | none => none
      | some (statement, rest) =>
        match lineEnd? rest with
        | none => none
        | some rest => statements? fuel (statement :: found) rest

/-- The text with every end of a line as a line feed. -/
def plainLines : List Char → List Char
  | '\r' :: '\n' :: rest => '\n' :: plainLines rest
  | character :: rest => character :: plainLines rest
  | [] => []

/-- The text without the mark of its encoding. -/
def withoutMark : List Char → List Char
  | '\ufeff' :: rest => rest
  | text => text

/-- The members of a document; every statement takes a character. -/
def parse? (document : String) : Option Members :=
  let text := plainLines (withoutMark document.toList)
  (statements? (text.length + 1) [] text).bind ofStatements?

end GeoMarket.Toml
