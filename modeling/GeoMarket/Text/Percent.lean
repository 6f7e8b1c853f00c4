import GeoMarket.Text.Ascii

/-!
# Percent encoding

Free text inside a URL. A path segment keeps the unreserved ASCII characters and writes every
other byte of the UTF-8 text as `%` and two capital hexadecimal digits; a form field writes a
space as `+` and keeps `*` in place of `~`. Decoding a segment gives the bytes back.
-/
namespace GeoMarket.Text.Percent

/-- The bytes of a text in UTF-8. -/
def utf8 (text : String) : List UInt8 := text.toUTF8.toList

/-- The high and the low hexadecimal digit of a byte. -/
def nibbles (byte : UInt8) : Fin 16 × Fin 16 :=
  (⟨byte.toNat / 16, by have := byte.toNat_lt; omega⟩, ⟨byte.toNat % 16, by omega⟩)

/-- A byte written as `%` and two capital digits. -/
def escaped (byte : UInt8) : List Char :=
  ['%', Text.hexCapital (nibbles byte).1, Text.hexCapital (nibbles byte).2]

/-- The byte of an ASCII letter or digit. -/
def isAlphanumeric (byte : UInt8) : Bool := (Char.ofNat byte.toNat).isAlphanum && byte < 128

/-- The byte of a character that a path segment keeps. -/
def isUnreserved (byte : UInt8) : Bool :=
  isAlphanumeric byte || "-_.~".toList.contains (Char.ofNat byte.toNat)

/-- One byte of a path segment. -/
def segmentByte (byte : UInt8) : List Char :=
  if isUnreserved byte then [Char.ofNat byte.toNat] else escaped byte

/-- The characters of a text written into one path segment. -/
def segmentCharacters (text : String) : List Char := (utf8 text).flatMap segmentByte

/-- A text written into one path segment of a URL. -/
def segment (text : String) : String := String.ofList (segmentCharacters text)

/-- The bytes that a percent-encoded segment stands for; a broken escape or a character beyond
ASCII has none. -/
def decode? : List Char → Option (List UInt8)
  | [] => some []
  | '%' :: high :: low :: rest => do
    let upper ← Text.hexValue? high
    let lower ← Text.hexValue? low
    let bytes ← decode? rest
    some (UInt8.ofNat (upper.val * 16 + lower.val) :: bytes)
  | character :: rest => do
    if character == '%' || !decide (character.toNat < 128) then none
    let bytes ← decode? rest
    some (UInt8.ofNat character.toNat :: bytes)

/-- One byte of a form field. -/
def formByte (byte : UInt8) : List Char :=
  if isAlphanumeric byte || "*-._".toList.contains (Char.ofNat byte.toNat) then
    [Char.ofNat byte.toNat]
  else if byte == 32 then ['+'] else escaped byte

/-- A text written into a name or value of a form. -/
def formText (text : String) : String := String.ofList ((utf8 text).flatMap formByte)

/-- The body of a form: name and value joined by `=`, fields by `&`. -/
def form (fields : List (String × String)) : String :=
  Text.joinWith "&" (fields.map fun (name, value) => formText name ++ "=" ++ formText value)

end GeoMarket.Text.Percent
