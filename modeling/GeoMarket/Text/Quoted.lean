import GeoMarket.Text.Ascii
import GeoMarket.Text.Blank

/-!
# Texts in quotation marks

A text as it is shown to developers: in quotation marks, with an escape for every character that
would end the text or that cannot be seen.
-/
namespace GeoMarket.Text

/-- Runs of characters that show nothing on their own: controls, combining marks, marks of the
layout, and code points for private use. -/
def unseenRuns : List (Nat × Nat) :=
  [(0x00, 0x1f), (0x7f, 0x9f), (0xad, 0xad), (0x300, 0x36f), (0x483, 0x489), (0x591, 0x5bd),
   (0x600, 0x605), (0x610, 0x61a), (0x61c, 0x61c), (0x64b, 0x65f), (0x180b, 0x180f),
   (0x1ab0, 0x1ace), (0x1dc0, 0x1dff), (0x200b, 0x200f), (0x202a, 0x202e), (0x2060, 0x206f),
   (0x20d0, 0x20f0), (0x302a, 0x302f), (0xe000, 0xf8ff), (0xfe00, 0xfe0f), (0xfe20, 0xfe2f),
   (0xfeff, 0xfeff), (0xfff0, 0xfffb), (0xfffe, 0xffff), (0xe0000, 0x10ffff)]

/-- A character that can be seen; of the white space only the space itself can. -/
def isVisible (character : Char) : Bool :=
  character == ' ' || !(isBlank character
    || unseenRuns.any fun run =>
      decide (run.1 ≤ character.toNat) && decide (character.toNat ≤ run.2))

/-- The hexadecimal digits of a number, with small letters. -/
def hexText (value : Nat) : String := String.ofList (Nat.toDigits 16 value)

/-- One character between quotation marks. -/
def quotedCharacter (character : Char) : String :=
  match character with
  | '"' => "\\\""
  | '\\' => "\\\\"
  | '\n' => "\\n"
  | '\r' => "\\r"
  | '\t' => "\\t"
  | '\x00' => "\\0"
  | _ =>
    if isVisible character then String.singleton character
    else "\\u\x7b" ++ hexText character.toNat ++ "\x7d"

/-- A text in quotation marks. -/
def quoted (text : String) : String :=
  "\"" ++ String.join (text.toList.map quotedCharacter) ++ "\""

end GeoMarket.Text
