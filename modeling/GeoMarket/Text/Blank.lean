/-!
# White space

The characters with the property `White_Space`, and texts that hold nothing else.
-/
namespace GeoMarket.Text

/-- A character with the property `White_Space`. -/
def isBlank (character : Char) : Bool :=
  let code := character.toNat
  (decide (9 ≤ code) && decide (code ≤ 13)) || code == 0x20 || code == 0x85 || code == 0xa0
    || code == 0x1680 || (decide (0x2000 ≤ code) && decide (code ≤ 0x200a)) || code == 0x2028
    || code == 0x2029 || code == 0x202f || code == 0x205f || code == 0x3000

/-- A text that is empty or holds white space only. -/
def isBlankText (text : String) : Bool := text.toList.all isBlank

end GeoMarket.Text
