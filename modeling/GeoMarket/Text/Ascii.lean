/-!
# Letters and edges of plain text

Comparison that forgets the case of the ASCII letters, and removal of the characters at one
end of a text. Both are stated on lists of characters, so that laws follow from laws of lists.
-/
namespace GeoMarket.Text

/-- The text with its ASCII capitals made small; no other character changes. -/
def lower (text : String) : List Char := text.toList.map Char.toLower

/-- Two texts that differ at most in the case of ASCII letters. -/
def sameIgnoringCase (left right : String) : Bool := lower left == lower right

/-- Agreement up to the case of ASCII letters is equality of the lowered texts. -/
theorem sameIgnoringCase_iff {left right : String} :
    sameIgnoringCase left right = true ↔ lower left = lower right := by
  simp [sameIgnoringCase]

/-- Agreement up to case is reflexive. -/
@[simp] theorem sameIgnoringCase_refl (text : String) : sameIgnoringCase text text = true := by
  simp [sameIgnoringCase]

/-- Agreement up to case is symmetric. -/
theorem sameIgnoringCase_comm (left right : String) :
    sameIgnoringCase left right = sameIgnoringCase right left := by
  simp only [sameIgnoringCase, Bool.beq_comm]

/-- Two texts that agree up to case agree with the same texts. -/
theorem sameIgnoringCase_congr {left right : String} (same : sameIgnoringCase left right = true)
    (other : String) : sameIgnoringCase left other = sameIgnoringCase right other := by
  unfold sameIgnoringCase
  rw [sameIgnoringCase_iff.mp same]

/-- What agrees with one of two texts that agree up to case agrees with the other one. -/
theorem sameIgnoringCase_congr_right {left right : String}
    (same : sameIgnoringCase left right = true) (other : String) :
    sameIgnoringCase other left = sameIgnoringCase other right := by
  rw [sameIgnoringCase_comm, sameIgnoringCase_congr same, sameIgnoringCase_comm]

/-- Drop every leading character equal to the given one. -/
def dropLeading (mark : Char) (characters : List Char) : List Char :=
  characters.dropWhile (· == mark)

/-- Drop every trailing character equal to the given one. -/
def dropTrailing (mark : Char) (characters : List Char) : List Char :=
  (dropLeading mark characters.reverse).reverse

/-- The pieces between the occurrences of a separator; there is always at least one. -/
def splitAt (mark : Char) : List Char → List (List Char)
  | [] => [[]]
  | character :: rest =>
    if character == mark then [] :: splitAt mark rest
    else match splitAt mark rest with
      | [] => [[character]]
      | piece :: pieces => (character :: piece) :: pieces

/-- Texts put one after another with a separator between neighbours. -/
def joinWith (separator : String) (texts : List String) : String :=
  separator.intercalate texts

/-- The value of a hexadecimal digit in either case. -/
def hexValue? (character : Char) : Option (Fin 16) :=
  let code := character.toNat
  if digit : 48 ≤ code ∧ code ≤ 57 then some ⟨code - 48, by omega⟩
  else if small : 97 ≤ code ∧ code ≤ 102 then some ⟨code - 87, by omega⟩
  else if capital : 65 ≤ code ∧ code ≤ 70 then some ⟨code - 55, by omega⟩
  else none

/-- The hexadecimal digit of a value, with small letters. -/
def hexDigit (value : Fin 16) : Char :=
  if value.val < 10 then Char.ofNat (48 + value.val) else Char.ofNat (87 + value.val)

/-- The hexadecimal digit of a value, with capital letters. -/
def hexCapital (value : Fin 16) : Char :=
  if value.val < 10 then Char.ofNat (48 + value.val) else Char.ofNat (55 + value.val)

/-- A written digit reads back as its value. -/
@[simp] theorem hexValue?_hexDigit (value : Fin 16) : hexValue? (hexDigit value) = some value := by
  revert value; decide

/-- A written capital digit reads back as its value. -/
@[simp] theorem hexValue?_hexCapital (value : Fin 16) :
    hexValue? (hexCapital value) = some value := by
  revert value; decide

/-- The value of a decimal digit. -/
def digitValue? (character : Char) : Option Nat :=
  if character.isDigit then some (character.toNat - 48) else none

/-- A natural number written with at least the given number of digits. -/
def padded (width value : Nat) : String :=
  let digits := (toString value).toList
  String.ofList (List.replicate (width - digits.length) '0' ++ digits)

end GeoMarket.Text
