import GeoMarket.Record.Codec
import GeoMarket.Text.Ascii

/-!
# Identifiers

An identifier has 128 bits, kept as its thirty-two hexadecimal digits. It is written with small
letters in groups of 8, 4, 4, 4 and 12 digits, and read back in that form, without the hyphens,
in braces, or behind the name of its scheme.
-/
namespace GeoMarket

/-- A universally unique identifier. -/
structure Uuid where
  /-- The digits, the most significant one first. -/
  digits : List (Fin 16)
  /-- There are thirty-two of them. -/
  length_digits : digits.length = 32
  deriving DecidableEq

namespace Uuid

instance : Inhabited Uuid := ⟨List.replicate 32 0, rfl⟩

/-- The identifier of a list of digits, if there are enough. -/
def ofDigits? (digits : List (Fin 16)) : Option Uuid :=
  if enough : digits.length = 32 then some ⟨digits, enough⟩ else none

/-- The form with hyphens. -/
def characters (id : Uuid) : List Char :=
  let digits := id.digits.map Text.hexDigit
  digits.take 8 ++ '-' :: (digits.drop 8).take 4 ++ '-' :: (digits.drop 12).take 4
    ++ '-' :: (digits.drop 16).take 4 ++ '-' :: digits.drop 20

/-- The identifier as a text. -/
def text (id : Uuid) : String := String.ofList id.characters

/-- A number of hexadecimal digits at the front of a text. -/
def group? : Nat → List Char → Option (List (Fin 16) × List Char)
  | 0, rest => some ([], rest)
  | count + 1, character :: rest => do
    let digit ← Text.hexValue? character
    let (digits, rest) ← group? count rest
    some (digit :: digits, rest)
  | _ + 1, [] => none

/-- A hyphen and a number of digits behind it. -/
def hyphenated? (count : Nat) : List Char → Option (List (Fin 16) × List Char)
  | '-' :: rest => group? count rest
  | _ => none

/-- The digits of the form with hyphens. -/
def ofHyphenated? (text : List Char) : Option Uuid := do
  let (first, rest) ← group? 8 text
  let (second, rest) ← hyphenated? 4 rest
  let (third, rest) ← hyphenated? 4 rest
  let (fourth, rest) ← hyphenated? 4 rest
  let (fifth, rest) ← hyphenated? 12 rest
  if rest.isEmpty then ofDigits? (first ++ second ++ third ++ fourth ++ fifth) else none

/-- The digits of the form without hyphens. -/
def ofSimple? (text : List Char) : Option Uuid := do
  let (digits, rest) ← group? 32 text
  if rest.isEmpty then ofDigits? digits else none

/-- The name of the scheme in front of an identifier. -/
def scheme : List Char := "urn:uuid:".toList

/-- The identifier that a text stands for. -/
def ofCharacters? (text : List Char) : Option Uuid :=
  if text.length = 32 then ofSimple? text
  else if text.length = 36 then ofHyphenated? text
  else if text.length = 38 then
    if text.head? = some '{' ∧ text.getLast? = some '}' then ofHyphenated? (text.drop 1).dropLast
    else none
  else if text.take 9 = scheme then ofHyphenated? (text.drop 9)
  else none

/-- The identifier that a text stands for. -/
def ofText? (text : String) : Option Uuid := ofCharacters? text.toList

/-- Digits of a group that were written are read back. -/
theorem group?_map (digits : List (Fin 16)) (rest : List Char) :
    group? digits.length (digits.map Text.hexDigit ++ rest) = some (digits, rest) := by
  induction digits with
  | nil => rfl
  | cons digit digits ih => simp [group?, ih]

/-- The written form of an identifier has thirty-six characters. -/
theorem length_characters (id : Uuid) : id.characters.length = 36 := by
  simp [characters, id.length_digits]

/-- The written form of an identifier reads back as the identifier. -/
theorem ofText?_text (id : Uuid) : ofText? id.text = some id := by
  have parts : id.characters =
      (id.digits.take 8).map Text.hexDigit ++ ('-' :: (((id.digits.drop 8).take 4).map Text.hexDigit
        ++ ('-' :: (((id.digits.drop 12).take 4).map Text.hexDigit
        ++ ('-' :: (((id.digits.drop 16).take 4).map Text.hexDigit
        ++ ('-' :: ((id.digits.drop 20).map Text.hexDigit ++ [])))))))) := by
    simp [characters, List.map_take, List.map_drop]
  have read (count : Nat) (digits : List (Fin 16)) (rest : List Char)
      (length : digits.length = count) :
      group? count (digits.map Text.hexDigit ++ rest) = some (digits, rest) := by
    subst length; exact group?_map digits rest
  have whole : id.digits.take 8 ++ (id.digits.drop 8).take 4 ++ (id.digits.drop 12).take 4
      ++ (id.digits.drop 16).take 4 ++ id.digits.drop 20 = id.digits := by
    have join (from_ count : Nat) :
        (id.digits.drop from_).take count ++ id.digits.drop (from_ + count)
          = id.digits.drop from_ := by
      rw [← List.drop_drop]; exact List.take_append_drop _ _
    rw [List.append_assoc, join 16 4, List.append_assoc, join 12 4, List.append_assoc, join 8 4,
      List.take_append_drop]
  have count := id.length_digits
  simp only [ofText?, text, String.toList_ofList, ofCharacters?, length_characters]
  simp only [Nat.reduceEqDiff, if_false, if_true]
  rw [parts]
  simp only [ofHyphenated?, hyphenated?, Option.bind_eq_bind]
  rw [read 8 _ _ (by simp [count])]
  simp only [Option.bind_some]
  rw [read 4 _ _ (by simp [count])]
  simp only [Option.bind_some]
  rw [read 4 _ _ (by simp [count])]
  simp only [Option.bind_some]
  rw [read 4 _ _ (by simp [count])]
  simp only [Option.bind_some]
  rw [read 12 _ _ (by simp [count])]
  simp only [Option.bind_some, List.isEmpty_nil, if_true, whole, ofDigits?, dif_pos count]

/-- The codec of identifiers. -/
def codec : Codec Uuid := Codec.text.refine ofText? text

end Uuid
end GeoMarket
