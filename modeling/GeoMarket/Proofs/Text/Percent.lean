import GeoMarket.Text.Percent

/-!
# Percent encoding keeps the text

A byte of a path segment is written as itself or as an escape, and both are read back one at a time.
So the encoded text is made of unreserved characters and percent signs only, decoding it gives the
text back, and no two texts are encoded alike.
-/
namespace GeoMarket.Text.Percent

/-- The text that a percent-encoded segment stands for, if its bytes are valid UTF-8. -/
def decoded? (segment : String) : Option String :=
  (decode? segment.toList).bind fun bytes => String.fromUTF8? ⟨bytes.toArray⟩

/-! ## One byte -/

/-- The character with the code of a byte has that code. -/
theorem toNat_ofNat_byte (byte : UInt8) : (Char.ofNat byte.toNat).toNat = byte.toNat := by
  have valid : byte.toNat.isValidChar := .inl (by have := byte.toNat_lt; omega)
  rw [Char.ofNat, dif_pos valid]
  rfl

/-- Unreserved bytes are letters, digits or one of four signs, and all of them are ASCII. -/
theorem character_of_isUnreserved {byte : UInt8} (unreserved : isUnreserved byte = true) :
    ((Char.ofNat byte.toNat).isAlphanum = true ∨ Char.ofNat byte.toNat ∈ ['-', '_', '.', '~']) ∧
      byte.toNat < 128 := by
  rw [isUnreserved, Bool.or_eq_true] at unreserved
  rcases unreserved with alphanumeric | sign
  · rw [isAlphanumeric, Bool.and_eq_true, decide_eq_true_eq] at alphanumeric
    exact ⟨.inl alphanumeric.1, alphanumeric.2⟩
  · have listed : Char.ofNat byte.toNat ∈ ['-', '_', '.', '~'] := List.contains_iff_mem.mp sign
    refine ⟨.inr listed, ?_⟩
    have ascii : ∀ character ∈ ['-', '_', '.', '~'], character.toNat < 128 := by simp
    exact toNat_ofNat_byte byte ▸ ascii _ listed

/-- A capital hexadecimal digit is a letter or a digit. -/
theorem isAlphanum_hexCapital (value : Fin 16) : (hexCapital value).isAlphanum = true := by
  revert value
  decide

/-- A byte of a segment is written with letters, digits, four signs and percent signs. -/
theorem mem_segmentByte {byte : UInt8} {character : Char} (inside : character ∈ segmentByte byte) :
    character.isAlphanum = true ∨ character ∈ ['-', '_', '.', '~', '%'] := by
  unfold segmentByte at inside
  split at inside
  next unreserved =>
    obtain rfl := List.mem_singleton.mp inside
    refine (character_of_isUnreserved unreserved).1.imp_right fun sign => ?_
    exact List.mem_append_left ['%'] sign
  next =>
    simp only [escaped, List.mem_cons, List.not_mem_nil, or_false] at inside
    rcases inside with rfl | rfl | rfl
    · exact .inr (by decide)
    · exact .inl (isAlphanum_hexCapital _)
    · exact .inl (isAlphanum_hexCapital _)

/-- A character other than the percent sign is read as its own byte. -/
theorem decode?_cons {character : Char} (plain : character ≠ '%') (ascii : character.toNat < 128)
    (rest : List Char) :
    decode? (character :: rest) = (decode? rest).map (UInt8.ofNat character.toNat :: ·) := by
  rw [decode?]
  · cases decode? rest <;> simp [plain, ascii]
  · exact fun _ _ _ same => absurd same plain

/-- An escape is read as the byte with its two digits. -/
theorem decode?_escape (upper lower : Fin 16) (rest : List Char) :
    decode? ('%' :: hexCapital upper :: hexCapital lower :: rest) =
      (decode? rest).map (UInt8.ofNat (upper.val * 16 + lower.val) :: ·) := by
  rw [decode?]
  cases decode? rest <;> simp

/-- A byte of a segment is read back. -/
theorem decode?_segmentByte (byte : UInt8) (rest : List Char) :
    decode? (segmentByte byte ++ rest) = (decode? rest).map (byte :: ·) := by
  unfold segmentByte
  split
  next unreserved =>
    obtain ⟨written, ascii⟩ := character_of_isUnreserved unreserved
    have plain : Char.ofNat byte.toNat ≠ '%' := by
      intro same
      rw [same] at written
      revert written
      decide
    rw [List.singleton_append, decode?_cons plain (by rwa [toNat_ofNat_byte]), toNat_ofNat_byte,
      UInt8.ofNat_toNat]
  next =>
    have halves : byte.toNat / 16 * 16 + byte.toNat % 16 = byte.toNat := Nat.div_add_mod' _ _
    simp only [escaped, nibbles, List.cons_append, List.nil_append, decode?_escape, halves,
      UInt8.ofNat_toNat]

/-! ## Whole texts -/

/-- The bytes of a segment are read back. -/
theorem decode?_flatMap (bytes : List UInt8) :
    decode? (bytes.flatMap segmentByte) = some bytes := by
  induction bytes with
  | nil => rfl
  | cons byte bytes ih => rw [List.flatMap_cons, decode?_segmentByte, ih, Option.map_some]

/-- The bytes of an array, from an index on. -/
theorem toList_loop (bytes : ByteArray) (index : Nat) (found : List UInt8) :
    ByteArray.toList.loop bytes index found = found.reverse ++ bytes.data.toList.drop index := by
  fun_induction ByteArray.toList.loop bytes index found with
  | case1 index found below ih =>
    have inside : index < bytes.data.toList.length := below
    have same : bytes.get! index = bytes.data.toList[index] := getElem!_pos bytes.data index below
    rw [ih, List.drop_eq_getElem_cons inside, ← same, List.reverse_cons, List.append_assoc,
      List.singleton_append]
  | case2 index found above =>
    have outside : bytes.data.toList.length ≤ index := Nat.not_lt.mp above
    rw [List.drop_eq_nil_of_le outside, List.append_nil]

/-- The bytes of a text are those of its array. -/
theorem utf8_eq (text : String) : utf8 text = text.toUTF8.data.toList := by
  rw [utf8, ByteArray.toList, toList_loop]
  simp

/-- The bytes of a text are valid UTF-8 and stand for the text. -/
theorem fromUTF8?_utf8 (text : String) : String.fromUTF8? ⟨(utf8 text).toArray⟩ = some text := by
  have valid : ByteArray.IsValidUTF8 ⟨text.toUTF8.data⟩ := text.isValidUTF8
  rw [utf8_eq, Array.toArray_toList, String.fromUTF8?, dif_pos valid]
  rfl

/-- Decoding a segment gives its text back. -/
theorem decoded?_segment (text : String) : decoded? (segment text) = some text := by
  rw [decoded?, segment, String.toList_ofList, segmentCharacters, decode?_flatMap, Option.bind_some,
    fromUTF8?_utf8]

/-- Different texts have different segments. -/
theorem segment_injective : Function.Injective segment := by
  intro first second same
  have decoded := congrArg decoded? same
  rw [decoded?_segment, decoded?_segment] at decoded
  exact Option.some.inj decoded

/-- A segment is made of letters, digits, four signs and percent signs. -/
theorem mem_segment {text : String} {character : Char}
    (inside : character ∈ (segment text).toList) :
    character.isAlphanum = true ∨ character ∈ ['-', '_', '.', '~', '%'] := by
  rw [segment, String.toList_ofList, segmentCharacters, List.mem_flatMap] at inside
  obtain ⟨byte, -, written⟩ := inside
  exact mem_segmentByte written

/-- A segment has no slash, and begins neither a query nor a fragment. -/
theorem notMem_segment {text : String} {mark : Char} (ends : mark ∈ ['/', '?', '#']) :
    mark ∉ (segment text).toList := by
  intro inside
  have written := mem_segment inside
  revert written
  simp only [List.mem_cons, List.not_mem_nil, or_false] at ends
  rcases ends with rfl | rfl | rfl <;> decide

/-- A slash is escaped, and so are the two bytes of a letter beyond ASCII. -/
example : segment "abc/dé" = "abc%2Fd%C3%A9" := by
  decide +kernel

end GeoMarket.Text.Percent
