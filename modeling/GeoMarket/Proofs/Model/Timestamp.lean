import GeoMarket.Model.Timestamp
import GeoMarket.Proofs.Record.RoundTrip

/-!
# Timestamps as texts

The text of a timestamp in its ranges reads back as the timestamp. Every number in the text is
padded to a width that its value cannot exceed, or ends before a mark, so a reader that takes as
many digits as it can takes exactly those that were written.
-/
namespace GeoMarket

namespace Text

/-- The digits of a padded number. -/
theorem toList_padded (width value : Nat) :
    (padded width value).toList =
      List.replicate (width - (Nat.toDigits 10 value).length) '0' ++ Nat.toDigits 10 value := by
  simp [padded]

/-- A padded number consists of digits. -/
theorem isDigit_of_mem_padded (width value : Nat) {character : Char}
    (inside : character ∈ (padded width value).toList) : character.isDigit = true := by
  rw [toList_padded, List.mem_append] at inside
  rcases inside with zero | digit
  · rw [List.eq_of_mem_replicate zero]; rfl
  · exact Nat.isDigit_of_mem_toDigits (by decide) (by decide) digit

/-- Padding does not change the number. -/
theorem ofDigitChars_padded (width value : Nat) :
    Nat.ofDigitChars 10 (padded width value).toList 0 = value := by
  rw [toList_padded, Nat.ofDigitChars_append, Nat.ofDigitChars_replicate_zero, Nat.mul_zero,
    Nat.ofDigitChars_ten_toDigits]

/-- A number is padded to its width if it is small enough. -/
theorem length_padded (width value : Nat) (positive : 0 < width)
    (small : value < Nat.pow 10 width) :
    (padded width value).toList.length = width := by
  have fits := (Nat.length_toDigits_le_iff (by decide) positive).mpr small
  rw [toList_padded, List.length_append, List.length_replicate]
  omega

/-- A padded number begins with a digit. -/
theorem exists_padded (width value : Nat) :
    ∃ first rest, (padded width value).toList = first :: rest ∧ first.isDigit = true := by
  cases written : (padded width value).toList with
  | nil =>
    rw [toList_padded, List.append_eq_nil_iff] at written
    exact absurd written.2 Nat.toDigits_ne_nil
  | cons first rest =>
    exact ⟨first, rest, rfl, isDigit_of_mem_padded width value (by simp [written])⟩

/-- A digit is not white space. -/
theorem isBlank_of_isDigit {character : Char} (digit : character.isDigit = true) :
    isBlank character = false := by
  have bounds : 48 ≤ character.toNat ∧ character.toNat ≤ 57 := by
    simp only [Char.isDigit, Bool.and_eq_true, decide_eq_true_eq] at digit
    exact digit
  rw [Bool.eq_false_iff]
  intro blank
  simp only [isBlank, Bool.or_eq_true, Bool.and_eq_true, decide_eq_true_eq, beq_iff_eq] at blank
  omega

end Text

namespace Timestamp

/-- A text that does not begin with a digit. -/
def EndsNumber (text : List Char) : Prop := ∀ first ∈ text.head?, first.isDigit = false

/-- Digits are taken as long as there is room for them. -/
theorem digitsUpTo_append {digits : List Char} (all : ∀ digit ∈ digits, digit.isDigit = true)
    (room value count : Nat) (rest : List Char) :
    digitsUpTo (digits.length + room) value count (digits ++ rest) =
      digitsUpTo room (Nat.ofDigitChars 10 digits value) (count + digits.length) rest := by
  induction digits generalizing value count with
  | nil => simp
  | cons digit digits ih =>
    have first : Text.digitValue? digit = some (digit.toNat - 48) := if_pos (all digit (by simp))
    have width : (digit :: digits).length + room = digits.length + room + 1 := by
      simp only [List.length_cons]; omega
    rw [width, List.cons_append, digitsUpTo, first]
    simp only [ih fun digit inside => all digit (by simp [inside]), Nat.ofDigitChars_cons,
      List.length_cons, Nat.mul_comm 10, Nat.add_assoc, Nat.add_comm 1]
    rfl

/-- No digit is taken where none is left or no room is. -/
theorem digitsUpTo_of_endsNumber {room : Nat} {rest : List Char} (value count : Nat)
    (ends : room = 0 ∨ EndsNumber rest) :
    digitsUpTo room value count rest = (value, count, rest) := by
  cases room with
  | zero => rfl
  | succ room =>
    have ends : EndsNumber rest := ends.resolve_left (Nat.succ_ne_zero room)
    cases rest with
    | nil => rfl
    | cons first rest =>
      have noDigit : Text.digitValue? first = none := by
        simp [Text.digitValue?, ends first rfl]
      rw [digitsUpTo, noDigit]

/-- A padded number is taken as a whole. -/
theorem digitsUpTo_padded (width value room : Nat) {rest : List Char}
    (ends : room = 0 ∨ EndsNumber rest) :
    digitsUpTo ((Text.padded width value).toList.length + room) 0 0
        ((Text.padded width value).toList ++ rest) =
      (value, (Text.padded width value).toList.length, rest) := by
  rw [digitsUpTo_append fun _ => Text.isDigit_of_mem_padded width value,
    digitsUpTo_of_endsNumber _ _ ends, Text.ofDigitChars_padded, Nat.zero_add]

/-- A text that begins with no white space has nothing to skip. -/
theorem skipBlank_cons {first : Char} (rest : List Char) (solid : Text.isBlank first = false) :
    skipBlank (first :: rest) = first :: rest := by
  rw [skipBlank, List.dropWhile_cons, if_neg (by simp [solid])]

/-- There is nothing to skip in front of a padded number. -/
theorem skipBlank_padded (width value : Nat) (rest : List Char) :
    skipBlank ((Text.padded width value).toList ++ rest) =
      (Text.padded width value).toList ++ rest := by
  obtain ⟨first, others, written, digit⟩ := Text.exists_padded width value
  rw [written, List.cons_append, skipBlank_cons _ (Text.isBlank_of_isDigit digit)]

/-- A number that is written in its width is read back. -/
theorem number?_padded (width value : Nat) (positive : 0 < width) (small : value < Nat.pow 10 width)
    (rest : List Char) :
    number? width ((Text.padded width value).toList ++ rest) = some (value, rest) := by
  have taken := digitsUpTo_padded width value 0 (.inl rfl : _ ∨ EndsNumber rest)
  rw [Text.length_padded width value positive small, Nat.add_zero] at taken
  rw [number?, skipBlank_padded, taken]
  obtain ⟨more, rfl⟩ := Nat.exists_eq_succ_of_ne_zero (Nat.ne_of_gt positive)
  rfl

/-- A number of any size is read back if something else follows. -/
theorem longNumber?_padded (width value : Nat) {rest : List Char} (ends : EndsNumber rest) :
    longNumber? ((Text.padded width value).toList ++ rest) = some (value, rest) := by
  have taken := digitsUpTo_padded width value rest.length (.inr ends)
  rw [longNumber?, List.length_append, taken]
  obtain ⟨first, others, written, -⟩ := Text.exists_padded width value
  rw [written]
  rfl

/-- A mark is read behind nothing. -/
theorem mark?_cons {mark : Char} (rest : List Char) (solid : Text.isBlank mark = false) :
    mark? mark (mark :: rest) = some rest := by
  rw [mark?, skipBlank_cons rest solid]
  simp

/-- A year of four digits is read as a number. -/
theorem year?_of_isDigit {first : Char} (rest : List Char) (digit : first.isDigit = true) :
    year? (first :: rest) =
      (number? 4 (first :: rest)).map fun (value, rest) => ((value : Int), rest) := by
  rw [year?, skipBlank_cons rest (Text.isBlank_of_isDigit digit)]
  split
  · rename_i minus
    cases minus
    exact absurd digit (by decide)
  · rename_i plus
    cases plus
    exact absurd digit (by decide)
  · rfl

/-- A year is read back in front of a mark. -/
theorem year?_yearText (year : Int) (rest : List Char) :
    year? ((yearText year).toList ++ '-' :: rest) = some (year, '-' :: rest) := by
  have ends : EndsNumber ('-' :: rest) := by rintro _ ⟨⟩; decide
  have long := longNumber?_padded 4 year.natAbs ends
  -- A year of four digits stands bare; any other has a sign and is read to its last digit.
  unfold yearText
  split
  · have size : (year.natAbs : Int) = year := by omega
    have short : year.natAbs < 10000 := by omega
    have read := number?_padded 4 year.natAbs (by decide) short ('-' :: rest)
    obtain ⟨first, others, written, digit⟩ := Text.exists_padded 4 year.natAbs
    rw [written, List.cons_append] at read ⊢
    rw [year?_of_isDigit _ digit, read]
    exact congrArg (fun value => some (value, '-' :: rest)) size
  · split
    · have size : -(year.natAbs : Int) = year := by omega
      rw [String.toList_append]
      change year? ('-' :: ((Text.padded 4 year.natAbs).toList ++ '-' :: rest)) = _
      rw [year?, skipBlank_cons _ (by decide)]
      change (longNumber? _).map _ = _
      rw [long]
      exact congrArg (fun value => some (value, '-' :: rest)) size
    · have size : (year.natAbs : Int) = year := by omega
      rw [String.toList_append]
      change year? ('+' :: ((Text.padded 4 year.natAbs).toList ++ '-' :: rest)) = _
      rw [year?, skipBlank_cons _ (by decide)]
      change (longNumber? _).map _ = _
      rw [long]
      exact congrArg (fun value => some (value, '-' :: rest)) size

/-- A fraction of up to nine digits is read back in nanoseconds. -/
theorem fraction?_padded (width value : Nat) {rest : List Char} (positive : 0 < width)
    (nine : width ≤ 9) (small : value < Nat.pow 10 width) (ends : EndsNumber rest) :
    fraction? ('.' :: ((Text.padded width value).toList ++ rest)) =
      some (value * Nat.pow 10 (9 - width), rest) := by
  have taken := digitsUpTo_padded width value (9 - width) (.inr ends)
  rw [Text.length_padded width value positive small, Nat.add_sub_of_le nine] at taken
  have left : rest.dropWhile Char.isDigit = rest := by
    cases rest with
    | nil => rfl
    | cons first rest => rw [List.dropWhile_cons, if_neg (by simp [ends first rfl])]
  obtain ⟨fewer, rfl⟩ := Nat.exists_eq_succ_of_ne_zero (Nat.ne_of_gt positive)
  simp [fraction?, taken, left]

/-- A fraction of a second is read back in front of what is neither a digit nor a point. -/
theorem fraction?_fractionText {nanosecond : Nat} (rest : List Char)
    (range : nanosecond < 1000000000) (ends : EndsNumber rest) (whole : rest.head? ≠ some '.') :
    fraction? ((fractionText nanosecond).toList ++ rest) = some (nanosecond, rest) := by
  -- No digits, three, six or nine: in each case what is cut off is zero.
  unfold fractionText
  split
  · subst nanosecond
    cases rest with
    | nil => rfl
    | cons first rest => simp_all [fraction?]
  · split
    · have millis : nanosecond / 1000000 < 1000 := by omega
      have size : nanosecond / 1000000 * 1000000 = nanosecond := by omega
      rw [String.toList_append]
      exact (fraction?_padded 3 _ (by decide) (by decide) millis ends).trans
        (congrArg (fun value => some (value, rest)) size)
    · split
      · have micros : nanosecond / 1000 < 1000000 := by omega
        have size : nanosecond / 1000 * 1000 = nanosecond := by omega
        rw [String.toList_append]
        exact (fraction?_padded 6 _ (by decide) (by decide) micros ends).trans
          (congrArg (fun value => some (value, rest)) size)
      · rw [String.toList_append]
        exact (fraction?_padded 9 nanosecond (by decide) (by decide) range ends).trans
          (congrArg (fun value => some (value, rest)) (Nat.mul_one nanosecond))

/-- Two digits are read back. -/
theorem twoDigits?_padded (value : Nat) (small : value < 100) (rest : List Char) :
    twoDigits? ((Text.padded 2 value).toList ++ rest) = some (value, rest) := by
  have length := Text.length_padded 2 value (by decide) small
  have number := Text.ofDigitChars_padded 2 value
  have digit (character : Char) (inside : character ∈ (Text.padded 2 value).toList) :
      Text.digitValue? character = some (character.toNat - 48) :=
    if_pos (Text.isDigit_of_mem_padded 2 value inside)
  -- The reader looks at characters, so the two digits are named and their value computed.
  match written : (Text.padded 2 value).toList, length with
  | [first, second], _ =>
    rw [written] at number
    simp only [written, List.mem_cons] at digit
    simp only [Nat.ofDigitChars_cons, Nat.ofDigitChars_nil, Nat.mul_zero, Nat.zero_add] at number
    simp [twoDigits?, digit first, digit second]
    have : '0'.toNat = 48 := rfl
    omega

/-- Hours and minutes behind a sign are read back. -/
theorem signedOffset?_padded (sign : Int) {hours minutes : Nat} (hoursSmall : hours < 100)
    (minutesSmall : minutes < 60) :
    signedOffset? sign ((Text.padded 2 hours).toList ++ ':' :: (Text.padded 2 minutes).toList) =
      some (sign * (hours * 60 + minutes : Nat), []) := by
  have read := twoDigits?_padded minutes (by omega) []
  rw [List.append_nil] at read
  have skipped : (':' :: (Text.padded 2 minutes).toList).dropWhile
      (fun c => c == ':' || Text.isBlank c) = (Text.padded 2 minutes).toList := by
    obtain ⟨first, others, written, digit⟩ := Text.exists_padded 2 minutes
    have solid := Text.isBlank_of_isDigit digit
    have different : first ≠ ':' := by rintro rfl; exact absurd digit (by decide)
    rw [written]
    simp [solid, different]
  simp [signedOffset?, twoDigits?_padded hours hoursSmall, skipped, read, minutesSmall]

/-- An offset begins with a mark that is neither a digit nor a point nor white space. -/
theorem exists_offsetText (offset : Int) :
    ∃ mark rest, (offsetText offset).toList = mark :: rest ∧
      mark.isDigit = false ∧ mark ≠ '.' ∧ Text.isBlank mark = false := by
  unfold offsetText
  split
  · exact ⟨'Z', [], rfl, by decide⟩
  · split
    · exact ⟨'-', _, by simp [String.toList_append]; rfl, by decide⟩
    · exact ⟨'+', _, by simp [String.toList_append]; rfl, by decide⟩

/-- An offset of less than a day is read back. -/
theorem offset?_offsetText {offset : Int} (range : offset.natAbs < 1440) :
    offset? (offsetText offset).toList = some (offset, []) := by
  have hours : offset.natAbs / 60 < 100 := by omega
  have minutes : offset.natAbs % 60 < 60 := Nat.mod_lt _ (by decide)
  have total : offset.natAbs / 60 * 60 + offset.natAbs % 60 = offset.natAbs :=
    Nat.div_add_mod' offset.natAbs 60
  have read (sign : Int) := signedOffset?_padded sign hours minutes
  rw [total] at read
  -- No offset has a mark of its own; the sign of any other stands before its magnitude.
  unfold offsetText
  split
  · subst offset; rfl
  · split
    · have size : -1 * (offset.natAbs : Int) = offset := by omega
      simp only [String.toList_append, String.reduceToList, List.append_assoc, List.cons_append,
        List.nil_append]
      rw [offset?, if_neg (by simp)]
      exact (read (-1)).trans (by rw [size])
    · have size : 1 * (offset.natAbs : Int) = offset := by omega
      simp only [String.toList_append, String.reduceToList, List.append_assoc, List.cons_append,
        List.nil_append]
      rw [offset?, if_neg (by simp)]
      exact (read 1).trans (by rw [size])

/-- No month has more than thirty-one days. -/
theorem daysInMonth_le (year : Int) (month : Nat) : daysInMonth year month ≤ 31 := by
  unfold daysInMonth
  split
  · split <;> decide
  all_goals decide

/-- Everything but the year of a timestamp in its ranges fits into the width of its text. -/
theorem widths_of_isValid {stamp : Timestamp} (valid : stamp.isValid = true) :
    stamp.month < 100 ∧ stamp.day < 100 ∧ stamp.hour < 100 ∧ stamp.minute < 100
      ∧ stamp.second < 100 ∧ stamp.nanosecond < 1000000000 ∧ stamp.offset.natAbs < 1440 := by
  have days := daysInMonth_le stamp.year stamp.month
  simp only [isValid, Bool.and_eq_true, decide_eq_true_eq] at valid
  omega

/-- **The text of a timestamp reads back as the timestamp.** -/
theorem ofText?_text {stamp : Timestamp} (valid : stamp.isValid = true) :
    ofText? stamp.text = some stamp := by
  obtain ⟨month, day, hour, minute, second, nanosecond, offset⟩ := widths_of_isValid valid
  have number {value : Nat} (small : value < 100) (rest : List Char) :=
    number?_padded 2 value (by decide) small rest
  have hyphen (rest : List Char) : mark? '-' ('-' :: rest) = some rest :=
    mark?_cons rest (by decide)
  have colon (rest : List Char) : mark? ':' (':' :: rest) = some rest :=
    mark?_cons rest (by decide)
  have between (rest : List Char) : separator? ('T' :: rest) = some rest := rfl
  -- Only the fraction looks ahead: it must not run into the offset behind it.
  obtain ⟨mark, rest, written, noDigit, noPoint, solid⟩ := exists_offsetText stamp.offset
  have fraction := fraction?_fractionText (mark :: rest) nanosecond
    (by rintro _ ⟨⟩; exact noDigit) (by simpa using noPoint)
  have behind := offset?_offsetText offset
  rw [written] at behind
  have written : stamp.text.toList = (yearText stamp.year).toList ++
      '-' :: ((Text.padded 2 stamp.month).toList ++
      '-' :: ((Text.padded 2 stamp.day).toList ++
      'T' :: ((Text.padded 2 stamp.hour).toList ++
      ':' :: ((Text.padded 2 stamp.minute).toList ++
      ':' :: ((Text.padded 2 stamp.second).toList ++
      ((fractionText stamp.nanosecond).toList ++ mark :: rest)))))) := by
    simp only [text, String.toList_append, String.reduceToList, List.append_assoc,
      List.cons_append, List.nil_append, written]
  unfold ofText?
  rw [written]
  refine Option.bind_eq_some_iff.mpr ⟨_, year?_yearText _ _, ?_⟩
  refine Option.bind_eq_some_iff.mpr ⟨_, hyphen _, ?_⟩
  refine Option.bind_eq_some_iff.mpr ⟨_, number month _, ?_⟩
  refine Option.bind_eq_some_iff.mpr ⟨_, hyphen _, ?_⟩
  refine Option.bind_eq_some_iff.mpr ⟨_, number day _, ?_⟩
  refine Option.bind_eq_some_iff.mpr ⟨_, between _, ?_⟩
  refine Option.bind_eq_some_iff.mpr ⟨_, number hour _, ?_⟩
  refine Option.bind_eq_some_iff.mpr ⟨_, colon _, ?_⟩
  refine Option.bind_eq_some_iff.mpr ⟨_, number minute _, ?_⟩
  refine Option.bind_eq_some_iff.mpr ⟨_, colon _, ?_⟩
  refine Option.bind_eq_some_iff.mpr ⟨_, number second _, ?_⟩
  refine Option.bind_eq_some_iff.mpr ⟨_, fraction, ?_⟩
  refine Option.bind_eq_some_iff.mpr ⟨_, (skipBlank_cons rest solid).symm ▸ behind, ?_⟩
  exact if_pos (Bool.and_eq_true _ _ ▸ ⟨rfl, valid⟩)

/-- Every timestamp that is read lies in its ranges. -/
theorem isValid_of_ofText? {source : String} {stamp : Timestamp}
    (read : ofText? source = some stamp) : stamp.isValid = true := by
  unfold ofText? at read
  -- The thirteen parts of the text in turn; only the test at the end matters here.
  iterate 13 obtain ⟨_, -, read⟩ := Option.bind_eq_some_iff.mp read
  dsimp only at read
  split at read
  · rename_i whole
    obtain rfl := Option.some.inj read
    exact (Bool.and_eq_true _ _ ▸ whole).2
  · cases read

instance (reading : Reading) : codec.Sound reading where
  survives {tree stamp} read := by
    obtain ⟨source, -, found⟩ := Option.bind_eq_some_iff.mp read
    exact Codec.survives_refine inferInstance (ofText?_text (isValid_of_ofText? found))
  present _ _ := ⟨nofun⟩

end Timestamp
end GeoMarket
