/-!
# The order of texts

Texts are ordered by the code points of their characters, the first difference deciding; a text
stands before every longer text that it begins. The order is strict and total.
-/
namespace GeoMarket.Text

/-- The first characters stand before the second ones. -/
def charactersPrecede : List Char → List Char → Bool
  | _, [] => false
  | [], _ :: _ => true
  | left :: lefts, right :: rights =>
    if left = right then charactersPrecede lefts rights else decide (left.toNat < right.toNat)

/-- The first text stands before the second one. -/
def precedes (left right : String) : Bool := charactersPrecede left.toList right.toList

/-- Different characters have different code points. -/
theorem toNat_ne_of_ne {left right : Char} (different : left ≠ right) :
    left.toNat ≠ right.toNat := fun same => different (Char.toNat_inj.mp same)

/-- No characters stand before themselves. -/
theorem charactersPrecede_irrefl (characters : List Char) :
    charactersPrecede characters characters = false := by
  induction characters with
  | nil => rfl
  | cons head tail ih => simpa [charactersPrecede] using ih

/-- What stands before something that stands before a third stands before the third. -/
theorem charactersPrecede_trans {first second third : List Char}
    (lower : charactersPrecede first second = true)
    (upper : charactersPrecede second third = true) :
    charactersPrecede first third = true := by
  induction first generalizing second third with
  | nil =>
    cases third with
    | nil => cases second <;> simp [charactersPrecede] at upper
    | cons => rfl
  | cons a first ih =>
    cases second with
    | nil => simp [charactersPrecede] at lower
    | cons b second =>
      cases third with
      | nil => simp [charactersPrecede] at upper
      | cons c third =>
        simp only [charactersPrecede] at lower upper ⊢
        by_cases ab : a = b
        · subst ab
          by_cases ac : a = c
          · subst ac
            simp only [if_true] at lower upper ⊢
            exact ih lower upper
          · simp only [ac, if_false] at upper ⊢
            exact upper
        · by_cases bc : b = c
          · subst bc
            simp only [ab, if_false] at lower ⊢
            exact lower
          · simp only [ab, bc, if_false, decide_eq_true_eq] at lower upper
            have ac : a ≠ c := fun same => by subst same; omega
            simp only [ac, if_false, decide_eq_true_eq]
            omega

/-- Of two different lists of characters, one stands before the other. -/
theorem charactersPrecede_total {left right : List Char} (different : left ≠ right)
    (notBefore : charactersPrecede left right = false) :
    charactersPrecede right left = true := by
  induction left generalizing right with
  | nil =>
    cases right with
    | nil => exact absurd rfl different
    | cons => simp [charactersPrecede] at notBefore
  | cons a left ih =>
    cases right with
    | nil => rfl
    | cons b right =>
      simp only [charactersPrecede] at notBefore ⊢
      by_cases same : a = b
      · subst same
        simp only [if_true] at notBefore ⊢
        exact ih (fun tails => different (by rw [tails])) notBefore
      · have apart := toNat_ne_of_ne same
        simp only [same, if_false, decide_eq_false_iff_not] at notBefore
        have reversed : b ≠ a := fun back => same back.symm
        simp only [reversed, if_false, decide_eq_true_eq]
        omega

/-- No text stands before itself. -/
@[simp] theorem precedes_irrefl (text : String) : precedes text text = false :=
  charactersPrecede_irrefl text.toList

/-- What stands before a text that stands before a third stands before the third. -/
theorem precedes_trans {first second third : String} (lower : precedes first second = true)
    (upper : precedes second third = true) : precedes first third = true :=
  charactersPrecede_trans lower upper

/-- Of two different texts, one stands before the other. -/
theorem precedes_total {left right : String} (different : left ≠ right)
    (notBefore : precedes left right = false) : precedes right left = true :=
  charactersPrecede_total (fun same => different (String.toList_injective same)) notBefore

end GeoMarket.Text
