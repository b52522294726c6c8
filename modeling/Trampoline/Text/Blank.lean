/-!
Blank characters: the twenty-five characters of the property White_Space, and texts without the
blanks at their two ends.
-/

namespace Trampoline.Text

/-- Whether a character has the property White_Space. -/
def isBlank (character : Char) : Bool :=
  let code := character.toNat
  (9 ≤ code && code ≤ 13) || code == 0x20 || code == 0x85 || code == 0xA0 || code == 0x1680 ||
    (0x2000 ≤ code && code ≤ 0x200A) || code == 0x2028 || code == 0x2029 || code == 0x202F ||
    code == 0x205F || code == 0x3000

def trimmed (text : List Char) : List Char :=
  ((text.dropWhile isBlank).reverse.dropWhile isBlank).reverse

theorem dropWhile_isBlank_eq_nil_iff (text : List Char) :
    text.dropWhile isBlank = [] ↔ ∀ character ∈ text, isBlank character = true := by
  induction text with
  | nil => simp
  | cons character rest inductionHypothesis =>
      by_cases blank : isBlank character = true
      · simp [blank, inductionHypothesis]
      · simp [blank]

theorem forall_mem_dropWhile_isBlank_iff (text : List Char) :
    (∀ character ∈ text.dropWhile isBlank, isBlank character = true) ↔
      ∀ character ∈ text, isBlank character = true := by
  induction text with
  | nil => simp
  | cons character rest inductionHypothesis =>
      by_cases blank : isBlank character = true
      · simp [blank, inductionHypothesis]
      · simp [blank]

/-- Nothing is left of a text exactly when it has no character but blanks. -/
@[simp]
theorem trimmed_eq_nil_iff (text : List Char) :
    trimmed text = [] ↔ ∀ character ∈ text, isBlank character = true := by
  rw [trimmed, List.reverse_eq_nil_iff, dropWhile_isBlank_eq_nil_iff]
  simp [forall_mem_dropWhile_isBlank_iff]

end Trampoline.Text
