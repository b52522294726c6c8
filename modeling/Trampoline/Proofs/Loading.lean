import Mathlib.Data.Nat.Digits.Defs
import Trampoline.Host.Reply

/-!
Settings that are loaded from variables, against a grammar.

Variables are read from left to right, up to the first fault.  The grammar says of a whole text what
it stands for: a capacity is a numeral with blanks around it, and a name any text that is not blank.
What is no such text is refused, and for one reason: first because the capacity cannot be read, then
because it is out of bounds, then because the name is blank.
-/

namespace Trampoline

namespace Text

/-! ### Blanks around a text -/

/-- The second text is the first one without the blanks around it. -/
structure Trims (text core : List Char) : Prop where
  between : ∃ before after, text = before ++ (core ++ after) ∧
    (∀ character ∈ before, isBlank character = true) ∧
      ∀ character ∈ after, isBlank character = true
  first : ∀ character ∈ core.head?, isBlank character = false
  last : ∀ character ∈ core.getLast?, isBlank character = false

theorem dropWhile_isBlank_append {before core : List Char}
    (blank : ∀ character ∈ before, isBlank character = true)
    (first : ∀ character ∈ core.head?, isBlank character = false) :
    (before ++ core).dropWhile isBlank = core := by
  rw [List.dropWhile_append_of_pos blank]
  cases core with
  | nil => rfl
  | cons character rest => rw [List.dropWhile_cons_of_neg (by simpa using first character rfl)]

theorem exists_eq_append_dropWhile_isBlank (text : List Char) :
    ∃ before, text = before ++ text.dropWhile isBlank ∧
      (∀ character ∈ before, isBlank character = true) ∧
        ∀ character ∈ (text.dropWhile isBlank).head?, isBlank character = false := by
  refine ⟨text.takeWhile isBlank, List.takeWhile_append_dropWhile.symm, ?_, ?_⟩
  · exact List.all_eq_true.1 List.all_takeWhile
  · intro character member
    have first := List.head?_dropWhile_not isBlank text
    rw [Option.mem_def] at member
    simpa [member] using first

theorem trims_iff {text core : List Char} : Trims text core ↔ trimmed text = core := by
  constructor
  · rintro ⟨⟨before, after, rfl, blankBefore, blankAfter⟩, first, last⟩
    cases core with
    | nil =>
        rw [trimmed_eq_nil_iff]
        intro character member
        rw [List.nil_append, List.mem_append] at member
        exact member.elim (blankBefore character) (blankAfter character)
    | cons character rest =>
        have lastFirst : ∀ other ∈ (character :: rest).reverse.head?, isBlank other = false := by
          rwa [List.head?_reverse]
        have blankReversed : ∀ other ∈ after.reverse, isBlank other = true := by
          simpa using blankAfter
        rw [trimmed, dropWhile_isBlank_append blankBefore (by simpa using first),
          List.reverse_append, dropWhile_isBlank_append blankReversed lastFirst,
          List.reverse_reverse]
  · rintro rfl
    obtain ⟨before, front, blankBefore, first⟩ := exists_eq_append_dropWhile_isBlank text
    obtain ⟨after, back, blankAfter, last⟩ :=
      exists_eq_append_dropWhile_isBlank (text.dropWhile isBlank).reverse
    have rest : text.dropWhile isBlank = trimmed text ++ after.reverse := by
      rw [← List.reverse_reverse (text.dropWhile isBlank), back, List.reverse_append]
      rfl
    refine ⟨⟨before, after.reverse, ?_, blankBefore, by simpa using blankAfter⟩, ?_, ?_⟩
    · rw [← rest]
      exact front
    · intro character member
      apply first
      rw [rest, List.head?_append, Option.mem_def.1 member]
      rfl
    · rw [trimmed, List.getLast?_reverse]
      exact last

/-! ### Numerals -/

def decimal (digits : List Char) : Nat :=
  Nat.ofDigits 10 (digits.reverse.map fun digit => digit.toNat - '0'.toNat)

/-- An optional plus sign and one or more decimal digits, with their value. -/
inductive Numeral : List Char → Nat → Prop
  | plain {digits} (some : digits ≠ []) (each : ∀ digit ∈ digits, digit.isDigit = true) :
      Numeral digits (decimal digits)
  | signed {digits} (some : digits ≠ []) (each : ∀ digit ∈ digits, digit.isDigit = true) :
      Numeral ('+' :: digits) (decimal digits)

/-- A text starts, after a sign or none, with digits of too large a value. -/
inductive Overflows : List Char → Prop
  | plain {digits rest} (each : ∀ digit ∈ digits, digit.isDigit = true)
      (large : wordBound ≤ decimal digits) : Overflows (digits ++ rest)
  | signed {digits rest} (each : ∀ digit ∈ digits, digit.isDigit = true)
      (large : wordBound ≤ decimal digits) : Overflows ('+' :: (digits ++ rest))

def NumeralFault.Explains (text : List Char) : NumeralFault → Prop
  | .empty => text = []
  | .tooLarge => Overflows text
  | .invalidDigit => text ≠ [] ∧ ¬Overflows text ∧ ∀ value, ¬Numeral text value

theorem decimal_cons (digit : Char) (digits : List Char) :
    decimal (digit :: digits) =
      (digit.toNat - '0'.toNat) * 10 ^ digits.length + decimal digits := by
  simp only [decimal, List.reverse_cons, List.map_append, List.map_cons, List.map_nil,
    Nat.ofDigits_append, Nat.ofDigits_singleton, List.length_map, List.length_reverse]
  rw [Nat.add_comm, Nat.mul_comm]

theorem digitValue?_of_isDigit {character : Char} (isDigit : character.isDigit = true) :
    digitValue? character = some (character.toNat - '0'.toNat) := if_pos isDigit

theorem digitValue?_of_not_isDigit {character : Char} (other : character.isDigit = false) :
    digitValue? character = none := if_neg (by simp [other])

def decimalAfter (value : Nat) (digits : List Char) : Nat :=
  value * 10 ^ digits.length + decimal digits

theorem decimalAfter_zero (digits : List Char) : decimalAfter 0 digits = decimal digits := by
  simp [decimalAfter]

theorem decimalAfter_nil (value : Nat) : decimalAfter value [] = value := by
  simp [decimalAfter, decimal]

theorem decimalAfter_cons (value : Nat) (digit : Char) (digits : List Char) :
    decimalAfter value (digit :: digits) =
      decimalAfter (value * 10 + (digit.toNat - '0'.toNat)) digits := by
  rw [decimalAfter, decimalAfter, decimal_cons, List.length_cons, pow_succ']
  ring

theorem le_decimalAfter (value : Nat) (digits : List Char) : value ≤ decimalAfter value digits :=
  Nat.le_add_right_of_le (Nat.le_mul_of_pos_right _ (Nat.pow_pos (by decide)))

theorem readDigits_eq_ok_iff {value result : Nat} {digits : List Char} (small : value < wordBound) :
    readDigits value digits = .ok result ↔
      (∀ digit ∈ digits, digit.isDigit = true) ∧ result < wordBound ∧
        result = decimalAfter value digits := by
  induction digits generalizing value with
  | nil =>
      simp only [readDigits, Except.ok.injEq, List.not_mem_nil, false_implies, implies_true,
        true_and, decimalAfter_nil]
      exact ⟨fun same => ⟨same ▸ small, same.symm⟩, fun same => same.2.symm⟩
  | cons character rest inductionHypothesis =>
      rw [readDigits]
      cases isDigit : character.isDigit with
      | false => simp [digitValue?_of_not_isDigit isDigit, isDigit]
      | true =>
          simp only [digitValue?_of_isDigit isDigit, decimalAfter_cons]
          split
          · rename_i fits
            rw [inductionHypothesis fits]
            simp [isDigit]
          · rename_i large
            have grows := le_decimalAfter (value * 10 + (character.toNat - '0'.toNat)) rest
            simp only [reduceCtorEq, false_iff, not_and]
            omega

def OverflowsAfter (value : Nat) (text : List Char) : Prop :=
  ∃ digits rest, text = digits ++ rest ∧ (∀ digit ∈ digits, digit.isDigit = true) ∧
    wordBound ≤ decimalAfter value digits

theorem not_overflowsAfter_nil {value : Nat} (small : value < wordBound) :
    ¬OverflowsAfter value [] := by
  rintro ⟨digits, rest, split, -, large⟩
  obtain ⟨rfl, rfl⟩ := List.append_eq_nil_iff.1 split.symm
  rw [decimalAfter_nil] at large
  omega

theorem overflowsAfter_cons {value : Nat} (small : value < wordBound) (character : Char)
    (text : List Char) :
    OverflowsAfter value (character :: text) ↔ character.isDigit = true ∧
      OverflowsAfter (value * 10 + (character.toNat - '0'.toNat)) text := by
  constructor
  · rintro ⟨_ | ⟨digit, digits⟩, rest, split, each, large⟩
    · rw [decimalAfter_nil] at large
      omega
    · obtain ⟨rfl, rfl⟩ := List.cons_eq_cons.1 split
      obtain ⟨isDigit, others⟩ := List.forall_mem_cons.1 each
      rw [decimalAfter_cons] at large
      exact ⟨isDigit, digits, rest, rfl, others, large⟩
  · rintro ⟨isDigit, digits, rest, rfl, each, large⟩
    refine ⟨character :: digits, rest, rfl, List.forall_mem_cons.2 ⟨isDigit, each⟩, ?_⟩
    rwa [decimalAfter_cons]

theorem readDigits_eq_tooLarge_iff {value : Nat} {text : List Char} (small : value < wordBound) :
    readDigits value text = .error .tooLarge ↔ OverflowsAfter value text := by
  induction text generalizing value with
  | nil => simp [readDigits, not_overflowsAfter_nil small]
  | cons character rest inductionHypothesis =>
      rw [readDigits, overflowsAfter_cons small]
      cases isDigit : character.isDigit with
      | false => simp [digitValue?_of_not_isDigit isDigit]
      | true =>
          simp only [digitValue?_of_isDigit isDigit, true_and]
          split
          · rename_i fits
            exact inductionHypothesis fits
          · rename_i large
            refine iff_of_true rfl ⟨[], rest, rfl, nofun, ?_⟩
            rw [decimalAfter_nil]
            omega

theorem readDigits_ne_empty (value : Nat) (text : List Char) :
    readDigits value text ≠ .error .empty := by
  fun_induction readDigits value text <;> simp_all

def unsigned : List Char → List Char
  | '+' :: digits => digits
  | digits => digits

theorem unsigned_cases (text : List Char) :
    text = '+' :: unsigned text ∨ text = unsigned text := by
  unfold unsigned
  split
  · exact .inl rfl
  · exact .inr rfl

theorem unsigned_append {digits : List Char} (each : ∀ digit ∈ digits, digit.isDigit = true)
    (some : digits ≠ []) (rest : List Char) : unsigned (digits ++ rest) = digits ++ rest := by
  cases digits with
  | nil => exact absurd rfl some
  | cons digit digits =>
      have isDigit := each digit (.head _)
      rw [List.cons_append]
      unfold unsigned
      split
      · rename_i same
        cases same
        cases isDigit
      · rfl

theorem numeral_iff {text : List Char} {value : Nat} :
    Numeral text value ↔ unsigned text ≠ [] ∧
      (∀ digit ∈ unsigned text, digit.isDigit = true) ∧ value = decimal (unsigned text) := by
  constructor
  · rintro (⟨some, each⟩ | ⟨some, each⟩)
    · have same := unsigned_append each some []
      rw [List.append_nil] at same
      rw [same]
      exact ⟨some, each, rfl⟩
    · exact ⟨some, each, rfl⟩
  · rintro ⟨some, each, rfl⟩
    rcases unsigned_cases text with signed | plain
    · rw [signed]
      exact .signed some each
    · have numeral := Numeral.plain some each
      rwa [← plain] at numeral ⊢

theorem overflows_iff {text : List Char} : Overflows text ↔ OverflowsAfter 0 (unsigned text) := by
  constructor
  · rintro (@⟨digits, rest, each, large⟩ | @⟨digits, rest, each, large⟩)
    · have some : digits ≠ [] := by
        rintro rfl
        exact absurd large (by decide)
      rw [unsigned_append each some]
      exact ⟨digits, rest, rfl, each, by rwa [decimalAfter_zero]⟩
    · exact ⟨digits, rest, rfl, each, by rwa [decimalAfter_zero]⟩
  · rintro ⟨digits, rest, split, each, large⟩
    rw [decimalAfter_zero] at large
    rcases unsigned_cases text with signed | plain
    · rw [signed, split]
      exact .signed each large
    · rw [plain, split]
      exact .plain each large

theorem readNumeral_eq (text : List Char) :
    readNumeral text =
      if text = [] then .error .empty
      else if unsigned text = [] then .error .invalidDigit
      else readDigits 0 (unsigned text) := by
  unfold readNumeral
  split
  · rfl
  · rfl
  · rename_i digits lone
    have some : digits ≠ [] := by
      rintro rfl
      exact lone rfl
    rw [if_neg (List.cons_ne_nil _ _), unsigned, if_neg some]
  · rename_i some lone signed
    have plain : unsigned text = text := by
      unfold unsigned
      split
      · exact absurd rfl (signed _)
      · rfl
    rw [plain, if_neg some, if_neg some]

theorem readNumeral_eq_ok_iff {text : List Char} {value : Nat} :
    readNumeral text = .ok value ↔ Numeral text value ∧ value < wordBound := by
  rw [readNumeral_eq, numeral_iff]
  split
  · rename_i none
    simp [none, unsigned]
  · split
    · rename_i none
      simp [none]
    · rename_i some
      rw [readDigits_eq_ok_iff (by decide), decimalAfter_zero]
      tauto

theorem readNumeral_eq_empty_iff {text : List Char} :
    readNumeral text = .error .empty ↔ text = [] := by
  rw [readNumeral_eq]
  split
  · rename_i none
    simp [none]
  · rename_i some
    split <;> simp [some, readDigits_ne_empty]

theorem readNumeral_eq_tooLarge_iff {text : List Char} :
    readNumeral text = .error .tooLarge ↔ Overflows text := by
  have nothing : ¬OverflowsAfter 0 [] := not_overflowsAfter_nil (by decide)
  rw [readNumeral_eq, overflows_iff]
  split
  · rename_i none
    simp [none, unsigned, nothing]
  · split
    · rename_i none
      simp [none, nothing]
    · exact readDigits_eq_tooLarge_iff (by decide)

theorem Numeral.overflows {text : List Char} {value : Nat} (numeral : Numeral text value)
    (large : wordBound ≤ value) : Overflows text := by
  obtain ⟨-, each, rfl⟩ := numeral_iff.1 numeral
  exact overflows_iff.2 ⟨unsigned text, [], (List.append_nil _).symm, each,
    by rwa [decimalAfter_zero]⟩

theorem readNumeral_eq_error_iff {text : List Char} {fault : NumeralFault} :
    readNumeral text = .error fault ↔
      (∀ value, Numeral text value → wordBound ≤ value) ∧ fault.Explains text := by
  constructor
  · intro refused
    have large : ∀ value, Numeral text value → wordBound ≤ value := by
      intro value numeral
      by_contra small
      have read := readNumeral_eq_ok_iff.2 ⟨numeral, Nat.lt_of_not_le small⟩
      rw [refused] at read
      cases read
    refine ⟨large, ?_⟩
    cases fault with
    | empty => exact readNumeral_eq_empty_iff.1 refused
    | tooLarge => exact readNumeral_eq_tooLarge_iff.1 refused
    | invalidDigit =>
        have fits : ¬Overflows text := by
          rw [← readNumeral_eq_tooLarge_iff, refused]
          simp
        refine ⟨?_, fits, fun value numeral => fits (numeral.overflows (large value numeral))⟩
        rw [Ne, ← readNumeral_eq_empty_iff, refused]
        simp
  · rintro ⟨-, explains⟩
    cases fault with
    | empty => exact readNumeral_eq_empty_iff.2 explains
    | tooLarge => exact readNumeral_eq_tooLarge_iff.2 explains
    | invalidDigit =>
        obtain ⟨some, fits, other⟩ := explains
        cases read : readNumeral text with
        | ok value => exact absurd (readNumeral_eq_ok_iff.1 read).1 (other value)
        | error fault =>
            cases fault with
            | empty => exact absurd (readNumeral_eq_empty_iff.1 read) some
            | tooLarge => exact absurd (readNumeral_eq_tooLarge_iff.1 read) fits
            | invalidDigit => rfl

end Text

namespace Settings

/-! ### Variables -/

namespace Variables

/-- A variable asks for nothing: it is unset, or holds what is the encoding of no text. -/
def Unset (value : Option ByteArray) : Prop :=
  ∀ text : String, value ≠ some text.toUTF8

def Reads (given : Variables) (core : List Char) : Prop :=
  ∃ text : String, given.capacity = some text.toUTF8 ∧ Text.Trims text.toList core

inductive AsksCapacity (given : Variables) : Nat → Prop
  | unset (unset : Unset given.capacity) : AsksCapacity given 16
  | numeral {core capacity} (reads : given.Reads core) (numeral : Text.Numeral core capacity)
      (word : capacity < Text.wordBound) : AsksCapacity given capacity

inductive AsksLabel (given : Variables) : String → Prop
  | unset (unset : Unset given.label) : AsksLabel given "effect-worker"
  | set {label : String} (set : given.label = some label.toUTF8) : AsksLabel given label

/-- The variables ask for settings that can be used. -/
structure Asks (given : Variables) (settings : Settings) : Prop where
  capacity : given.AsksCapacity settings.stackCapacity
  atLeast : 1 ≤ settings.stackCapacity
  atMost : settings.stackCapacity ≤ 1024 * 1024
  label : given.AsksLabel settings.threadLabel
  shown : ∃ character ∈ settings.threadLabel.toList, Text.isBlank character = false

/-- Why the variables ask for nothing that can be used.  What the name is matters only to the last
reason. -/
inductive Refused (given : Variables) : Fault → Prop
  | unreadable {core} {fault : Text.NumeralFault} (reads : given.Reads core)
      (large : ∀ capacity, Text.Numeral core capacity → Text.wordBound ≤ capacity)
      (explains : fault.Explains core) :
      Refused given (.unreadable "EFFECT_INITIAL_STACK_CAPACITY" fault.message)
  | tooSmall (capacity : given.AsksCapacity 0) :
      Refused given (.invalid "initial_stack_capacity" "must be at least 1")
  | tooLarge {asked} (capacity : given.AsksCapacity asked) (large : 1024 * 1024 < asked) :
      Refused given (.invalid "initial_stack_capacity" "must be at most 1048576")
  | blank {asked} {label : String} (capacity : given.AsksCapacity asked) (atLeast : 1 ≤ asked)
      (atMost : asked ≤ 1024 * 1024) (set : given.AsksLabel label)
      (blank : ∀ character ∈ label.toList, Text.isBlank character = true) :
      Refused given (.invalid "thread_name_prefix" "must not be empty")

variable {given : Variables} {settings : Settings} {fault : Fault}

theorem text?_eq_some_iff {value : Option ByteArray} {text : String} :
    text? value = some text ↔ value = some text.toUTF8 := by
  constructor
  · intro found
    obtain ⟨bytes, rfl, decoded⟩ := Option.bind_eq_some_iff.1 found
    unfold String.fromUTF8? at decoded
    split at decoded
    · cases decoded
      rfl
    · cases decoded
  · rintro rfl
    exact dif_pos text.isValidUTF8

theorem text?_eq_none_iff {value : Option ByteArray} : text? value = none ↔ Unset value := by
  rw [Option.eq_none_iff_forall_ne_some]
  simp only [Unset, ne_eq, text?_eq_some_iff]

theorem asksLabel_iff {label : String} :
    given.AsksLabel label ↔ (text? given.label).getD "effect-worker" = label := by
  constructor
  · rintro (unset | set)
    · rw [text?_eq_none_iff.2 unset, Option.getD_none]
    · rw [text?_eq_some_iff.2 set, Option.getD_some]
  · rintro rfl
    cases found : text? given.label with
    | none => exact .unset (text?_eq_none_iff.1 found)
    | some text => exact .set (text?_eq_some_iff.1 found)

theorem reads_iff {core : List Char} :
    given.Reads core ↔ ∃ text, text? given.capacity = some text ∧ Text.trimmed text.toList = core := by
  simp only [Reads, text?_eq_some_iff, Text.trims_iff]

theorem asksCapacity_iff {capacity : Nat} :
    given.AsksCapacity capacity ↔ ∃ asked, given.capacity? = .ok asked ∧ asked.getD 16 = capacity := by
  unfold capacity?
  constructor
  · rintro (unset | ⟨reads, numeral, word⟩)
    · rw [text?_eq_none_iff.2 unset]
      exact ⟨none, rfl, rfl⟩
    · obtain ⟨text, found, rfl⟩ := reads_iff.1 reads
      rw [found]
      dsimp only
      rw [Text.readNumeral_eq_ok_iff.2 ⟨numeral, word⟩]
      exact ⟨some capacity, rfl, rfl⟩
  · rintro ⟨asked, read, rfl⟩
    split at read
    · rename_i missing
      cases read
      exact .unset (text?_eq_none_iff.1 missing)
    · rename_i text found
      split at read
      · rename_i capacity numeral
        cases read
        obtain ⟨numeral, word⟩ := Text.readNumeral_eq_ok_iff.1 numeral
        exact .numeral (reads_iff.2 ⟨text, found, rfl⟩) numeral word
      · cases read

theorem capacity?_eq_error_iff :
    given.capacity? = .error fault ↔ ∃ core numeralFault, given.Reads core ∧
      Text.readNumeral core = .error numeralFault ∧
        fault = .unreadable capacityVariable numeralFault.message := by
  unfold capacity?
  constructor
  · intro refused
    split at refused
    · cases refused
    · rename_i text found
      split at refused
      · cases refused
      · rename_i numeralFault read
        cases refused
        exact ⟨_, numeralFault, reads_iff.2 ⟨text, found, rfl⟩, read, rfl⟩
  · rintro ⟨core, numeralFault, reads, read, rfl⟩
    obtain ⟨text, found, rfl⟩ := reads_iff.1 reads
    rw [found]
    dsimp only
    rw [read]

end Variables

theorem fault?_cases (capacity : Nat) (label : String) :
    let found := fault? ⟨capacity, label⟩
    capacity = 0 ∧ found = some (.invalid "initial_stack_capacity" "must be at least 1") ∨
      1024 * 1024 < capacity ∧
        found = some (.invalid "initial_stack_capacity" "must be at most 1048576") ∨
      1 ≤ capacity ∧ capacity ≤ 1024 * 1024 ∧
        ((∀ character ∈ label.toList, Text.isBlank character = true) ∧
            found = some (.invalid "thread_name_prefix" "must not be empty") ∨
          (∃ character ∈ label.toList, Text.isBlank character = false) ∧ found = none) := by
  intro found
  by_cases zero : capacity = 0
  · exact .inl ⟨zero, if_pos zero⟩
  · by_cases large : 1024 * 1024 < capacity
    · exact .inr (.inl ⟨large, (if_neg zero).trans (if_pos large)⟩)
    · refine .inr (.inr ⟨Nat.pos_of_ne_zero zero, Nat.le_of_not_lt large, ?_⟩)
      have labelOnly : found = if Text.trimmed label.toList = [] then
          some (.invalid "thread_name_prefix" "must not be empty") else none :=
        (if_neg zero).trans (if_neg large)
      by_cases blank : Text.trimmed label.toList = []
      · exact .inl ⟨(Text.trimmed_eq_nil_iff _).1 blank, labelOnly.trans (if_pos blank)⟩
      · refine .inr ⟨?_, labelOnly.trans (if_neg blank)⟩
        simpa using blank

namespace Variables

variable {given : Variables} {settings : Settings} {fault : Fault}

/-- Variables whose capacity can be read ask for settings, which are checked. -/
theorem settings_eq_checked {capacity : Nat} {label : String}
    (asksCapacity : given.AsksCapacity capacity) (asksLabel : given.AsksLabel label) :
    given.settings = checked ⟨capacity, label⟩ := by
  obtain ⟨asked, read, rfl⟩ := asksCapacity_iff.1 asksCapacity
  rw [← asksLabel_iff.1 asksLabel, settings, read]

theorem exists_asksLabel (given : Variables) : ∃ label, given.AsksLabel label :=
  ⟨_, asksLabel_iff.2 rfl⟩

theorem settings_cases (given : Variables) :
    (∃ capacity, given.AsksCapacity capacity) ∨
      ∃ core numeralFault, given.Reads core ∧ Text.readNumeral core = .error numeralFault ∧
        given.settings = .error (.unreadable capacityVariable numeralFault.message) := by
  cases read : given.capacity? with
  | ok asked => exact .inl ⟨_, asksCapacity_iff.2 ⟨asked, read, rfl⟩⟩
  | error fault =>
      obtain ⟨core, numeralFault, reads, refused, rfl⟩ := capacity?_eq_error_iff.1 read
      refine .inr ⟨core, numeralFault, reads, refused, ?_⟩
      rw [Variables.settings, read]

theorem checked_eq_error_iff : settings.checked = .error fault ↔ settings.fault? = some fault := by
  unfold checked
  split <;> simp_all

theorem settings_eq_ok_iff : given.settings = .ok settings ↔ given.Asks settings := by
  constructor
  · intro loaded
    obtain ⟨label, asksLabel⟩ := exists_asksLabel given
    rcases settings_cases given with ⟨capacity, asksCapacity⟩ | ⟨_, _, _, _, refused⟩
    · rw [settings_eq_checked asksCapacity asksLabel, checked_eq_ok_iff] at loaded
      obtain ⟨sound, rfl⟩ := loaded
      rcases fault?_cases capacity label with
        ⟨_, found⟩ | ⟨_, found⟩ | ⟨atLeast, atMost, ⟨_, found⟩ | ⟨shown, _⟩⟩
      · simp [sound] at found
      · simp [sound] at found
      · simp [sound] at found
      · exact ⟨asksCapacity, atLeast, atMost, asksLabel, shown⟩
    · rw [refused] at loaded
      cases loaded
  · rintro ⟨asksCapacity, atLeast, atMost, asksLabel, character, member, shown⟩
    rw [settings_eq_checked asksCapacity asksLabel, checked_eq_ok_iff]
    rcases fault?_cases settings.stackCapacity settings.threadLabel with
      ⟨none, _⟩ | ⟨large, _⟩ | ⟨_, _, ⟨blank, _⟩ | ⟨_, sound⟩⟩
    · omega
    · omega
    · rw [blank character member] at shown
      cases shown
    · exact ⟨sound, rfl⟩

theorem settings_eq_error_iff : given.settings = .error fault ↔ given.Refused fault := by
  constructor
  · intro refused
    obtain ⟨label, asksLabel⟩ := exists_asksLabel given
    rcases settings_cases given with
      ⟨capacity, asksCapacity⟩ | ⟨core, numeralFault, reads, unread, same⟩
    · rw [settings_eq_checked asksCapacity asksLabel, checked_eq_error_iff] at refused
      rcases fault?_cases capacity label with
        ⟨none, found⟩ | ⟨large, found⟩ | ⟨atLeast, atMost, ⟨blank, found⟩ | ⟨_, found⟩⟩
      · obtain rfl : capacity = 0 := none
        cases refused.symm.trans found
        exact .tooSmall asksCapacity
      · cases refused.symm.trans found
        exact .tooLarge asksCapacity large
      · cases refused.symm.trans found
        exact .blank asksCapacity atLeast atMost asksLabel blank
      · cases refused.symm.trans found
    · cases refused.symm.trans same
      obtain ⟨large, explains⟩ := Text.readNumeral_eq_error_iff.1 unread
      exact .unreadable reads large explains
  · rintro (⟨reads, large, explains⟩ | asksCapacity | ⟨asksCapacity, large⟩ |
      ⟨asksCapacity, atLeast, atMost, asksLabel, blank⟩)
    · have read := capacity?_eq_error_iff.2 ⟨_, _, reads,
        Text.readNumeral_eq_error_iff.2 ⟨large, explains⟩, rfl⟩
      rw [Variables.settings, read]
      rfl
    · obtain ⟨label, asksLabel⟩ := exists_asksLabel given
      rw [settings_eq_checked asksCapacity asksLabel, checked_eq_error_iff]
      rcases fault?_cases 0 label with ⟨_, found⟩ | ⟨large, _⟩ | ⟨atLeast, _⟩
      · exact found
      · omega
      · omega
    · rename_i capacity
      obtain ⟨label, asksLabel⟩ := exists_asksLabel given
      rw [settings_eq_checked asksCapacity asksLabel, checked_eq_error_iff]
      rcases fault?_cases capacity label with ⟨none, _⟩ | ⟨_, found⟩ | ⟨_, atMost, _⟩
      · omega
      · exact found
      · omega
    · rename_i capacity label
      rw [settings_eq_checked asksCapacity asksLabel, checked_eq_error_iff]
      rcases fault?_cases capacity label with
        ⟨none, _⟩ | ⟨large, _⟩ | ⟨_, _, ⟨_, found⟩ | ⟨shown, _⟩⟩
      · omega
      · omega
      · exact found
      · obtain ⟨character, member, other⟩ := shown
        rw [blank character member] at other
        cases other

theorem reply_settingsFrom_of_ok {Memory : Type} (loaded : given.settings = .ok settings)
    (host : Host Memory) : host.reply (.settingsFrom given) = (settings, host) := by
  simp only [Host.reply, loaded]

theorem reply_settingsFrom_of_error {Memory : Type} (refused : given.settings = .error fault)
    (host : Host Memory) :
    host.reply (.settingsFrom given) = ({}, host.emit (.ignoredVariables fault.shown)) := by
  simp only [Host.reply, refused]

/-- Variables are accepted exactly by the grammar, and refused for the first reason there is; what
cannot be used is replaced by the defaults, with one warning. -/
theorem variables_follow_grammar {Memory : Type} (given : Variables) (host : Host Memory) :
    (∀ settings, given.settings = .ok settings ↔ given.Asks settings) ∧
    (∀ fault, given.settings = .error fault ↔ given.Refused fault) ∧
    (∀ settings, given.Asks settings → host.reply (.settingsFrom given) = (settings, host)) ∧
    (∀ fault, given.Refused fault →
      let warning : Event := .ignoredVariables fault.shown
      warning.level = .warn ∧
        host.reply (.settingsFrom given) = (⟨16, "effect-worker"⟩, host.emit warning)) ∧
    (host.reply (.settingsFrom given)).1.fault? = none := by
  refine ⟨fun settings => settings_eq_ok_iff, fun fault => settings_eq_error_iff, ?_, ?_, ?_⟩
  · intro settings asks
    exact reply_settingsFrom_of_ok (settings_eq_ok_iff.2 asks) host
  · intro fault refused
    exact ⟨rfl, reply_settingsFrom_of_error (settings_eq_error_iff.2 refused) host⟩
  · cases loaded : given.settings with
    | ok settings =>
        have checked : ∃ asked, checked asked = .ok settings := by
          unfold Variables.settings at loaded
          split at loaded
          · cases loaded
          · exact ⟨_, loaded⟩
        obtain ⟨asked, checked⟩ := checked
        obtain ⟨sound, rfl⟩ := (checked_eq_ok_iff asked settings).1 checked
        rw [reply_settingsFrom_of_ok loaded]
        exact sound
    | error fault =>
        rw [reply_settingsFrom_of_error loaded]
        exact fault?_default

/-- A lone sign and a value of 2^64 cannot be read; blanks and leading zeros are no matter. -/
example :
    [(Text.readNumeral (Text.trimmed "+".toList)), Text.readNumeral "18446744073709551616".toList,
        Text.readNumeral (Text.trimmed "\u2003+0064 ".toList)] =
      [.error .invalidDigit, .error .tooLarge, .ok 64] := by
  cbv

end Variables

end Settings

end Trampoline
