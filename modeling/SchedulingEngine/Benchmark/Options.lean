import Mathlib.Data.List.TakeWhile
import SchedulingEngine.Queue.TaskQueue

/-!
# Numeric options (benchmark_scheduler.c)

A text is the list of its characters before the terminating `NUL`. `strtoumax` follows the C
standard in base ten: it skips white space, reads an optional sign and the longest run of digits,
and negates in the unsigned type. `parse_size` looks at the first character of the text, at the
first character that was not read, and at the value.

`scanNumeral` finds the only way to read a text as white space, sign and digits
(`scanNumeral_append`), so what the text denotes can be compared with what was stored.
-/

namespace SchedulingEngine

/-! ## strtoumax -/

/-- `isspace` in the C locale. -/
def isSpace (c : Char) : Bool := c = ' ' || (9 ≤ c.toNat && c.toNat ≤ 13)

/-- The value of a run of decimal digits. -/
def decimalValue (digits : List Char) : ℕ :=
  digits.foldl (fun value digit => 10 * value + (digit.toNat - 48)) 0

/-- How `strtoumax` divides a text. -/
structure NumeralScan where
  spaces : List Char
  sign : List Char
  digits : List Char
  rest : List Char
  deriving DecidableEq, Repr

/-- The optional sign at the front. -/
def scanSign : List Char → List Char
  | '-' :: _ => ['-']
  | '+' :: _ => ['+']
  | _ => []

def scanNumeral (text : List Char) : NumeralScan :=
  let afterSpaces := text.dropWhile isSpace
  let afterSign := afterSpaces.drop (scanSign afterSpaces).length
  { spaces := text.takeWhile isSpace
    sign := scanSign afterSpaces
    digits := afterSign.takeWhile Char.isDigit
    rest := afterSign.dropWhile Char.isDigit }

/-- `UINTMAX_MAX`. -/
def uintmaxMax : ℕ := 2 ^ 64 - 1

/-- What `strtoumax` answers: the value, how far `end` was moved, and whether `errno` is
`ERANGE`. -/
structure Strtoumax where
  value : ℕ
  consumed : ℕ
  rangeError : Bool
  deriving DecidableEq, Repr

/-- `strtoumax(text, &end, 10)`. -/
def strtoumax (text : List Char) : Strtoumax :=
  let scan := scanNumeral text
  let magnitude := decimalValue scan.digits
  let consumed := text.length - scan.rest.length
  if scan.digits = [] then { value := 0, consumed := 0, rangeError := false }
  else if magnitude > uintmaxMax then { value := uintmaxMax, consumed, rangeError := true }
  else
    { value := if scan.sign = ['-'] then (2 ^ 64 - magnitude) % 2 ^ 64 else magnitude
      consumed
      rangeError := false }

/-- `parse_size(text, &value)`: the result and what is stored in `value` afterwards. -/
def parseSize (text : Option (List Char)) (value : ℕ) : Bool × ℕ :=
  match text with
  | none => (false, value)
  | some text =>
    if text.head? = none ∨ text.head? = some '-' then (false, value)
    else
      let parsed := strtoumax text
      if parsed.rangeError = true ∨ parsed.consumed = 0 ∨ text[parsed.consumed]? ≠ none
          ∨ parsed.value = 0 ∨ parsed.value > sizeMax then (false, value)
      else (true, parsed.value)

/-! ## Reading a text -/

/-- White space, an optional sign, and at least one digit. -/
structure Numeral (spaces sign digits : List Char) : Prop where
  blank : ∀ c ∈ spaces, isSpace c = true
  signed : sign = [] ∨ sign = ['+'] ∨ sign = ['-']
  decimal : ∀ c ∈ digits, c.isDigit = true
  nonempty : digits ≠ []

/-- The whole text denotes the integer `n`. -/
def Denotes (text : List Char) (n : ℤ) : Prop :=
  ∃ spaces sign digits, Numeral spaces sign digits ∧ text = spaces ++ sign ++ digits ∧
    n = if sign = ['-'] then -(decimalValue digits : ℤ) else decimalValue digits

theorem isSpace_of_isDigit {c : Char} (h : c.isDigit = true) : isSpace c = false := by
  have hrange : 48 ≤ c.toNat := by
    simp only [Char.isDigit, Bool.and_eq_true, decide_eq_true_eq] at h
    exact h.1
  have hspace : c ≠ ' ' := by
    rintro rfl
    exact absurd hrange (by decide)
  simp only [isSpace, hspace, decide_false, Bool.false_or, Bool.and_eq_false_iff,
    decide_eq_false_iff_not]
  omega

theorem scanSign_append {sign digits : List Char} (hsign : sign = [] ∨ sign = ['+'] ∨ sign = ['-'])
    (hdigits : ∀ c ∈ digits, c.isDigit = true) : scanSign (sign ++ digits) = sign := by
  rcases hsign with rfl | rfl | rfl
  · cases digits with
    | nil => rfl
    | cons c cs =>
      have hc := hdigits c List.mem_cons_self
      rw [List.nil_append]
      unfold scanSign
      split
      · rename_i heq
        cases heq
        exact absurd hc (by decide)
      · rename_i heq
        cases heq
        exact absurd hc (by decide)
      · rfl
  · rfl
  · rfl

/-- **A text is read in one way only.** -/
theorem scanNumeral_append {spaces sign digits : List Char} (h : Numeral spaces sign digits) :
    scanNumeral (spaces ++ sign ++ digits) = ⟨spaces, sign, digits, []⟩ := by
  have hstop : ∀ c, (sign ++ digits).head? = some c → isSpace c = false := by
    intro c hc
    rcases h.signed with hs | hs | hs
    · rw [hs, List.nil_append] at hc
      exact isSpace_of_isDigit (h.decimal c (List.mem_of_mem_head? hc))
    · rw [hs] at hc
      cases hc
      decide
    · rw [hs] at hc
      cases hc
      decide
  have htake : (sign ++ digits).takeWhile isSpace = [] ∧
      (sign ++ digits).dropWhile isSpace = sign ++ digits := by
    cases hlist : sign ++ digits with
    | nil => exact ⟨rfl, rfl⟩
    | cons c cs =>
      have hc := hstop c (by rw [hlist]; rfl)
      simp [hc]
  have hspaces : (spaces ++ (sign ++ digits)).dropWhile isSpace = sign ++ digits := by
    rw [List.dropWhile_append_of_pos h.blank, htake.2]
  unfold scanNumeral
  rw [List.append_assoc]
  simp only [hspaces, scanSign_append h.signed h.decimal, List.drop_left]
  rw [List.takeWhile_append_of_pos h.blank, htake.1, List.append_nil,
    List.takeWhile_eq_self_iff.mpr h.decimal, List.dropWhile_eq_nil_iff.mpr h.decimal]

theorem scanSign_spec (text : List Char) :
    (scanSign text = [] ∨ scanSign text = ['+'] ∨ scanSign text = ['-']) ∧
      scanSign text ++ text.drop (scanSign text).length = text := by
  unfold scanSign
  split
  · exact ⟨.inr (.inr rfl), rfl⟩
  · exact ⟨.inr (.inl rfl), rfl⟩
  · exact ⟨.inl rfl, rfl⟩

/-- The scan loses nothing of the text. -/
theorem scanNumeral_text (text : List Char) :
    (scanNumeral text).spaces ++ (scanNumeral text).sign ++ (scanNumeral text).digits
      ++ (scanNumeral text).rest = text := by
  simp only [scanNumeral, List.append_assoc, List.takeWhile_append_dropWhile]
  rw [(scanSign_spec _).2, List.takeWhile_append_dropWhile]

theorem scanNumeral_numeral {text : List Char} (h : (scanNumeral text).digits ≠ []) :
    Numeral (scanNumeral text).spaces (scanNumeral text).sign (scanNumeral text).digits :=
  ⟨fun _ hc => List.mem_takeWhile_imp hc, (scanSign_spec _).1,
    fun _ hc => List.mem_takeWhile_imp hc, h⟩

/-- The only integer that a text can denote. -/
theorem denotes_iff {text : List Char} {n : ℤ} :
    Denotes text n ↔ (scanNumeral text).digits ≠ [] ∧ (scanNumeral text).rest = [] ∧
      n = if (scanNumeral text).sign = ['-'] then -(decimalValue (scanNumeral text).digits : ℤ)
        else decimalValue (scanNumeral text).digits := by
  constructor
  · rintro ⟨spaces, sign, digits, hnumeral, rfl, rfl⟩
    rw [scanNumeral_append hnumeral]
    exact ⟨hnumeral.nonempty, rfl, rfl⟩
  · rintro ⟨hdigits, hrest, rfl⟩
    have htext := scanNumeral_text text
    rw [hrest, List.append_nil] at htext
    exact ⟨_, _, _, scanNumeral_numeral hdigits, htext.symm, rfl⟩

/-! ## parse_size -/

/-- White space, a minus sign, and digits for a magnitude from one to `SIZE_MAX`. -/
def NegativeAfterSpace (text : List Char) : Prop :=
  ∃ spaces digits, spaces ≠ [] ∧ Numeral spaces ['-'] digits ∧ text = spaces ++ ['-'] ++ digits ∧
    1 ≤ decimalValue digits ∧ decimalValue digits ≤ sizeMax

/-- Only positive numbers in range are accepted: either the text denotes such a number, which is
stored, or the result is false and nothing is stored. -/
def AcceptsPositive (text : List Char) (value : ℕ) : Prop :=
  (∃ n : ℤ, Denotes text n ∧ 1 ≤ n ∧ n ≤ sizeMax ∧
    parseSize (some text) value = (true, n.toNat)) ∨
  parseSize (some text) value = (false, value)

/-- Where `end` stands when something was read: behind the digits. -/
theorem strtoumax_consumed {text : List Char} (h : (scanNumeral text).digits ≠ []) :
    (strtoumax text).consumed = text.length - (scanNumeral text).rest.length ∧
      0 < (strtoumax text).consumed := by
  have hconsumed : (strtoumax text).consumed = text.length - (scanNumeral text).rest.length := by
    simp only [strtoumax, if_neg h]
    split <;> rfl
  have hlength := congrArg List.length (scanNumeral_text text)
  have hdigits := List.length_pos_iff.mpr h
  simp only [List.length_append] at hlength
  omega

/-- The text was read to its end exactly when `end` points to the terminating `NUL`. -/
theorem getElem?_consumed {text : List Char} (h : (scanNumeral text).digits ≠ []) :
    text[(strtoumax text).consumed]? = none ↔ (scanNumeral text).rest = [] := by
  obtain ⟨hconsumed, hpos⟩ := strtoumax_consumed h
  rw [List.getElem?_eq_none_iff, hconsumed, ← List.length_eq_zero_iff]
  omega

/-- What `parse_size` reads to the end: a numeral in range that does not start with a minus
sign. -/
structure Readable (text : List Char) : Prop where
  head : text.head? ≠ some '-'
  digits : (scanNumeral text).digits ≠ []
  rest : (scanNumeral text).rest = []
  positive : 1 ≤ decimalValue (scanNumeral text).digits
  fits : decimalValue (scanNumeral text).digits ≤ sizeMax

/-- What `strtoumax` makes of such a text. -/
def readValue (text : List Char) : ℕ :=
  if (scanNumeral text).sign = ['-'] then 2 ^ 64 - decimalValue (scanNumeral text).digits
  else decimalValue (scanNumeral text).digits

/-- The value and `errno` for a magnitude in range. -/
theorem strtoumax_of_le {text : List Char} (hdigits : (scanNumeral text).digits ≠ [])
    (hfits : ¬decimalValue (scanNumeral text).digits > uintmaxMax) :
    (strtoumax text).rangeError = false ∧
      (strtoumax text).value = if (scanNumeral text).sign = ['-']
        then (2 ^ 64 - decimalValue (scanNumeral text).digits) % 2 ^ 64
        else decimalValue (scanNumeral text).digits := by
  simp only [strtoumax, if_neg hdigits, if_neg hfits, and_self]

theorem readValue_range {text : List Char} (h : Readable text) :
    1 ≤ readValue text ∧ readValue text ≤ sizeMax := by
  have hmax : sizeMax = 2 ^ 64 - 1 := rfl
  have hpositive := h.positive
  have hfits := h.fits
  unfold readValue
  split <;> omega

theorem parseSize_readable {text : List Char} (h : Readable text) (value : ℕ) :
    parseSize (some text) value = (true, readValue text) := by
  have hpositive := h.positive
  obtain ⟨hrange, hstored⟩ := strtoumax_of_le h.digits (not_lt.mpr h.fits)
  rw [Nat.mod_eq_of_lt (by omega)] at hstored
  have hvalue : (strtoumax text).value = readValue text := hstored
  have hrange' := readValue_range h
  have hhead : text.head? ≠ none := by
    rw [Ne, List.head?_eq_none_iff]
    rintro rfl
    exact h.digits rfl
  have hend := (getElem?_consumed h.digits).mpr h.rest
  have hmoved := (strtoumax_consumed h.digits).2
  simp only [parseSize, hhead, h.head, hrange, hend, hvalue, hmoved.ne', or_self,
    (Nat.pos_iff_ne_zero.mp hrange'.1), not_lt.mpr hrange'.2, if_false, Bool.false_eq_true, ne_eq,
    not_true_eq_false]

theorem parseSize_unreadable {text : List Char} (h : ¬Readable text) (value : ℕ) :
    parseSize (some text) value = (false, value) := by
  by_contra haccepted
  apply h
  simp only [parseSize] at haccepted
  split at haccepted
  · exact absurd rfl haccepted
  · rename_i hhead
    split at haccepted
    · exact absurd rfl haccepted
    · rename_i hread
      push Not at hhead hread
      obtain ⟨herange, hmoved, hend, hvalue, -⟩ := hread
      have hdigits : (scanNumeral text).digits ≠ [] := by
        intro hnone
        exact hmoved (by simp only [strtoumax, if_pos hnone])
      have hfits : ¬decimalValue (scanNumeral text).digits > uintmaxMax := by
        intro hlarge
        exact herange (by simp only [strtoumax, if_neg hdigits, if_pos hlarge])
      have hpositive : 1 ≤ decimalValue (scanNumeral text).digits := by
        by_contra hzero
        apply hvalue
        rw [(strtoumax_of_le hdigits hfits).2,
          show decimalValue (scanNumeral text).digits = 0 by omega]
        split <;> rfl
      exact ⟨hhead.2, hdigits, (getElem?_consumed hdigits).mp hend, hpositive, not_lt.mp hfits⟩

/-- Whatever is stored is a positive `size_t`. -/
theorem parseSize_range {text : List Char} {value n : ℕ}
    (h : parseSize (some text) value = (true, n)) : 1 ≤ n ∧ n ≤ sizeMax := by
  by_cases hread : Readable text
  · rw [parseSize_readable hread] at h
    cases h
    exact readValue_range hread
  · rw [parseSize_unreadable hread] at h
    cases h

/-- A minus sign that `strtoumax` reads but the test of the first character does not see. -/
theorem negativeAfterSpace_iff {text : List Char} :
    NegativeAfterSpace text ↔ Readable text ∧ (scanNumeral text).sign = ['-'] := by
  constructor
  · rintro ⟨spaces, digits, hspaces, hnumeral, rfl, hpositive, hfits⟩
    have hscan := scanNumeral_append hnumeral
    have hhead : (spaces ++ ['-'] ++ digits).head? ≠ some '-' := by
      obtain ⟨c, cs, rfl⟩ := List.exists_cons_of_ne_nil hspaces
      intro hhead
      cases hhead
      exact absurd (hnumeral.blank '-' List.mem_cons_self) (by decide)
    rw [hscan]
    refine ⟨⟨hhead, ?_, ?_, ?_, ?_⟩, rfl⟩
    all_goals rw [hscan]
    · exact hnumeral.nonempty
    · exact hpositive
    · exact hfits
  · rintro ⟨hread, hsign⟩
    have htext := scanNumeral_text text
    have hnumeral := scanNumeral_numeral hread.digits
    rw [hsign, hread.rest, List.append_nil] at htext
    rw [hsign] at hnumeral
    refine ⟨_, _, ?_, hnumeral, htext.symm, hread.positive, hread.fits⟩
    intro hnone
    rw [hnone] at htext
    exact hread.head (by rw [← htext]; rfl)

/-- **Numeric options.** `parse_size` accepts only positive numbers in range, and stores the
number the text denotes, except where white space hides a minus sign from the test of the first
character: there it stores what `strtoumax` makes of a negative number. -/
theorem accepts_positive_iff (text : List Char) (value : ℕ) :
    AcceptsPositive text value ↔ ¬NegativeAfterSpace text := by
  rw [negativeAfterSpace_iff]
  constructor
  · rintro haccepts ⟨hread, hsign⟩
    rcases haccepts with ⟨n, hdenotes, hn, -, -⟩ | hrejected
    · -- The text denotes a negative number, and no other.
      obtain ⟨-, -, hvalue⟩ := denotes_iff.mp hdenotes
      rw [if_pos hsign] at hvalue
      omega
    · rw [parseSize_readable hread] at hrejected
      cases hrejected
  · intro hplain
    by_cases hread : Readable text
    · have hsign : (scanNumeral text).sign ≠ ['-'] := fun hsign => hplain ⟨hread, hsign⟩
      have hvalue : readValue text = decimalValue (scanNumeral text).digits := if_neg hsign
      refine .inl ⟨readValue text, ?_, ?_, ?_, parseSize_readable hread value⟩
      · rw [denotes_iff, if_neg hsign, hvalue]
        exact ⟨hread.digits, hread.rest, rfl⟩
      · have := hread.positive
        omega
      · have := hread.fits
        omega
    · exact .inr (parseSize_unreadable hread value)

/-- A minus sign behind one space: `parse_size` stores `2 ^ 64 - 5`. -/
theorem accepts_minus_five : ¬AcceptsPositive [' ', '-', '5'] 0 := by
  have hstored : parseSize (some [' ', '-', '5']) 0 = (true, 2 ^ 64 - 5) := by decide
  rintro (⟨n, hdenotes, hn, -, -⟩ | hrejected)
  · obtain ⟨-, -, hvalue⟩ := denotes_iff.mp hdenotes
    have hminus : n = -5 := hvalue
    omega
  · rw [hstored] at hrejected
    cases hrejected

end SchedulingEngine
