/-!
Contract: numbers written in a positional system, and read back.

Owns:
- the value of a digit in a base up to thirty-six;
- decimal and lower-case hexadecimal text of natural numbers and integers;
- padding with zeros on the left;
- that the decimal digits of a number read as the number, and that no other
  digits without a leading zero do.

Does not own: signs, separators and leading-zero rules of a data format.
-/

namespace Provision.Text

/-- The value of a decimal, lower-case or upper-case letter digit. -/
def digitValue (character : Char) : Option Nat :=
  let code := character.toNat
  if 0x30 ≤ code && code ≤ 0x39 then some (code - 0x30)
  else if 0x61 ≤ code && code ≤ 0x7a then some (code - 0x61 + 10)
  else if 0x41 ≤ code && code ≤ 0x5a then some (code - 0x41 + 10)
  else none

/-- Whether a character is a digit of the base. -/
def isDigitOf (base : Nat) (character : Char) : Bool :=
  match digitValue character with
  | some value => value < base
  | none => false

/-- Whether a character is one of the ten decimal digits. -/
def isDecimal (character : Char) : Bool :=
  isDigitOf 10 character

/-- The number that a list of digits writes, continuing from a start. -/
def digitsFrom (base : Nat) (start : Nat) : List Char → Nat
  | [] => start
  | head :: tail =>
      digitsFrom base (start * base + (digitValue head).getD 0) tail

/-- The number that a non-empty list of digits writes; nothing for an empty
list or one with a character that is no digit of the base. -/
def readNatural (base : Nat) (characters : List Char) : Option Nat :=
  if characters.isEmpty || !characters.all (isDigitOf base) then none
  else some (digitsFrom base 0 characters)

/-- The decimal digits of a natural number. -/
def decimal (number : Nat) : List Char :=
  Nat.toDigits 10 number

/-- The lower-case hexadecimal digits of a natural number. -/
def hexadecimal (number : Nat) : List Char :=
  Nat.toDigits 16 number

/-- Puts zeros in front up to the width. -/
def padLeft (width : Nat) (characters : List Char) : List Char :=
  List.replicate (width - characters.length) '0' ++ characters

/-- The decimal text of an integer, with a minus sign where it is negative. -/
def integerText (number : Int) : List Char :=
  match number with
  | .ofNat magnitude => decimal magnitude
  | .negSucc below => '-' :: decimal (below + 1)

/-! ## Laws of decimal digits -/

theorem digitValue_of_isDigit {character : Char}
    (isDigit : character.isDigit = true) :
    digitValue character = some (character.toNat - '0'.toNat) := by
  simp only [Char.isDigit, Bool.and_eq_true, decide_eq_true_eq, ge_iff_le,
    UInt32.le_iff_toNat_le] at isDigit
  have atLeast : 48 ≤ character.toNat := isDigit.1
  have atMost : character.toNat ≤ 57 := isDigit.2
  simp [digitValue, atLeast, atMost]

theorem isDecimal_of_isDigit {character : Char}
    (isDigit : character.isDigit = true) : isDecimal character = true := by
  have isValue := digitValue_of_isDigit isDigit
  simp only [Char.isDigit, Bool.and_eq_true, decide_eq_true_eq, ge_iff_le,
    UInt32.le_iff_toNat_le] at isDigit
  have atMost : character.toNat ≤ 57 := isDigit.2
  have isSmall : character.toNat - 48 < 10 := by omega
  simpa [isDecimal, isDigitOf, isValue] using isSmall

theorem isDigit_of_mem_decimal {number : Nat} {character : Char}
    (isMember : character ∈ decimal number) : character.isDigit = true :=
  Nat.isDigit_of_mem_toDigits (by decide) (by decide) isMember

theorem digitsFrom_eq_ofDigitChars {digits : List Char}
    (allDigits : ∀ digit ∈ digits, digit.isDigit = true) (start : Nat) :
    digitsFrom 10 start digits = Nat.ofDigitChars 10 digits start := by
  induction digits generalizing start with
  | nil => simp [digitsFrom]
  | cons digit others inductionHypothesis =>
      have isValue := digitValue_of_isDigit (allDigits digit (by simp))
      have later := fun next =>
        inductionHypothesis (fun other isOther =>
          allDigits other (by simp [isOther])) next
      rw [digitsFrom, later, Nat.ofDigitChars_cons, isValue, Option.getD_some,
        Nat.mul_comm]

/-- The digits of a number write it. -/
theorem digitsFrom_decimal (number : Nat) :
    digitsFrom 10 0 (decimal number) = number := by
  rw [digitsFrom_eq_ofDigitChars fun _ => isDigit_of_mem_decimal, decimal,
    Nat.ofDigitChars_ten_toDigits]

/-- Only zero begins with a zero. -/
theorem head?_decimal_ne_zero {number : Nat} (isPositive : 0 < number) :
    (decimal number).head? ≠ some '0' := by
  induction number using Nat.strongRecOn with
  | ind number inductionHypothesis =>
      rw [decimal, Nat.toDigits_eq_if (by decide)]
      split
      · next isSmall =>
          have isOther : ∀ digit < 10, 0 < digit →
              [digit.digitChar].head? ≠ some '0' := by decide
          exact isOther number isSmall isPositive
      · next isLarge =>
          have shorter :=
            inductionHypothesis (number / 10) (by omega) (by omega)
          rw [decimal] at shorter
          cases digits : Nat.toDigits 10 (number / 10) with
          | nil => exact absurd digits Nat.toDigits_ne_nil
          | cons first others => rwa [digits] at shorter

/-- A decimal digit is the one of its value. -/
theorem exists_digitChar_of_isDecimal {character : Char}
    (isDigit : isDecimal character = true) :
    ∃ value < 10, digitValue character = some value ∧
      value.digitChar = character := by
  unfold isDecimal isDigitOf at isDigit
  split at isDigit
  · next value isValue =>
      have isSmall : value < 10 := by simpa using isDigit
      refine ⟨value, isSmall, isValue, ?_⟩
      have isCode : character.toNat = 48 + value := by
        unfold digitValue at isValue
        grind
      rw [← Char.toNat_inj, Nat.toNat_digitChar_of_lt_ten isSmall, isCode]
  · cases isDigit

/-- Digits behind those of a positive number are the last ones of the number
that all of them write. -/
theorem decimal_digitsFrom_of_pos {start : Nat} (isPositive : 0 < start)
    {digits : List Char}
    (allDigits : ∀ digit ∈ digits, isDecimal digit = true) :
    decimal (digitsFrom 10 start digits) = decimal start ++ digits := by
  induction digits generalizing start with
  | nil => simp [digitsFrom]
  | cons digit others inductionHypothesis =>
      rw [List.forall_mem_cons] at allDigits
      obtain ⟨value, isSmall, isValue, isDigit⟩ :=
        exists_digitChar_of_isDecimal allDigits.1
      have isNext : decimal (start * 10 + value) = decimal start ++ [digit] := by
        rw [decimal, decimal, Nat.mul_comm,
          ← Nat.toDigits_append_toDigits (by decide) isPositive isSmall,
          Nat.toDigits_of_lt_base isSmall, isDigit]
      rw [digitsFrom, isValue, Option.getD_some,
        inductionHypothesis (by omega) allDigits.2, isNext, List.append_assoc]
      rfl

/-- Digits that begin with no zero, or are a zero, are those of the number
that they write. -/
theorem decimal_digitsFrom {first : Char} {others : List Char}
    (allDigits : ∀ digit ∈ first :: others, isDecimal digit = true)
    (isPlain : first = '0' → others = []) :
    decimal (digitsFrom 10 0 (first :: others)) = first :: others := by
  rw [List.forall_mem_cons] at allDigits
  obtain ⟨value, isSmall, isValue, isDigit⟩ :=
    exists_digitChar_of_isDecimal allDigits.1
  rw [digitsFrom, isValue, Option.getD_some, Nat.zero_mul, Nat.zero_add]
  have isFirst : decimal value = [first] := by
    rw [decimal, Nat.toDigits_of_lt_base isSmall, isDigit]
  by_cases isZero : value = 0
  · subst isZero
    rw [isPlain isDigit.symm, digitsFrom, isFirst]
  · rw [decimal_digitsFrom_of_pos (Nat.pos_of_ne_zero isZero) allDigits.2,
      isFirst]
    rfl

end Provision.Text
