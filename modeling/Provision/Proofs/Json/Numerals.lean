import Mathlib.Data.List.TakeWhile
import Provision.Json.Printer
import Provision.Json.Reader

/-!
Contract: reading back the numbers that are written.

A number is read up to the first character that cannot go on with it.  So what
stands behind a number in a document does not change how it is read.

Owns:
- the reading of a number in front of a text that does not go on with it;
- that integers of 64 bits are read back, and what it means for a
  floating-point number to be, which is not so for each of them.

Does not own: which floating-point numbers are read back.
-/

namespace Provision

namespace Json

/-! ## What goes on with a number -/

/-- A character that can stand inside a number. -/
def isNumeral (character : Char) : Bool :=
  Text.isDecimal character || character ∈ ['-', '+', '.', 'e', 'E']

/-- A text that does not go on with a number in front of it. -/
def EndsNumeral (more : List Char) : Prop :=
  ∀ character, more.head? = some character → isNumeral character = false

namespace EndsNumeral

variable {more : List Char}

theorem nil : EndsNumeral [] := fun _ isHead => by simp at isHead

theorem cons {character : Char} (isOther : isNumeral character = false)
    (rest : List Char) : EndsNumeral (character :: rest) := by
  intro first isFirst
  rw [List.head?_cons] at isFirst
  exact Option.some.inj isFirst ▸ isOther

theorem head?_ne (ends : EndsNumeral more) (character : Char)
    (isNumeral : isNumeral character = true) :
    more.head? ≠ some character := by
  intro isHead
  rw [ends character isHead] at isNumeral
  cases isNumeral

theorem takeWhile_eq_nil (ends : EndsNumeral more) :
    more.takeWhile Text.isDecimal = [] := by
  cases more with
  | nil => rfl
  | cons first rest =>
      have isOther := ends first rfl
      simp only [Json.isNumeral, Bool.or_eq_false_iff] at isOther
      rw [List.takeWhile_cons_of_neg (by simp [isOther.1])]

theorem dropWhile_eq_self (ends : EndsNumeral more) :
    more.dropWhile Text.isDecimal = more := by
  have parts := List.takeWhile_append_dropWhile (p := Text.isDecimal) (l := more)
  rwa [ends.takeWhile_eq_nil, List.nil_append] at parts

theorem takeWhile_append (ends : EndsNumeral more) (text : List Char) :
    (text ++ more).takeWhile Text.isDecimal = text.takeWhile Text.isDecimal := by
  induction text with
  | nil => exact ends.takeWhile_eq_nil
  | cons first rest inductionHypothesis =>
      simp only [List.cons_append, List.takeWhile_cons, inductionHypothesis]

theorem dropWhile_append (ends : EndsNumeral more) (text : List Char) :
    (text ++ more).dropWhile Text.isDecimal =
      text.dropWhile Text.isDecimal ++ more := by
  induction text with
  | nil => exact ends.dropWhile_eq_self
  | cons first rest inductionHypothesis =>
      simp only [List.cons_append, List.dropWhile_cons, inductionHypothesis]
      split <;> rfl

end EndsNumeral

section Appended

variable {more : List Char}

theorem scanFraction_append (ends : EndsNumeral more) (text : List Char) :
    scanFraction (text ++ more) =
      (scanFraction text).map fun read => (read.1, read.2 ++ more) := by
  cases text with
  | nil =>
      have noPoint := ends.head?_ne '.' (by decide)
      cases more with
      | nil => rfl
      | cons first rest =>
          have isOther : first ≠ '.' := fun same => noPoint (by simp [same])
          simp [scanFraction, isOther]
  | cons first rest =>
      by_cases isPoint : first = '.'
      · subst isPoint
        simp only [List.cons_append, scanFraction, ends.takeWhile_append,
          ends.dropWhile_append]
        split <;> rfl
      · simp [scanFraction, isPoint]

theorem scanSign_append (ends : EndsNumeral more) (text : List Char) :
    scanSign (text ++ more) =
      ((scanSign text).1, (scanSign text).2 ++ more) := by
  cases text with
  | nil =>
      have noMinus := ends.head?_ne '-' (by decide)
      have noPlus := ends.head?_ne '+' (by decide)
      cases more with
      | nil => rfl
      | cons first rest =>
          have notMinus : first ≠ '-' := fun same => noMinus (by simp [same])
          have notPlus : first ≠ '+' := fun same => noPlus (by simp [same])
          simp [scanSign, notMinus, notPlus]
  | cons first rest =>
      by_cases isMinus : first = '-'
      · simp [scanSign, isMinus]
      · by_cases isPlus : first = '+'
        · simp [scanSign, isPlus]
        · simp [scanSign, isMinus, isPlus]

theorem scanExponent_append (ends : EndsNumeral more) (text : List Char) :
    scanExponent (text ++ more) =
      (scanExponent text).map fun read => (read.1, read.2 ++ more) := by
  cases text with
  | nil =>
      have noSmall := ends.head?_ne 'e' (by decide)
      have noCapital := ends.head?_ne 'E' (by decide)
      cases more with
      | nil => rfl
      | cons first rest =>
          have notSmall : first ≠ 'e' := fun same => noSmall (by simp [same])
          have notCapital : first ≠ 'E' := fun same =>
            noCapital (by simp [same])
          simp [scanExponent, notSmall, notCapital]
  | cons first rest =>
      simp only [List.cons_append, scanExponent, scanSign_append ends,
        ends.takeWhile_append, ends.dropWhile_append]
      split
      · split <;> rfl
      · rfl

/-- A number after its sign. -/
def scanUnsigned (negative : Bool) (body : List Char) :
    Option (NumberText × List Char) :=
  let whole := body.takeWhile Text.isDecimal
  if whole.isEmpty || (whole.head? = some '0' && 1 < whole.length) then none
  else
    match scanFraction (body.dropWhile Text.isDecimal) with
    | none => none
    | some (fraction, afterFraction) =>
        match scanExponent afterFraction with
        | none => none
        | some (exponent, rest) =>
            some (⟨negative, whole, fraction, exponent⟩, rest)

theorem scanNumber_minus (body : List Char) :
    scanNumber ('-' :: body) = scanUnsigned true body := rfl

theorem scanNumber_of_head?_ne {text : List Char}
    (noMinus : text.head? ≠ some '-') :
    scanNumber text = scanUnsigned false text := by
  simp only [scanNumber, noMinus, decide_false, if_false]
  rfl

theorem scanUnsigned_append (ends : EndsNumeral more) (negative : Bool)
    (body : List Char) :
    scanUnsigned negative (body ++ more) =
      (scanUnsigned negative body).map fun read =>
        (read.1, read.2 ++ more) := by
  simp only [scanUnsigned, ends.takeWhile_append, ends.dropWhile_append,
    scanFraction_append ends]
  split
  · rfl
  · cases scanFraction (body.dropWhile Text.isDecimal) with
    | none => rfl
    | some read =>
        obtain ⟨fraction, afterFraction⟩ := read
        simp only [Option.map_some, scanExponent_append ends]
        cases scanExponent afterFraction <;> rfl

/-- What stands behind a number is left where it is. -/
theorem scanNumber_append (ends : EndsNumeral more) (text : List Char) :
    scanNumber (text ++ more) =
      (scanNumber text).map fun read => (read.1, read.2 ++ more) := by
  by_cases isMinus : text.head? = some '-'
  · obtain ⟨body, rfl⟩ := List.head?_eq_some_iff.mp isMinus
    rw [List.cons_append, scanNumber_minus, scanNumber_minus,
      scanUnsigned_append ends]
  · have noMinus : (text ++ more).head? ≠ some '-' := by
      cases text with
      | nil => exact ends.head?_ne '-' (by decide)
      | cons first rest => exact isMinus
    rw [scanNumber_of_head?_ne isMinus, scanNumber_of_head?_ne noMinus,
      scanUnsigned_append ends]

end Appended

/-! ## What is left of a text -/

theorem suffix_of_scanFraction_eq_some {text rest digits : List Char}
    (read : scanFraction text = some (digits, rest)) : rest <:+ text := by
  unfold scanFraction at read
  split at read
  · dsimp only at read
    split at read
    · cases read
    · cases read
      exact (List.dropWhile_suffix _).trans (List.suffix_cons _ _)
  · cases read
    exact List.suffix_rfl

theorem scanSign_suffix (text : List Char) : (scanSign text).2 <:+ text := by
  unfold scanSign
  split
  · exact List.suffix_cons _ _
  · exact List.suffix_cons _ _
  · exact List.suffix_rfl

theorem suffix_of_scanExponent_eq_some {text rest : List Char}
    {exponent : Option Int}
    (read : scanExponent text = some (exponent, rest)) : rest <:+ text := by
  unfold scanExponent at read
  split at read
  · next mark behind =>
      dsimp only at read
      split at read
      · split at read
        · cases read
        · cases read
          exact (List.dropWhile_suffix _).trans
            ((scanSign_suffix behind).trans (List.suffix_cons _ _))
      · cases read
        exact List.suffix_rfl
  · cases read
    exact List.suffix_rfl

theorem suffix_of_scanUnsigned_eq_some {negative : Bool}
    {body rest : List Char} {written : NumberText}
    (read : scanUnsigned negative body = some (written, rest)) :
    rest <:+ body := by
  unfold scanUnsigned at read
  dsimp only at read
  split at read
  · cases read
  · split at read
    · cases read
    · next fraction afterFraction isFraction =>
        split at read
        · cases read
        · next exponent behind isExponent =>
            cases read
            exact (suffix_of_scanExponent_eq_some isExponent).trans
              ((suffix_of_scanFraction_eq_some isFraction).trans
                (List.dropWhile_suffix _))

theorem suffix_of_scanNumber_eq_some {text rest : List Char}
    {written : NumberText} (read : scanNumber text = some (written, rest)) :
    rest <:+ text := by
  by_cases isMinus : text.head? = some '-'
  · obtain ⟨body, rfl⟩ := List.head?_eq_some_iff.mp isMinus
    rw [scanNumber_minus] at read
    exact (suffix_of_scanUnsigned_eq_some read).trans (List.suffix_cons _ _)
  · rw [scanNumber_of_head?_ne isMinus] at read
    exact suffix_of_scanUnsigned_eq_some read

/-! ## Numbers that are read back -/

/-- The text of the number is read as the number. -/
def Number.Rereads (number : Number) : Prop :=
  parse (String.ofList number.text) = some (.number number)

/-- The shortest text of a number is not always read as the number, as reading
rounds twice: here the power of ten and then the quotient. -/
theorem not_every_real_rereads :
    ¬ ∀ real : Decimal.Binary64, real.Canonical →
      (Number.real real).Rereads := by
  intro allReread
  -- The number nearest to `10 ^ -23`, whose text is `1e-23`.
  have rereads := allReread ⟨false, 0x182db34012b251, -129⟩ (by decide)
  revert rereads
  unfold Number.Rereads
  decide +kernel

/-- The number is read from its text in front of whatever does not go on with
it. -/
def Number.ReadsBack (number : Number) : Prop :=
  ∀ more, EndsNumeral more →
    readLeaf (number.text ++ more) = some (.number number, more)

/-- A number that a document can hold: an integer of 64 bits, or any
floating-point number. -/
def Number.InRange : Number → Prop
  | .integer value => -0x8000000000000000 ≤ value ∧ value < UInt64.size
  | .real _ => True

theorem NumberText.inRange_of_value?_eq_some {written : NumberText}
    {number : Number} (isValue : written.value? = some number) :
    number.InRange := by
  unfold NumberText.value? at isValue
  dsimp only at isValue
  split at isValue
  · next small =>
      simp only [Bool.and_eq_true, decide_eq_true_eq] at small
      cases isValue
      refine ⟨by omega, ?_⟩
      exact_mod_cast small.2
  · split at isValue
    · next small =>
        simp only [Bool.and_eq_true, decide_eq_true_eq] at small
        cases isValue
        refine ⟨by omega, ?_⟩
        have isLarge : (0 : Int) < UInt64.size := by decide
        omega
    · obtain ⟨real, -, rfl⟩ := Option.map_eq_some_iff.mp isValue
      trivial

/-- The digits of a number and nothing else are read. -/
theorem scanUnsigned_decimal (negative : Bool) (magnitude : Nat) :
    scanUnsigned negative (Text.decimal magnitude) =
      some (⟨negative, Text.decimal magnitude, [], none⟩, []) := by
  have allDecimal : ∀ digit ∈ Text.decimal magnitude,
      Text.isDecimal digit = true := fun digit isMember =>
    Text.isDecimal_of_isDigit (Text.isDigit_of_mem_decimal isMember)
  have isWhole : (Text.decimal magnitude).takeWhile Text.isDecimal =
      Text.decimal magnitude := List.takeWhile_eq_self_iff.mpr allDecimal
  have isAll : (Text.decimal magnitude).dropWhile Text.isDecimal = [] :=
    List.dropWhile_eq_nil_iff.mpr allDecimal
  have isSome : (Text.decimal magnitude).isEmpty = false := by
    simp [Text.decimal, Nat.toDigits_ne_nil]
  have noZero : (decide ((Text.decimal magnitude).head? = some '0') &&
      decide (1 < (Text.decimal magnitude).length)) = false := by
    rcases Nat.eq_zero_or_pos magnitude with rfl | isPositive
    · decide
    · simp [Text.head?_decimal_ne_zero isPositive]
  simp [scanUnsigned, isWhole, isAll, isSome, noZero, scanFraction,
    scanExponent]

/-- The integer of 64 bits that is written is the one that is read. -/
theorem scanNumber_integerText {value : Int}
    (inRange : (Number.integer value).InRange) :
    ∃ written, scanNumber (Text.integerText value) = some (written, []) ∧
      written.value? = some (.integer value) := by
  obtain ⟨atLeast, below⟩ := inRange
  cases value with
  | ofNat magnitude =>
      have noMinus : (Text.decimal magnitude).head? ≠ some '-' := by
        intro isMinus
        have isMember := List.mem_of_head? isMinus
        have isDigit := Text.isDigit_of_mem_decimal isMember
        revert isDigit
        decide
      refine ⟨⟨false, Text.decimal magnitude, [], none⟩, ?_, ?_⟩
      · rw [Text.integerText, scanNumber_of_head?_ne noMinus,
          scanUnsigned_decimal]
      · have isSmall : magnitude < UInt64.size := Int.ofNat_lt.mp below
        simp [NumberText.value?, Text.digitsFrom_decimal, isSmall]
  | negSucc magnitude =>
      refine ⟨⟨true, Text.decimal (magnitude + 1), [], none⟩, ?_, ?_⟩
      · rw [Text.integerText, scanNumber_minus, scanUnsigned_decimal]
      · have isSmall : magnitude + 1 ≤ 0x8000000000000000 := by omega
        simp [NumberText.value?, Text.digitsFrom_decimal, isSmall]
        omega

/-- A number is read where a text begins like one. -/
theorem readLeaf_eq_some_number_iff {text rest : List Char}
    {number : Number} :
    readLeaf text = some (.number number, rest) ↔
      (∃ first others, text = first :: others ∧
        (first = '-' || Text.isDecimal first) = true) ∧
      ∃ written, scanNumber text = some (written, rest) ∧
        written.value? = some number := by
  unfold readLeaf
  split
  · next tail =>
      constructor
      · intro read
        obtain ⟨result, -, isString⟩ := Option.map_eq_some_iff.mp read
        cases isString
      · rintro ⟨⟨first, others, isText, begins⟩, -⟩
        cases isText
        exact absurd begins (by decide)
  · next first others _ =>
      cases begins : first = '-' || Text.isDecimal first with
      | true =>
          rw [if_pos rfl]
          cases scanNumber (first :: others) with
          | none => simp
          | some read =>
              obtain ⟨written, behind⟩ := read
              constructor
              · intro isRead
                obtain ⟨value, isValue, same⟩ :=
                  Option.map_eq_some_iff.mp isRead
                cases same
                exact ⟨⟨first, others, rfl, begins⟩, written, rfl, isValue⟩
              · rintro ⟨-, written, isWritten, isValue⟩
                cases isWritten
                simp [isValue]
      | false =>
          rw [if_neg (by simp)]
          constructor
          · intro read
            unfold readWord at read
            split at read <;> cases read
          · rintro ⟨⟨first, others, isText, begins'⟩, -⟩
            cases isText
            rw [begins] at begins'
            cases begins'
  · constructor
    · intro read
      cases read
    · rintro ⟨⟨first, others, isText, -⟩, -⟩
      cases isText

/-- A number is no container, so that it is read as a leaf at every depth. -/
theorem readLeaf_of_value_eq_some_number {bound depth : Nat}
    {text rest : List Char} {number : Number}
    (read : building.value bound depth text = some (.number number, rest)) :
    readLeaf text = some (.number number, rest) := by
  cases depth with
  | zero => exact read
  | succ depth =>
      unfold Reading.value at read
      split at read
      · obtain ⟨items, -, isArray⟩ := Option.map_eq_some_iff.mp read
        cases isArray
      · obtain ⟨members, -, isObject⟩ := Option.map_eq_some_iff.mp read
        cases isObject
      · exact read

theorem isSpace_of_isNumeral {character : Char}
    (numeral : isNumeral character = true) : isSpace character = false := by
  cases isBlank : isSpace character with
  | false => rfl
  | true =>
      simp only [isSpace, Bool.or_eq_true, decide_eq_true_eq] at isBlank
      rcases isBlank with ((rfl | rfl) | rfl) | rfl <;>
        exact absurd numeral (by decide)

theorem isNumeral_of_isDigit {character : Char}
    (isDigit : character.isDigit = true) : isNumeral character = true := by
  simp [isNumeral, Text.isDecimal_of_isDigit isDigit]

end Json

namespace Decimal

theorem isDigit_of_mem_withoutTrailingZeros {digits : List Char}
    (allDigits : ∀ digit ∈ digits, digit.isDigit = true) {digit : Char}
    (isMember : digit ∈ withoutTrailingZeros digits) :
    digit.isDigit = true := by
  unfold withoutTrailingZeros at isMember
  split at isMember
  · rw [List.mem_singleton.mp isMember]
    rfl
  · have isKept := List.mem_reverse.mp isMember
    exact allDigits digit
      (List.mem_reverse.mp ((List.dropWhile_sublist _).subset isKept))

theorem isDigit_of_mem_shortest (number : Binary64) (tie : Tie)
    {digit : Char} (isMember : digit ∈ (number.shortest tie).digits) :
    digit.isDigit = true := by
  unfold Binary64.shortest at isMember
  split at isMember
  · rw [List.mem_singleton.mp isMember]
    rfl
  · exact isDigit_of_mem_withoutTrailingZeros
      (fun _ => Text.isDigit_of_mem_decimal) isMember

theorem isNumeral_of_mem_plain {shown : Digits}
    (allDigits : ∀ digit ∈ shown.digits, digit.isDigit = true)
    {character : Char} (isMember : character ∈ shown.plain) :
    Json.isNumeral character = true := by
  have isZero : Json.isNumeral '0' = true := by decide
  have isPoint : Json.isNumeral '.' = true := by decide
  have isDigit : ∀ digit ∈ shown.digits, Json.isNumeral digit = true :=
    fun digit isDigit => Json.isNumeral_of_isDigit (allDigits digit isDigit)
  unfold Digits.plain at isMember
  dsimp only at isMember
  split at isMember
  · simp only [List.mem_append, List.mem_cons, List.not_mem_nil, or_false,
      List.mem_replicate] at isMember
    rcases isMember with ((rfl | rfl) | ⟨-, rfl⟩) | isMember
    · exact isZero
    · exact isPoint
    · exact isZero
    · exact isDigit character isMember
  · split at isMember
    · simp only [List.mem_append, List.mem_singleton] at isMember
      rcases isMember with (isMember | rfl) | isMember
      · exact isDigit character (List.mem_of_mem_take isMember)
      · exact isPoint
      · exact isDigit character (List.mem_of_mem_drop isMember)
    · simp only [List.mem_append, List.mem_cons, List.not_mem_nil, or_false,
        List.mem_replicate] at isMember
      rcases isMember with (isMember | ⟨-, rfl⟩) | rfl | rfl
      · exact isDigit character isMember
      · exact isZero
      · exact isPoint
      · exact isZero

theorem isNumeral_of_mem_exponential {shown : Digits}
    (allDigits : ∀ digit ∈ shown.digits, digit.isDigit = true)
    {character : Char} (isMember : character ∈ shown.exponential) :
    Json.isNumeral character = true := by
  have isDigit : ∀ digit ∈ shown.digits, Json.isNumeral digit = true :=
    fun digit isDigit => Json.isNumeral_of_isDigit (allDigits digit isDigit)
  have inExponent : ∀ {power : Int},
      character ∈ (if power < 0 then ['e', '-'] else ['e', '+']) ++
        Text.decimal power.natAbs → Json.isNumeral character = true := by
    intro power isMember
    rcases List.mem_append.mp isMember with isMark | isMember
    · split at isMark <;>
        simp only [List.mem_cons, List.not_mem_nil, or_false] at isMark <;>
        rcases isMark with rfl | rfl <;> decide
    · exact Json.isNumeral_of_isDigit (Text.isDigit_of_mem_decimal isMember)
  unfold Digits.exponential at isMember
  dsimp only at isMember
  split at isMember
  · exact inExponent isMember
  · next digit only =>
      rcases List.mem_cons.mp isMember with rfl | isMember
      · exact isDigit _ (by simp [only])
      · exact inExponent isMember
  · next digit others _ isDigits =>
      simp only [List.cons_append, List.mem_cons] at isMember
      rcases isMember with rfl | rfl | isMember
      · exact isDigit _ (by simp [isDigits])
      · decide
      · rcases List.mem_append.mp isMember with isOther | isMember
        · exact isDigit _ (by simp [isDigits, isOther])
        · exact inExponent isMember

end Decimal

namespace Json

theorem isNumeral_of_mem_text {number : Number} {character : Char}
    (isMember : character ∈ number.text) : isNumeral character = true := by
  cases number with
  | integer value =>
      cases value with
      | ofNat magnitude =>
          exact isNumeral_of_isDigit (Text.isDigit_of_mem_decimal isMember)
      | negSucc magnitude =>
          rcases List.mem_cons.mp isMember with rfl | isMember
          · decide
          · exact isNumeral_of_isDigit (Text.isDigit_of_mem_decimal isMember)
  | real value =>
      have allDigits : ∀ digit ∈ (value.shortest .even).digits,
          digit.isDigit = true := fun digit isDigit =>
        Decimal.isDigit_of_mem_shortest value .even isDigit
      have inText : ∀ character ∈
          (if -5 ≤ (value.shortest .even).point - 1 &&
              (value.shortest .even).point - 1 ≤ 15 then
            (value.shortest .even).plain
          else (value.shortest .even).exponential),
          isNumeral character = true := by
        intro character isMember
        split at isMember
        · exact Decimal.isNumeral_of_mem_plain allDigits isMember
        · exact Decimal.isNumeral_of_mem_exponential allDigits isMember
      unfold Number.text Decimal.Binary64.dataText Decimal.signed at isMember
      dsimp only at isMember
      split at isMember
      · rcases List.mem_cons.mp isMember with rfl | isMember
        · decide
        · exact inText character isMember
      · exact inText character isMember

/-- A text without blanks stays as it is. -/
theorem skipSpace_of_all_isNumeral {text : List Char}
    (allNumeral : ∀ character ∈ text, isNumeral character = true) :
    skipSpace text = text := by
  cases text with
  | nil => rfl
  | cons first rest =>
      have isOther := isSpace_of_isNumeral (allNumeral first (by simp))
      exact List.dropWhile_cons_of_neg (by simp [isOther])

/-- A number that is read from its own text is also read in front of a text
that does not go on with it. -/
theorem Number.Rereads.readsBack {number : Number}
    (rereads : number.Rereads) : number.ReadsBack := by
  intro more ends
  -- Without a blank in the text, skipping blanks hides nothing that is left.
  have noBlank : ∀ {rest : List Char}, rest <:+ number.text →
      skipSpace rest = rest := fun isSuffix =>
    skipSpace_of_all_isNumeral fun character isMember =>
      isNumeral_of_mem_text (isSuffix.subset isMember)
  unfold Number.Rereads parse wholly at rereads
  simp only [String.toList_ofList, noBlank List.suffix_rfl] at rereads
  split at rereads
  · next value rest read =>
      split at rereads
      · next nothingLeft =>
          cases rereads
          have isLeaf := readLeaf_of_value_eq_some_number read
          obtain ⟨⟨first, others, isText, begins⟩, written, isWritten,
            isValue⟩ := readLeaf_eq_some_number_iff.mp isLeaf
          have isSuffix := suffix_of_scanNumber_eq_some isWritten
          rw [noBlank isSuffix, List.isEmpty_iff] at nothingLeft
          subst nothingLeft
          refine readLeaf_eq_some_number_iff.mpr ⟨⟨first, others ++ more, ?_,
            begins⟩, written, ?_, isValue⟩
          · rw [isText, List.cons_append]
          · rw [scanNumber_append ends, isWritten]
            rfl
      · cases rereads
  · cases rereads

/-- Integers of 64 bits are read back. -/
theorem Number.readsBack_integer {value : Int}
    (inRange : (Number.integer value).InRange) :
    (Number.integer value).ReadsBack := by
  intro more ends
  obtain ⟨written, isWritten, isValue⟩ := scanNumber_integerText inRange
  have begins : ∃ first others, Text.integerText value = first :: others ∧
      (first = '-' || Text.isDecimal first) = true := by
    cases value with
    | negSucc magnitude => exact ⟨'-', _, rfl, by decide⟩
    | ofNat magnitude =>
        cases digits : Text.decimal magnitude with
        | nil => exact absurd digits Nat.toDigits_ne_nil
        | cons first others =>
            have isMember : first ∈ Text.decimal magnitude := by simp [digits]
            have isDigit := Text.isDigit_of_mem_decimal isMember
            exact ⟨first, others, digits, by
              simp [Text.isDecimal_of_isDigit isDigit]⟩
  obtain ⟨first, others, isText, begins⟩ := begins
  refine readLeaf_eq_some_number_iff.mpr ⟨⟨first, others ++ more, ?_, begins⟩,
    written, ?_, isValue⟩
  · rw [Number.text, isText, List.cons_append]
  · rw [Number.text, scanNumber_append ends, isWritten]
    rfl

end Json

end Provision
