/-!
Contract: white space as the Unicode property of that name.

Owns:
- `isBlank`, the twenty-five characters of the property;
- `trim`, which takes blanks off both ends of a text;
- what stays of a text that is trimmed.

Does not own: the narrower notions of blank inside a data format, which stand
in the module of that format.
-/

namespace Provision.Text

def isBlank (character : Char) : Bool :=
  let code := character.toNat
  (0x09 ≤ code && code ≤ 0x0d) || code = 0x20 || code = 0x85 || code = 0xa0 ||
    code = 0x1680 || (0x2000 ≤ code && code ≤ 0x200a) || code = 0x2028 ||
    code = 0x2029 || code = 0x202f || code = 0x205f || code = 0x3000

/-- Takes the blanks off the end of a list of characters. -/
def trimEnd (characters : List Char) : List Char :=
  (characters.reverse.dropWhile isBlank).reverse

/-- Takes the blanks off both ends; blanks inside stay. -/
def trim (characters : List Char) : List Char :=
  trimEnd (characters.dropWhile isBlank)

/-! ## Laws of trimming -/

section Laws

variable {character : Char} {text : List Char}

theorem trim_cons_of_isBlank (isFirstBlank : isBlank character = true) :
    trim (character :: text) = trim text := by
  rw [trim, List.dropWhile_cons_of_pos isFirstBlank, ← trim]

/-- A text without blanks loses nothing at its beginning. -/
theorem dropWhile_isBlank_eq_self
    (allSolid : ∀ character ∈ text, isBlank character = false) :
    text.dropWhile isBlank = text := by
  cases text with
  | nil => rfl
  | cons first rest =>
      have isSolid := allSolid first List.mem_cons_self
      exact List.dropWhile_cons_of_neg (by simp [isSolid])

theorem trim_eq_self
    (allSolid : ∀ character ∈ text, isBlank character = false) :
    trim text = text := by
  have allReverseSolid :
      ∀ character ∈ text.reverse, isBlank character = false := by
    intro character isMember
    exact allSolid character (List.mem_reverse.mp isMember)
  rw [trim, dropWhile_isBlank_eq_self allSolid, trimEnd,
    dropWhile_isBlank_eq_self allReverseSolid, List.reverse_reverse]

theorem mem_dropWhile_isBlank
    (isMember : character ∈ text)
    (isSolid : isBlank character = false) :
    character ∈ text.dropWhile isBlank := by
  induction text with
  | nil => exact isMember
  | cons first rest inductionHypothesis =>
      by_cases isFirstBlank : isBlank first = true
      · rw [List.dropWhile_cons_of_pos isFirstBlank]
        rcases List.mem_cons.mp isMember with rfl | inRest
        · rw [isSolid] at isFirstBlank
          cases isFirstBlank
        · exact inductionHypothesis inRest
      · rwa [List.dropWhile_cons_of_neg isFirstBlank]

/-- Nothing but blanks is taken off a text. -/
theorem mem_trim
    (isMember : character ∈ text)
    (isSolid : isBlank character = false) :
    character ∈ trim text := by
  rw [trim, trimEnd, List.mem_reverse]
  refine mem_dropWhile_isBlank ?_ isSolid
  rw [List.mem_reverse]
  exact mem_dropWhile_isBlank isMember isSolid

end Laws

end Provision.Text
