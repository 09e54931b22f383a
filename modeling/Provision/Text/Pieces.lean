/-!
Contract: cutting a list of characters at a separator.

Owns:
- `cutAt`, which splits at the first separator only;
- `pieces`, which splits at every separator and never loses a piece;
- `glue`, which writes pieces back with a separator between them;
- `contains`, the search for a stretch of text inside another;
- what each of them says about the text that was cut.

Does not own: what the pieces mean, escapes, or white space.
-/

namespace Provision.Text

/-- The text before and after the first separator, or nothing when the
separator does not occur. -/
def cutAt (separator : Char) : List Char → Option (List Char × List Char)
  | [] => none
  | head :: tail =>
      if head = separator then
        some ([], tail)
      else
        (cutAt separator tail).map fun parts => (head :: parts.1, parts.2)

/-- All pieces between separators, in order.  A text without a separator is
one piece, also when it is empty, so there is always a first piece. -/
def pieces (separator : Char) : List Char → List (List Char)
  | [] => [[]]
  | head :: tail =>
      if head = separator then
        [] :: pieces separator tail
      else
        match pieces separator tail with
        | [] => [[head]]
        | first :: rest => (head :: first) :: rest

/-- The pieces of a text, each as a text. -/
def splitAt (separator : Char) (text : String) : List String :=
  (pieces separator text.toList).map String.ofList

/-- Writes the parts one after the other with the separator between them. -/
def glue (separator : String) : List String → String
  | [] => ""
  | [part] => part
  | part :: next :: rest => part ++ separator ++ glue separator (next :: rest)

/-- Whether one list of characters begins with another. -/
def startsWith : List Char → List Char → Bool
  | [], _ => true
  | _ :: _, [] => false
  | wanted :: others, head :: tail => wanted = head && startsWith others tail

/-- Whether the wanted characters occur somewhere in one stretch. -/
def contains (wanted : List Char) : List Char → Bool
  | [] => startsWith wanted []
  | head :: tail => startsWith wanted (head :: tail) || contains wanted tail

/-- The text that is left after a leading part is taken off, or nothing when
the text does not begin with it. -/
def after? : List Char → List Char → Option (List Char)
  | [], rest => some rest
  | _ :: _, [] => none
  | wanted :: others, head :: tail =>
      if wanted = head then after? others tail else none

/-! ## Laws of the cuts -/

/-- A text is cut where the separator first stands. -/
theorem cutAt_eq_some_iff {separator : Char} {text before behind : List Char} :
    cutAt separator text = some (before, behind) ↔
      text = before ++ separator :: behind ∧ separator ∉ before := by
  induction text generalizing before with
  | nil => simp [cutAt]
  | cons head tail inductionHypothesis =>
      by_cases isSeparator : head = separator
      · subst isSeparator
        cases before with
        | nil => simp [cutAt, eq_comm]
        | cons first others =>
            simp only [cutAt, if_pos, List.cons_append, List.cons.injEq,
              List.mem_cons, Option.some.injEq, Prod.mk.injEq]
            grind
      · cases before with
        | nil => simp [cutAt, isSeparator]
        | cons first others =>
            simp only [cutAt, if_neg isSeparator, Option.map_eq_some_iff,
              List.cons_append, List.cons.injEq, List.mem_cons]
            grind

theorem cutAt_eq_none_iff {separator : Char} {text : List Char} :
    cutAt separator text = none ↔ separator ∉ text := by
  induction text with
  | nil => simp [cutAt]
  | cons head tail inductionHypothesis =>
      by_cases isSeparator : head = separator
      · simp [cutAt, isSeparator]
      · simp [cutAt, isSeparator, Ne.symm isSeparator, inductionHypothesis]

/-- A text without the separator is one piece. -/
theorem pieces_of_not_mem {separator : Char} {text : List Char}
    (isFree : separator ∉ text) : pieces separator text = [text] := by
  induction text with
  | nil => rfl
  | cons head tail inductionHypothesis =>
      simp only [List.mem_cons, not_or] at isFree
      simp [pieces, Ne.symm isFree.1, inductionHypothesis isFree.2]

/-- The first piece ends at the first separator. -/
theorem pieces_append_cons {separator : Char} {first : List Char}
    (isFree : separator ∉ first) (rest : List Char) :
    pieces separator (first ++ separator :: rest) =
      first :: pieces separator rest := by
  induction first with
  | nil => simp [pieces]
  | cons head tail inductionHypothesis =>
      simp only [List.mem_cons, not_or] at isFree
      simp [pieces, Ne.symm isFree.1, inductionHypothesis isFree.2]

/-- The pieces are those into which a list splits at an element. -/
theorem pieces_eq_splitOn (separator : Char) (text : List Char) :
    pieces separator text = text.splitOn separator := by
  induction text with
  | nil => rfl
  | cons head tail inductionHypothesis =>
      rw [List.splitOn_eq_splitOnP] at inductionHypothesis ⊢
      rw [List.splitOnP_cons_eq_if_modifyHead, pieces, inductionHypothesis]
      by_cases isSeparator : head = separator
      · simp [isSeparator]
      · cases later : tail.splitOnP fun other => other == separator with
        | nil => exact absurd later (List.splitOnP_ne_nil _ _)
        | cons first rest => simp [isSeparator]

/-- No piece holds the separator. -/
theorem not_mem_of_mem_pieces {separator : Char} {text piece : List Char}
    (isPiece : piece ∈ pieces separator text) : separator ∉ piece := by
  induction text generalizing piece with
  | nil => simp_all [pieces]
  | cons head tail inductionHypothesis =>
      rw [pieces] at isPiece
      split at isPiece
      · rcases List.mem_cons.mp isPiece with rfl | isLater
        · exact List.not_mem_nil
        · exact inductionHypothesis isLater
      · next isOther =>
          split at isPiece
          · rw [List.mem_singleton.mp isPiece, List.mem_singleton]
            exact Ne.symm isOther
          · next first rest later =>
              rw [later] at inductionHypothesis
              rcases List.mem_cons.mp isPiece with rfl | isLater
              · rw [List.mem_cons, not_or]
                exact ⟨Ne.symm isOther, inductionHypothesis List.mem_cons_self⟩
              · exact inductionHypothesis (List.mem_cons_of_mem _ isLater)

theorem intercalate_cons_eq (separator : Char) (first : List Char)
    (rest : List (List Char)) :
    [separator].intercalate (first :: rest) =
      first ++ rest.flatMap (separator :: ·) := by
  induction rest generalizing first with
  | nil => simp
  | cons next others inductionHypothesis =>
      rw [List.intercalate_cons_cons, inductionHypothesis, List.flatMap_cons]
      simp

/-- The pieces of a text are free of the separator, and all but the first
stand behind one. -/
theorem pieces_eq_cons_iff {separator : Char} {text first : List Char}
    {rest : List (List Char)} :
    pieces separator text = first :: rest ↔
      text = first ++ rest.flatMap (separator :: ·) ∧
        ∀ piece ∈ first :: rest, separator ∉ piece := by
  rw [← intercalate_cons_eq, pieces_eq_splitOn]
  constructor
  · intro areCut
    rw [← areCut, List.intercalate_splitOn, ← pieces_eq_splitOn]
    exact ⟨rfl, fun piece => not_mem_of_mem_pieces⟩
  · rintro ⟨rfl, areFree⟩
    exact List.splitOn_intercalate separator areFree (by simp)

/-- What goes behind a text without the separator goes behind its last
piece. -/
theorem exists_pieces_append {separator : Char} (text : List Char)
    {added : List Char} (isFree : separator ∉ added) :
    ∃ before last, pieces separator text = before ++ [last] ∧
      pieces separator (text ++ added) = before ++ [last ++ added] := by
  induction text with
  | nil => exact ⟨[], [], rfl, pieces_of_not_mem isFree⟩
  | cons head tail inductionHypothesis =>
      obtain ⟨before, last, isTail, isLonger⟩ := inductionHypothesis
      by_cases isSeparator : head = separator
      · exact ⟨[] :: before, last, by simp [pieces, isSeparator, isTail],
          by simp [pieces, isSeparator, isLonger]⟩
      · cases before with
        | nil =>
            exact ⟨[], head :: last, by simp [pieces, isSeparator, isTail],
              by simp [pieces, isSeparator, isLonger]⟩
        | cons first others =>
            exact ⟨(head :: first) :: others, last,
              by simp [pieces, isSeparator, isTail],
              by simp [pieces, isSeparator, isLonger]⟩

/-- What is left after a leading part is the rest of the text. -/
theorem after?_eq_some_iff {wanted text rest : List Char} :
    after? wanted text = some rest ↔ text = wanted ++ rest := by
  induction wanted generalizing text with
  | nil => simp [after?, eq_comm]
  | cons first others inductionHypothesis =>
      cases text with
      | nil => simp [after?]
      | cons head tail =>
          by_cases isSame : first = head
          · simp [after?, isSame, inductionHypothesis]
          · simp [after?, isSame, Ne.symm isSame]

/-- One text begins with another where it is a prefix. -/
theorem startsWith_eq_true_iff {wanted text : List Char} :
    startsWith wanted text = true ↔ wanted <+: text := by
  induction wanted generalizing text with
  | nil => simp [startsWith]
  | cons first others inductionHypothesis =>
      cases text with
      | nil => simp [startsWith]
      | cons head tail =>
          simp [startsWith, inductionHypothesis, List.cons_prefix_cons]

/-- A stretch occurs where it is an infix. -/
theorem contains_eq_true_iff {wanted text : List Char} :
    contains wanted text = true ↔ wanted <:+: text := by
  induction text with
  | nil => simp [contains, startsWith_eq_true_iff]
  | cons head tail inductionHypothesis =>
      simp [contains, startsWith_eq_true_iff, inductionHypothesis,
        List.infix_cons_iff]

end Provision.Text
