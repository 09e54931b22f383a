import Provision.Proofs.Value.Slots

/-!
Contract: lists of scalars as one parameter.

The items of such a list are written one after the other with single blanks
between them, so what stands between the blanks gives the items back as long
as no item brings a blank of its own.  All other values are parameters in the
form in which they are shown; the document of a list is longer than its joined
items, so a list of scalars never is.

Owns:
- the characters of texts that are glued, and the parts that come back;
- the length of a joined list beside that of its document;
- when a list is split back, and which values are parameters as shown.

Does not own: reading the document of a value back.
-/

namespace Provision

namespace Text

/-- The parts of a text that was glued stand behind separators. -/
theorem toList_glue_cons (separator first : String) (rest : List String) :
    (glue separator (first :: rest)).toList =
      first.toList ++
        rest.flatMap fun part => separator.toList ++ part.toList := by
  induction rest generalizing first with
  | nil => simp [glue]
  | cons next others inductionHypothesis =>
      rw [glue, String.toList_append, String.toList_append,
        inductionHypothesis, List.flatMap_cons]
      simp only [List.append_assoc]

/-- Texts that were glued with blanks come back where none of them has a blank
of its own. -/
theorem splitOn_glue_iff {parts : List String} (isFilled : parts ≠ []) :
    (glue " " parts).toList.splitOn ' ' = parts.map String.toList ↔
      ∀ part ∈ parts, ' ' ∉ part.toList := by
  obtain ⟨first, rest, rfl⟩ := List.exists_cons_of_ne_nil isFilled
  have isGlued : (glue " " (first :: rest)).toList =
      first.toList ++ (rest.map String.toList).flatMap (' ' :: ·) := by
    rw [toList_glue_cons, List.flatMap_map]
    rfl
  rw [← pieces_eq_splitOn, List.map_cons, pieces_eq_cons_iff, ← List.map_cons,
    List.forall_mem_map]
  exact and_iff_right isGlued

end Text

namespace Json

theorem one_le_length_escape (character : Char) :
    1 ≤ (escape character).length := by
  unfold escape
  repeat' split
  all_goals simp

/-- A text does not get shorter by being quoted. -/
theorem length_le_length_quoted (text : String) :
    text.toList.length ≤ (quoted text).length := by
  have escaped : ∀ characters : List Char,
      characters.length ≤ (characters.flatMap escape).length := by
    intro characters
    induction characters with
    | nil => exact Nat.le_refl 0
    | cons head tail inductionHypothesis =>
        have isLong := one_le_length_escape head
        rw [List.flatMap_cons, List.length_append, List.length_cons]
        omega
  have isLong := escaped text.toList
  rw [quoted, List.length_cons, List.length_append]
  omega

end Json

namespace Scalar

/-- A scalar as it is shown is not longer than its document. -/
theorem length_shown_le (scalar : Scalar) :
    scalar.shown.toList.length ≤ scalar.toJson.compact.length := by
  cases scalar with
  | text value => exact Json.length_le_length_quoted value
  | integer value =>
      rw [shown, String.toList_ofList]
      exact Nat.le_refl _
  | boolean value => cases value <;> decide

end Scalar

namespace Value

/-- All items of a list are scalars. -/
def AreScalars (items : List Value) : Prop :=
  ∀ item ∈ items, item.isScalar = true

instance (items : List Value) : Decidable (AreScalars items) := by
  unfold AreScalars
  infer_instance

variable {items others : List Value} {value : Value}

theorem parameter_of_areScalars (areScalars : AreScalars items) :
    (list items).parameter = Text.glue " " (items.map shown) := by
  rw [parameter, if_pos (List.all_eq_true.mpr areScalars)]

theorem parameter_list_of_not (notScalars : ¬ AreScalars items) :
    (list items).parameter = (list items).shown := by
  rw [parameter, if_neg fun all => notScalars (List.all_eq_true.mp all)]

/-- A list of scalars is split back where no item has a blank of its own. -/
theorem splitOn_parameter_iff (isFilled : items ≠ [])
    (areScalars : AreScalars items) :
    (list items).parameter.toList.splitOn ' ' =
        items.map (fun item => item.shown.toList) ↔
      ∀ item ∈ items, ' ' ∉ item.shown.toList := by
  have shownFilled : items.map shown ≠ [] := by simpa using isFilled
  have splits := Text.splitOn_glue_iff shownFilled
  rw [List.map_map, List.forall_mem_map] at splits
  rw [parameter_of_areScalars areScalars]
  exact splits

/-- Lists of scalars without blanks that make one parameter are shown item by
item alike. -/
theorem map_shown_eq_of_parameter_eq
    (isFilled : items ≠ []) (otherFilled : others ≠ [])
    (areScalars : AreScalars items) (otherScalars : AreScalars others)
    (areFree : ∀ item ∈ items, ' ' ∉ item.shown.toList)
    (otherFree : ∀ item ∈ others, ' ' ∉ item.shown.toList)
    (same : (list items).parameter = (list others).parameter) :
    items.map shown = others.map shown := by
  have isSplit := (splitOn_parameter_iff isFilled areScalars).mpr areFree
  have otherSplit :=
    (splitOn_parameter_iff otherFilled otherScalars).mpr otherFree
  rw [same, otherSplit] at isSplit
  have sameCharacters : (items.map shown).map String.toList =
      (others.map shown).map String.toList := by
    rw [List.map_map, List.map_map]
    exact isSplit.symm
  exact (List.map_inj_right fun _ _ => String.toList_inj.mp).mp
    sameCharacters

theorem areScalars_texts (texts : List String) :
    AreScalars (texts.map text) :=
  List.forall_mem_map.mpr fun _ _ => rfl

theorem map_shown_texts (texts : List String) :
    (texts.map text).map shown = texts := by
  rw [List.map_map]
  exact List.map_id texts

/-! ## The joined items beside the document -/

theorem length_shown_le_of_isScalar (isScalar : value.isScalar = true) :
    value.shown.toList.length ≤ value.toJson.compact.length := by
  cases value with
  | scalar held => exact held.length_shown_le
  | list items => cases isScalar
  | nested members => cases isScalar

/-- Behind the first item, each item brings a blank where the document has a
comma, and the document has a bracket at the end. -/
theorem length_following_lt (areScalars : AreScalars items) :
    ((items.map shown).flatMap fun part =>
        " ".toList ++ part.toList).length <
      (Json.compactItems (itemsToJson items)).length := by
  induction items with
  | nil => decide
  | cons next others inductionHypothesis =>
      obtain ⟨nextScalar, othersScalars⟩ := List.forall_mem_cons.mp areScalars
      have isShort := length_shown_le_of_isScalar nextScalar
      have areShort := inductionHypothesis othersScalars
      have oneBlank : " ".toList.length = 1 := by decide
      simp only [List.map_cons, List.flatMap_cons, List.length_append,
        itemsToJson, Json.compactItems, List.length_cons]
      omega

/-- The joined items are shorter than the document of the list, which opens
with a bracket besides. -/
theorem length_glue_lt (areScalars : AreScalars items) :
    (Text.glue " " (items.map shown)).toList.length <
      (list items).shown.toList.length := by
  cases items with
  | nil => decide
  | cons first rest =>
      obtain ⟨firstScalar, restScalars⟩ := List.forall_mem_cons.mp areScalars
      have isShort := length_shown_le_of_isScalar firstScalar
      have areShort := length_following_lt restScalars
      have isShown : (list (first :: rest)).shown.toList =
          '[' :: (first.toJson.compact ++
            Json.compactItems (itemsToJson rest)) := by
        rw [shown, Json.compactText, String.toList_ofList, toJson,
          itemsToJson, Json.compact]
        · intro _ impossible
          cases impossible
      rw [List.map_cons, Text.toList_glue_cons, isShown, List.length_append,
        List.length_cons, List.length_append]
      omega

theorem parameter_ne_shown (areScalars : AreScalars items) :
    (list items).parameter ≠ (list items).shown := by
  intro same
  have isShorter := length_glue_lt areScalars
  rw [← parameter_of_areScalars areScalars, same] at isShorter
  exact Nat.lt_irrefl _ isShorter

/-- **Lists of scalars as parameters.**

Splitting the parameter of a list of scalars, which is not empty, at every
blank gives the items as they are shown, in order and with the empty ones,
exactly where no item is shown with a blank.  So lists of items without blanks
that make one parameter are shown alike, and lists of texts are then the same.
A value is a parameter in the form in which it is shown exactly where it is no
list of scalars. -/
theorem flattened_lists_split_back :
    (∀ items : List Value, items ≠ [] → AreScalars items →
      ((list items).parameter.toList.splitOn ' ' =
          items.map (fun item => item.shown.toList) ↔
        ∀ item ∈ items, ' ' ∉ item.shown.toList)) ∧
    (∀ items others : List Value, items ≠ [] → others ≠ [] →
      AreScalars items → AreScalars others →
      (∀ item ∈ items, ' ' ∉ item.shown.toList) →
      (∀ item ∈ others, ' ' ∉ item.shown.toList) →
      (list items).parameter = (list others).parameter →
      items.map shown = others.map shown) ∧
    (∀ texts others : List String, texts ≠ [] → others ≠ [] →
      (∀ part ∈ texts, ' ' ∉ part.toList) →
      (∀ part ∈ others, ' ' ∉ part.toList) →
      (list (texts.map text)).parameter = (list (others.map text)).parameter →
      texts = others) ∧
    ∀ value : Value,
      value.parameter = value.shown ↔
        ¬ ∃ items, value = list items ∧ AreScalars items := by
  refine ⟨?_, ?_, ?_, ?_⟩
  · intro items isFilled areScalars
    exact splitOn_parameter_iff isFilled areScalars
  · intro items others isFilled otherFilled areScalars otherScalars
    exact map_shown_eq_of_parameter_eq isFilled otherFilled areScalars
      otherScalars
  · intro texts others isFilled otherFilled areFree otherFree same
    have sameShown := map_shown_eq_of_parameter_eq
      (by simpa using isFilled) (by simpa using otherFilled)
      (areScalars_texts texts) (areScalars_texts others)
      (List.forall_mem_map.mpr areFree) (List.forall_mem_map.mpr otherFree)
      same
    rwa [map_shown_texts, map_shown_texts] at sameShown
  · intro value
    constructor
    · rintro same ⟨items, rfl, areScalars⟩
      exact parameter_ne_shown areScalars same
    · intro notFlat
      cases value with
      | scalar held => rfl
      | nested members => rfl
      | list items =>
          apply parameter_list_of_not
          intro areScalars
          exact notFlat ⟨items, rfl, areScalars⟩

/-- A list with an empty text and scalars of every kind. -/
def mixedItems : List Value :=
  [text "TLSv1.3", text "", integer (-7), boolean true]

theorem flattened_lists_split_back_sample :
    AreScalars mixedItems ∧
    (list mixedItems).parameter = "TLSv1.3  -7 true" ∧
    (list mixedItems).parameter.toList.splitOn ' ' =
      mixedItems.map (fun item => item.shown.toList) ∧
    (list [text "-7", text "true"]).parameter =
      (list [integer (-7), boolean true]).parameter ∧
    [text "-7", text "true"].map shown =
      [integer (-7), boolean true].map shown ∧
    (list (["TLSv1.3", "", "no"].map text)).parameter = "TLSv1.3  no" ∧
    ["TLSv1.3", "", "no"] = Text.splitAt ' ' "TLSv1.3  no" := by
  obtain ⟨splits, areShownAlike, isInjective, -⟩ := flattened_lists_split_back
  refine ⟨by decide, rfl, ?_, rfl, ?_, rfl, ?_⟩
  · exact (splits mixedItems (by decide) (by decide)).mpr (by decide)
  · exact areShownAlike [text "-7", text "true"] [integer (-7), boolean true]
      (by decide) (by decide) (by decide) (by decide) (by decide) (by decide)
      rfl
  · exact isInjective ["TLSv1.3", "", "no"] (Text.splitAt ' ' "TLSv1.3  no")
      (by decide) (by decide) (by decide) (by decide) rfl

end Value

end Provision
