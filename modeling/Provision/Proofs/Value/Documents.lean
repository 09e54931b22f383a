import Mathlib.Data.List.Basic
import Provision.Proofs.Json.Rereading
import Provision.Proofs.Value.Slots

/-!
Contract: values and their data documents, in both directions.

The document of a value says everything about the value, also as a text.  The
value of a document forgets three things only: the nulls inside containers,
and for a number that no integer value can hold, that it was no text.

Owns:
- the values whose names are distinct, with the depth of their documents;
- the reading of a document of a value, of its text and of its parameter;
- `Json.kept`, what a value keeps of the document that it was read from.

Does not own: the requests that documents are sent in.
-/

namespace Provision

/-! ## What a value keeps of a document -/

namespace Json

/-- An integer of 64 bits with sign is kept, any other number is kept as its
text. -/
def Number.kept : Number → Json
  | .integer value =>
      if -0x8000000000000000 ≤ value ∧ value < 0x8000000000000000 then
        .number (.integer value)
      else .string (String.ofList (Number.integer value).text)
  | .real value => .string (String.ofList (Number.real value).text)

mutual

/-- The document without its nulls, with every number as it is kept. -/
def kept : Json → Json
  | .number value => value.kept
  | .array items => .array (keptItems items)
  | .object members => .object (keptMembers members)
  | document => document

/-- The items that are not null. -/
def keptItems : List Json → List Json
  | [] => []
  | item :: rest =>
      if item = .null then keptItems rest else kept item :: keptItems rest

/-- The members that are not null. -/
def keptMembers : List (String × Json) → List (String × Json)
  | [] => []
  | (name, value) :: rest =>
      if value = .null then keptMembers rest
      else (name, kept value) :: keptMembers rest

end

/-- The items that are kept stay in order. -/
theorem keptItems_eq (items : List Json) :
    keptItems items = (items.filter fun item => item ≠ .null).map kept := by
  induction items with
  | nil => rfl
  | cons item rest inductionHypothesis =>
      by_cases isNull : item = .null <;>
        simp [keptItems, isNull, inductionHypothesis]

/-- The members that are kept stay in order under their names. -/
theorem keptMembers_eq (members : List (String × Json)) :
    keptMembers members =
      (members.filter fun member => member.2 ≠ .null).map fun member =>
        (member.1, member.2.kept) := by
  induction members with
  | nil => rfl
  | cons member rest inductionHypothesis =>
      by_cases isNull : member.2 = .null <;>
        simp [keptMembers, isNull, inductionHypothesis]

theorem names_keptMembers_sublist (members : List (String × Json)) :
    (Members.names (keptMembers members)).Sublist (Members.names members) := by
  rw [keptMembers_eq, Members.names_map]
  exact List.filter_sublist.map Prod.fst

/-- What is kept of a document nests no deeper than the document. -/
theorem Fits.kept {accepts : Number → Prop} {depth : Nat} {document : Json}
    (fits : document.Fits accepts depth) :
    document.kept.Fits (fun _ => True) depth := by
  induction fits with
  | null => exact .null
  | boolean flag => exact .boolean flag
  | @number _ number _ =>
      rw [Json.kept]
      unfold Number.kept
      split
      · split
        · exact .number trivial
        · exact .string _
      · exact .string _
  | string text => exact .string text
  | array _ inductionHypothesis =>
      rw [Json.kept, keptItems_eq]
      refine .array (List.forall_mem_map.mpr fun item isKept => ?_)
      exact inductionHypothesis item (List.mem_of_mem_filter isKept)
  | @object _ members distinct _ inductionHypothesis =>
      have stayDistinct : Members.Distinct (keptMembers members) :=
        distinct.sublist (names_keptMembers_sublist members)
      rw [Json.kept]
      refine .object stayDistinct ?_
      rw [keptMembers_eq]
      refine List.forall_mem_map.mpr fun member isKept => ?_
      exact inductionHypothesis member (List.mem_of_mem_filter isKept)

end Json

namespace Value

/-! ## Values that fit a depth -/

/-- Lists and sets nest at most to a depth, and the names in each set are
distinct. -/
inductive Fits : Nat → Value → Prop where
  | scalar {depth : Nat} (value : Scalar) : Fits depth (.scalar value)
  | list {depth : Nat} {items : List Value}
      (allFit : ∀ item ∈ items, Fits depth item) :
      Fits (depth + 1) (.list items)
  | nested {depth : Nat} {members : List (String × Value)}
      (distinct : Members.Distinct members)
      (allFit : ∀ member ∈ members, Fits depth member.2) :
      Fits (depth + 1) (.nested members)

variable {depth : Nat} {value : Value} {document : Json}

/-- What fits a depth fits every greater one. -/
theorem Fits.mono {deeper : Nat} (fits : value.Fits depth)
    (isDeeper : depth ≤ deeper) : value.Fits deeper := by
  induction fits generalizing deeper with
  | scalar scalar => exact .scalar scalar
  | list _ inductionHypothesis =>
      cases deeper with
      | zero => exact absurd isDeeper (Nat.not_succ_le_zero _)
      | succ below =>
          exact .list fun item isItem =>
            inductionHypothesis item isItem
              (Nat.le_of_succ_le_succ isDeeper)
  | nested distinct _ inductionHypothesis =>
      cases deeper with
      | zero => exact absurd isDeeper (Nat.not_succ_le_zero _)
      | succ below =>
          exact .nested distinct fun member isMember =>
            inductionHypothesis member isMember
              (Nat.le_of_succ_le_succ isDeeper)

theorem inRange_toInt (number : Int64) :
    -0x8000000000000000 ≤ number.toInt ∧
      number.toInt < 0x8000000000000000 :=
  ⟨number.le_toInt, number.toInt_lt⟩

/-- The document of a value nests as deep as the value, and has no number that
is not read back. -/
theorem Fits.toJson (fits : value.Fits depth) :
    value.toJson.Fits Json.Number.ReadsBack depth := by
  induction fits with
  | scalar scalar =>
      cases scalar with
      | text text => exact .string text
      | integer number =>
          have inRange := inRange_toInt number
          exact .number (Json.Number.readsBack_integer
            ⟨inRange.1, Int.lt_trans inRange.2 (by decide)⟩)
      | boolean flag => exact .boolean flag
  | list _ inductionHypothesis =>
      rw [Value.toJson, itemsToJson_eq_map]
      exact .array (List.forall_mem_map.mpr inductionHypothesis)
  | nested distinct _ inductionHypothesis =>
      rw [Value.toJson, membersToJson_eq_map]
      refine .object ?_ (List.forall_mem_map.mpr inductionHypothesis)
      rwa [Members.Distinct, Members.names_map]

/-- A value fits a depth where its document does. -/
theorem fits_iff :
    value.Fits depth ↔ value.toJson.Fits (fun _ => True) depth := by
  constructor
  · intro fits
    exact fits.toJson.of_parts fun _ _ _ => trivial
  · intro fits
    generalize isDocument : value.toJson = document at fits
    induction fits generalizing value with
    | array _ inductionHypothesis =>
        cases value with
        | scalar scalar => cases scalar <;> cases isDocument
        | nested members => cases isDocument
        | list items =>
            rw [Value.toJson, itemsToJson_eq_map] at isDocument
            cases isDocument
            exact .list fun item isItem =>
              inductionHypothesis _ (List.mem_map_of_mem isItem) rfl
    | object distinct _ inductionHypothesis =>
        cases value with
        | scalar scalar => cases scalar <;> cases isDocument
        | list items => cases isDocument
        | nested members =>
            rw [Value.toJson, membersToJson_eq_map] at isDocument
            cases isDocument
            rw [Members.Distinct, Members.names_map] at distinct
            exact .nested distinct fun member isMember =>
              inductionHypothesis (member.1, member.2.toJson)
                (List.mem_map_of_mem isMember) rfl
    | _ =>
        cases value with
        | scalar scalar => exact .scalar scalar
        | _ => cases isDocument

/-! ## The value of the document of a value -/

theorem itemsOfJson_eq_filterMap (items : List Json) :
    itemsOfJson items = items.filterMap ofJson? := by
  induction items with
  | nil => rfl
  | cons item rest inductionHypothesis =>
      cases isValue : ofJson? item <;>
        simp [itemsOfJson, isValue, inductionHypothesis]

theorem membersOfJson_eq_filterMap (members : List (String × Json)) :
    membersOfJson members =
      members.filterMap fun member =>
        (ofJson? member.2).map fun value => (member.1, value) := by
  induction members with
  | nil => rfl
  | cons member rest inductionHypothesis =>
      cases isValue : ofJson? member.2 <;>
        simp [membersOfJson, isValue, inductionHypothesis]

/-- Null alone has no value. -/
theorem ofJson?_eq_none_iff : ofJson? document = none ↔ document = .null := by
  cases document <;> simp [ofJson?]

theorem ne_null_of_ofJson? (isValue : ofJson? document = some value) :
    document ≠ .null := fun isNull => by
  rw [ofJson?_eq_none_iff.mpr isNull] at isValue
  cases isValue

theorem ofInt?_toInt (number : Int64) : ofInt? number.toInt = some number := by
  rw [ofInt?, if_pos (inRange_toInt number), Int64.ofInt_toInt]

/-- A value is read back from its document. -/
theorem Fits.ofJson?_toJson (fits : value.Fits depth) :
    ofJson? value.toJson = some value := by
  induction fits with
  | scalar scalar =>
      cases scalar with
      | text text => rfl
      | integer number =>
          simp only [Value.toJson, Scalar.toJson, ofJson?, ofNumber,
            ofInt?_toInt]
          rfl
      | boolean flag => rfl
  | @list _ items _ inductionHypothesis =>
      have areRead : itemsOfJson (itemsToJson items) = items := by
        rw [itemsOfJson_eq_filterMap, itemsToJson_eq_map, List.filterMap_map]
        exact (List.filterMap_congr inductionHypothesis).trans
          List.filterMap_some
      rw [Value.toJson, ofJson?, areRead]
  | @nested _ members distinct _ inductionHypothesis =>
      have areRead : membersOfJson (membersToJson members) = members := by
        rw [membersOfJson_eq_filterMap, membersToJson_eq_map,
          List.filterMap_map]
        refine (List.filterMap_congr fun member isMember => ?_).trans
          List.filterMap_some
        rw [Function.comp_apply, inductionHypothesis member isMember]
        rfl
      rw [Value.toJson, ofJson?, areRead,
        Members.ofPairs_of_distinct distinct]

/-- A value is read back from the text of its document. -/
theorem Fits.parse_compactText (fits : value.Fits Json.greatestDepth) :
    Json.parse value.toJson.compactText = some value.toJson :=
  Json.parse_compactText fits.toJson

/-! ## The parameter of a value -/

/-- One value stands somewhere inside another, or is the same. -/
inductive IsPart (part : Value) : Value → Prop where
  | here : IsPart part part
  | item {items : List Value} {item : Value} (isItem : item ∈ items)
      (isPart : IsPart part item) : IsPart part (.list items)
  | member {members : List (String × Value)} {member : String × Value}
      (isMember : member ∈ members) (isPart : IsPart part member.2) :
      IsPart part (.nested members)

/-- A nested set, or a list with an item that is no scalar. -/
inductive IsStructured : Value → Prop where
  | nested (members : List (String × Value)) : IsStructured (.nested members)
  | list {items : List Value} {item : Value} (isItem : item ∈ items)
      (notScalar : item.isScalar = false) : IsStructured (.list items)

/-- A scalar has no structured part. -/
theorem IsStructured.of_isPart {part : Value} (isPart : IsPart part value)
    (structured : part.IsStructured) : value.IsStructured := by
  induction isPart with
  | here => exact structured
  | item isItem _ inductionHypothesis =>
      refine .list isItem ?_
      cases inductionHypothesis <;> rfl
  | member _ _ _ => exact .nested _

/-- A structured value is one parameter as the text of its document. -/
theorem IsStructured.parameter_eq (structured : value.IsStructured) :
    value.parameter = value.toJson.compactText := by
  cases structured with
  | nested members => rfl
  | @list items item isItem notScalar =>
      have notAll : ¬ items.all isScalar = true := by
        rw [List.all_eq_true]
        intro allScalar
        rw [allScalar item isItem] at notScalar
        cases notScalar
      rw [parameter, if_neg notAll]
      rfl

/-! ## The document of the value of a document -/

/-- The value of a number has the document that is kept of the number. -/
theorem toJson_ofNumber (number : Json.Number) :
    (ofNumber number).toJson = number.kept := by
  cases number with
  | real value => rfl
  | integer value =>
      by_cases inRange : -0x8000000000000000 ≤ value ∧
          value < 0x8000000000000000
      · simp only [ofNumber, ofInt?, if_pos inRange, Json.Number.kept]
        simp only [Value.integer, Value.toJson, Scalar.toJson,
          Int64.toInt_ofInt_of_le inRange.1 inRange.2]
      · simp only [ofNumber, ofInt?, if_neg inRange, Json.Number.kept]
        rfl

/-- The values of items have the documents that are kept of the items. -/
theorem itemsToJson_itemsOfJson {items : List Json}
    (areKept : ∀ item ∈ items, ∀ value, ofJson? item = some value →
      value.toJson = item.kept) :
    itemsToJson (itemsOfJson items) = Json.keptItems items := by
  induction items with
  | nil => rfl
  | cons item rest inductionHypothesis =>
      rw [List.forall_mem_cons] at areKept
      have areLater := inductionHypothesis areKept.2
      cases isRead : ofJson? item with
      | none =>
          rw [itemsOfJson, isRead, Json.keptItems,
            if_pos (ofJson?_eq_none_iff.mp isRead)]
          exact areLater
      | some value =>
          rw [itemsOfJson, isRead, Json.keptItems,
            if_neg (ne_null_of_ofJson? isRead), ← areKept.1 value isRead,
            ← areLater]
          rfl

theorem membersToJson_membersOfJson {members : List (String × Json)}
    (areKept : ∀ member ∈ members, ∀ value, ofJson? member.2 = some value →
      value.toJson = member.2.kept) :
    membersToJson (membersOfJson members) = Json.keptMembers members := by
  induction members with
  | nil => rfl
  | cons member rest inductionHypothesis =>
      obtain ⟨name, item⟩ := member
      rw [List.forall_mem_cons] at areKept
      have areLater := inductionHypothesis areKept.2
      cases isRead : ofJson? item with
      | none =>
          rw [membersOfJson, isRead, Json.keptMembers,
            if_pos (ofJson?_eq_none_iff.mp isRead)]
          exact areLater
      | some value =>
          rw [membersOfJson, isRead, Json.keptMembers,
            if_neg (ne_null_of_ofJson? isRead), ← areKept.1 value isRead,
            ← areLater]
          rfl

/-- The value of a document has the document that is kept of it. -/
theorem toJson_eq_kept {accepts : Json.Number → Prop}
    (fits : document.Fits accepts depth)
    (isValue : ofJson? document = some value) :
    value.toJson = document.kept := by
  induction fits generalizing value with
  | null => cases isValue
  | boolean flag =>
      cases isValue
      rfl
  | number _ =>
      cases isValue
      exact toJson_ofNumber _
  | string text =>
      cases isValue
      rfl
  | @array _ items _ inductionHypothesis =>
      have areKept : itemsToJson (itemsOfJson items) = Json.keptItems items :=
        itemsToJson_itemsOfJson fun item isItem _ =>
          inductionHypothesis item isItem
      cases isValue
      rw [Value.toJson, Json.kept, areKept]
  | @object _ members distinct _ inductionHypothesis =>
      have areKept : membersToJson (membersOfJson members) =
          Json.keptMembers members :=
        membersToJson_membersOfJson fun member isMember _ =>
          inductionHypothesis member isMember
      have stayDistinct : Members.Distinct (membersOfJson members) := by
        rw [Members.Distinct, ← names_membersToJson, areKept]
        exact distinct.sublist (Json.names_keptMembers_sublist members)
      rw [ofJson?, Members.ofPairs_of_distinct stayDistinct] at isValue
      cases isValue
      rw [Value.toJson, Json.kept, areKept]

/-- **Values and documents determine each other, but for what is left out.**

A value whose names are distinct and whose document may nest as deep as a
document can is read back from the document, from the compact text of it, and,
where some part of it is a nested set or a list with an item that is no scalar,
from its one parameter.  A document has no value exactly where it is null; any
other document has a value, whose document is the first one without the nulls
inside its containers and with the text of every number that is no integer of
64 bits with sign, and from there the same value is read again. -/
theorem documents_of_values_and_back :
    (∀ value : Value, value.toJson.Fits (fun _ => True) Json.greatestDepth →
      Json.parse value.toJson.compactText = some value.toJson ∧
      ofJson? value.toJson = some value ∧
      ∀ part : Value, IsPart part value → part.IsStructured →
        (Json.parse value.parameter).bind ofJson? = some value) ∧
    (∀ document, ofJson? document = none ↔ document = .null) ∧
    ∀ (depth : Nat) (document : Json),
      document.Fits (fun _ => True) depth → document ≠ .null →
      ∃ value,
        ofJson? document = some value ∧
        value.toJson = document.kept ∧
        ofJson? document.kept = some value := by
  refine ⟨fun value isShallow => ?_, fun document => ofJson?_eq_none_iff, ?_⟩
  · have fits := fits_iff.mpr isShallow
    refine ⟨fits.parse_compactText, fits.ofJson?_toJson, ?_⟩
    intro part isPart structured
    have structured := IsStructured.of_isPart isPart structured
    rw [structured.parameter_eq, fits.parse_compactText, Option.bind_some,
      fits.ofJson?_toJson]
  · intro depth document fits notNull
    obtain ⟨value, isValue⟩ := Option.ne_none_iff_exists'.mp
      (mt ofJson?_eq_none_iff.mp notNull)
    have isKept := toJson_eq_kept fits isValue
    have valueFits := fits_iff.mpr (isKept.symm ▸ fits.kept)
    refine ⟨value, isValue, isKept, ?_⟩
    rw [← isKept, valueFits.ofJson?_toJson]

/-- A list of groups, with characters that a text of a document escapes. -/
def groupedValue : Value :=
  .list [.nested [("a \"b\"", .text "\\\n"), ("c", .list [])], .integer (-1)]

/-- A document with nulls at two levels and with a number that no integer
value holds. -/
def undefinedDocument : Json :=
  .object [("a", .null), ("b", .array [.null]),
    ("c", .number (.integer 0x8000000000000000))]

theorem documents_of_values_and_back_sample :
    (Json.parse groupedValue.parameter).bind ofJson? = some groupedValue ∧
    ∃ value,
      ofJson? undefinedDocument = some value ∧
      value.toJson =
        .object [("b", .array []), ("c", .string "9223372036854775808")] ∧
      ofJson? value.toJson = some value := by
  have fits : groupedValue.Fits Json.greatestDepth := by
    refine .list ?_
    simp only [List.forall_mem_cons]
    refine ⟨.nested (by decide) ?_, .scalar _, by simp⟩
    simp only [List.forall_mem_cons]
    exact ⟨.scalar _, .list (by simp), by simp⟩
  have documentFits : undefinedDocument.Fits (fun _ => True) 2 := by
    refine .object (by decide) ?_
    simp only [List.forall_mem_cons]
    exact ⟨.null, .array (by simpa using .null), .number trivial, by simp⟩
  obtain ⟨ofValue, -, ofDocument⟩ := documents_of_values_and_back
  obtain ⟨value, isValue, isKept, isAgain⟩ :=
    ofDocument 2 undefinedDocument documentFits (by decide)
  refine ⟨(ofValue groupedValue (fits_iff.mp fits)).2.2 _ .here
    (.list (List.mem_cons_self) rfl), value, isValue, ?_, ?_⟩
  · rw [isKept]
    decide
  · rw [isKept, isAgain]

end Value

end Provision
