import Provision.Proofs.Json.Shape

/-!
Contract: reading back the text of a document.

A document that fits the greatest depth, and whose numbers are read back, is
read from its pretty text and from its compact text.  Nothing but the blanks
between the marks tells the two texts apart.

Owns:
- the reading of strings with their escapes;
- the reading of items and members between blanks, whatever prints them;
- the reading of what a layout prints;
- the pretty text and the compact text as layouts.

Does not own: which numbers are read back.
-/

namespace Provision.Json

/-! ## Strings -/

/-- A control character is written with four digits that are its number. -/
theorem hexUnit_of_lt {unit : Nat} (isControl : unit < 0x20) :
    ∃ first second third fourth,
      Text.padLeft 4 (Text.hexadecimal unit) =
        [first, second, third, fourth] ∧
      hexUnit first second third fourth = some unit := by
  have isPadded : ∀ unit < 0x20,
      (Text.padLeft 4 (Text.hexadecimal unit)).length = 4 ∧
      Text.readNatural 16 (Text.padLeft 4 (Text.hexadecimal unit)) =
        some unit := by decide
  obtain ⟨hasFour, isUnit⟩ := isPadded unit isControl
  generalize Text.padLeft 4 (Text.hexadecimal unit) = digits at *
  match digits, hasFour with
  | [first, second, third, fourth], _ =>
      exact ⟨first, second, third, fourth, rfl, isUnit⟩

theorem readCharacters_short {mark character : Char} (rest : List Char)
    (isShort : shortEscape mark = some character) :
    readCharacters none ('\\' :: mark :: rest) =
      prepend character (readCharacters none rest) := by
  have notUnit : mark ≠ 'u' := by
    rintro rfl
    cases isShort
  simp [readCharacters, notUnit, isShort]

/-- A character that was escaped is read off. -/
theorem readCharacters_escape (character : Char) (rest : List Char) :
    readCharacters none (escape character ++ rest) =
      prepend character (readCharacters none rest) := by
  have short {mark : Char} (isShort : shortEscape mark = some character) :
      readCharacters none (['\\', mark] ++ rest) =
        prepend character (readCharacters none rest) :=
    readCharacters_short rest isShort
  unfold escape
  split
  · next isQuote => exact short (by rw [isQuote]; rfl)
  split
  · next isBackslash => exact short (by rw [isBackslash]; rfl)
  split
  · next isBackspace => exact short (by rw [isBackspace]; rfl)
  split
  · next isFormFeed => exact short (by rw [isFormFeed]; rfl)
  split
  · next isLineFeed => exact short (by rw [isLineFeed]; rfl)
  split
  · next isReturn => exact short (by rw [isReturn]; rfl)
  split
  · next isTab => exact short (by rw [isTab]; rfl)
  split
  · next isControl =>
      obtain ⟨first, second, third, fourth, isPadded, isUnit⟩ :=
        hexUnit_of_lt isControl
      have notHigh : isHighHalf character.toNat = false := by
        simp [isHighHalf]
        omega
      have notLow : isLowHalf character.toNat = false := by
        simp [isLowHalf]
        omega
      simp [isPadded, readCharacters, isUnit, notHigh, notLow,
        Char.ofNat_toNat]
  · next notQuote notBackslash _ _ _ _ _ notControl =>
      simp [readCharacters, notBackslash, notControl]

theorem readCharacters_flatMap_escape (text more : List Char) :
    readCharacters none (text.flatMap escape ++ '"' :: more) =
      some (text, more) := by
  induction text with
  | nil => simp [readCharacters]
  | cons first rest inductionHypothesis =>
      rw [List.flatMap_cons, List.append_assoc, readCharacters_escape,
        inductionHypothesis]
      rfl

/-- A string is read back. -/
theorem readString_quoted (text : String) (more : List Char) :
    readString (quoted text ++ more) = some (text, more) := by
  have isRead := readCharacters_flatMap_escape text.toList more
  simp [quoted, readString, isRead]

/-! ## Blanks -/

/-- A text of nothing but blanks. -/
def IsBlank (text : List Char) : Prop :=
  ∀ character ∈ text, isSpace character = true

theorem IsBlank.nil : IsBlank [] := fun _ isMember => by cases isMember

theorem skipSpace_cons {character : Char}
    (isMark : isSpace character = false) (rest : List Char) :
    skipSpace (character :: rest) = character :: rest :=
  List.dropWhile_cons_of_neg (by simp [isMark])

theorem isBlank_newLine (level : Nat) : IsBlank (newLine level) := by
  intro character isMember
  rcases List.mem_cons.mp isMember with rfl | isMember
  · rfl
  · rw [List.eq_of_mem_replicate isMember]
    rfl

theorem isBlank_space : IsBlank [' '] := by
  intro character isMember
  rw [List.mem_singleton.mp isMember]
  rfl

theorem IsBlank.skipSpace_append {blank : List Char} (isBlank : IsBlank blank)
    (text : List Char) : skipSpace (blank ++ text) = skipSpace text :=
  List.dropWhile_append_of_pos isBlank

/-- A blank or a mark ends a number. -/
theorem IsBlank.endsNumeral_append {blank : List Char}
    (isBlank : IsBlank blank) {mark : Char} (isOther : isNumeral mark = false)
    (rest : List Char) : EndsNumeral (blank ++ mark :: rest) := by
  cases blank with
  | nil => exact .cons isOther rest
  | cons first others =>
      refine .cons ?_ _
      cases numeral : isNumeral first with
      | false => rfl
      | true =>
          have notSpace := isSpace_of_isNumeral numeral
          rw [isBlank first (by simp)] at notSpace
          cases notSpace

/-! ## Items -/

section Items

variable {α : Type}

/-- The items after the first one with blanks before each item and before the
closing bracket. -/
def itemsText (before closing : List Char) (print : α → List Char) :
    List α → List Char
  | [] => closing ++ [']']
  | item :: rest =>
      ',' :: (before ++ print item ++ itemsText before closing print rest)

/-- A reader takes a value off its text, with the blanks before it gone. -/
def TakesOff (item : Reader α) (text : List Char) (value : α) : Prop :=
  ∀ more, EndsNumeral more →
    item (skipSpace (text ++ more)) = some (value, more)

variable {before closing : List Char} {print : α → List Char}

theorem endsNumeral_itemsText (before : List Char) (print : α → List Char)
    (isBlank : IsBlank closing) (rest : List α) (more : List Char) :
    EndsNumeral (itemsText before closing print rest ++ more) := by
  cases rest with
  | nil =>
      rw [itemsText, List.append_assoc]
      exact isBlank.endsNumeral_append (by decide) more
  | cons item others => exact .cons (by decide) _

theorem readItems_itemsText {item : Reader α} (beforeBlank : IsBlank before)
    (closingBlank : IsBlank closing) {first : α} {rest : List α}
    (takesOff : ∀ value ∈ first :: rest, TakesOff item (print value) value)
    {bound : Nat} (isBounded : rest.length < bound) (more : List Char) :
    readItems item bound
        (before ++ print first ++ itemsText before closing print rest ++ more) =
      some (first :: rest, more) := by
  induction rest generalizing first bound with
  | nil =>
      cases bound with
      | zero => cases isBounded
      | succ bound =>
          have ends := endsNumeral_itemsText before print closingBlank [] more
          have isFirst := takesOff first (by simp) _ ends
          simp only [readItems, List.append_assoc,
            beforeBlank.skipSpace_append, isFirst]
          simp only [itemsText, List.append_assoc,
            closingBlank.skipSpace_append, List.singleton_append]
          rfl
  | cons next others inductionHypothesis =>
      cases bound with
      | zero => cases isBounded
      | succ bound =>
          have ends := endsNumeral_itemsText before print closingBlank
            (next :: others) more
          have isFirst := takesOff first (by simp) _ ends
          have laterTakesOff : ∀ value ∈ next :: others,
              TakesOff item (print value) value := fun value isMember =>
            takesOff value (by simp [isMember])
          have isLater := inductionHypothesis laterTakesOff
            (Nat.lt_of_succ_lt_succ isBounded)
          simp only [List.append_assoc] at isLater
          simp only [readItems, List.append_assoc,
            beforeBlank.skipSpace_append, isFirst]
          simp only [itemsText, List.cons_append, List.append_assoc,
            skipSpace_cons (by decide : isSpace ',' = false), isLater]
          rfl

/-- An array is read back, where no item begins with its closing bracket. -/
theorem readArray_itemsText {item : Reader α} (beforeBlank : IsBlank before)
    (closingBlank : IsBlank closing)
    (refusesClosing : ∀ rest, item (']' :: rest) = none)
    {first : α} {rest : List α}
    (takesOff : ∀ value ∈ first :: rest, TakesOff item (print value) value)
    {bound : Nat} (isBounded : rest.length < bound) (more : List Char) :
    readArray item bound
        (before ++ print first ++ itemsText before closing print rest ++ more) =
      some (first :: rest, more) := by
  have isRead := readItems_itemsText beforeBlank closingBlank takesOff
    isBounded more
  unfold readArray
  split
  · next behind isClosing =>
      -- A first item that began with the bracket would not have been read.
      have ends := endsNumeral_itemsText before print closingBlank rest more
      have isFirst := takesOff first (by simp) _ ends
      simp only [List.append_assoc, beforeBlank.skipSpace_append] at isClosing
      rw [isClosing, refusesClosing] at isFirst
      cases isFirst
  · exact isRead

theorem length_lt_itemsText (before closing : List Char)
    (print : α → List Char) (rest : List α) :
    rest.length < (itemsText before closing print rest).length := by
  induction rest with
  | nil => simp [itemsText]
  | cons item others inductionHypothesis =>
      simp only [itemsText, List.length_cons, List.length_append]
      omega

theorem length_le_itemsText (before closing : List Char)
    (print : α → List Char) {rest : List α} {item : α}
    (isMember : item ∈ rest) :
    (print item).length ≤ (itemsText before closing print rest).length := by
  induction rest with
  | nil => cases isMember
  | cons first others inductionHypothesis =>
      simp only [itemsText, List.length_cons, List.length_append]
      rcases List.mem_cons.mp isMember with rfl | isLater
      · omega
      · have isShort := inductionHypothesis isLater
        omega

end Items

/-! ## Members -/

section Members

variable {α : Type}

/-- The members after the first one with blanks before each name, before each
value and before the closing brace. -/
def membersText (before gap closing : List Char) (print : α → List Char) :
    List (String × α) → List Char
  | [] => closing ++ ['}']
  | (name, value) :: rest =>
      ',' :: (before ++ quoted name ++ ':' :: (gap ++ print value ++
        membersText before gap closing print rest))

variable {before gap closing : List Char} {print : α → List Char}

theorem endsNumeral_membersText (before gap : List Char)
    (print : α → List Char) (isBlank : IsBlank closing)
    (rest : List (String × α)) (more : List Char) :
    EndsNumeral (membersText before gap closing print rest ++ more) := by
  cases rest with
  | nil =>
      rw [membersText, List.append_assoc]
      exact isBlank.endsNumeral_append (by decide) more
  | cons member others => exact .cons (by decide) _

/-- The name of a member is read back behind blanks. -/
theorem readString_skipSpace (isBlank : IsBlank before) (name : String)
    (more : List Char) :
    readString (skipSpace (before ++ (quoted name ++ more))) =
      some (name, more) := by
  rw [isBlank.skipSpace_append, ← readString_quoted name more]
  congr 1

theorem readMembers_membersText {value : Reader α}
    (beforeBlank : IsBlank before) (gapBlank : IsBlank gap)
    (closingBlank : IsBlank closing) {name : String} {first : α}
    {rest : List (String × α)}
    (takesOff : ∀ member ∈ (name, first) :: rest,
      TakesOff value (print member.2) member.2)
    {bound : Nat} (isBounded : rest.length < bound) (more : List Char) :
    readMembers readString (fun _ => value) bound
        (before ++ quoted name ++ ':' :: (gap ++ print first ++
          membersText before gap closing print rest) ++ more) =
      some ((name, first) :: rest, more) := by
  induction rest generalizing name first bound with
  | nil =>
      cases bound with
      | zero => cases isBounded
      | succ bound =>
          have ends := endsNumeral_membersText before gap print closingBlank []
            more
          have isFirst := takesOff (name, first) (by simp) _ ends
          simp only [readMembers, List.append_assoc, List.cons_append,
            readString_skipSpace beforeBlank,
            skipSpace_cons (by decide : isSpace ':' = false),
            gapBlank.skipSpace_append, isFirst]
          simp only [membersText, List.append_assoc,
            closingBlank.skipSpace_append, List.singleton_append]
          rfl
  | cons next others inductionHypothesis =>
      cases bound with
      | zero => cases isBounded
      | succ bound =>
          have ends := endsNumeral_membersText before gap print closingBlank
            (next :: others) more
          have isFirst := takesOff (name, first) (by simp) _ ends
          have laterTakesOff : ∀ member ∈ (next.1, next.2) :: others,
              TakesOff value (print member.2) member.2 :=
            fun member isMember => takesOff member (by simp [isMember])
          have isLater := inductionHypothesis laterTakesOff
            (Nat.lt_of_succ_lt_succ isBounded)
          simp only [List.append_assoc, List.cons_append] at isLater
          simp only [readMembers, List.append_assoc, List.cons_append,
            readString_skipSpace beforeBlank,
            skipSpace_cons (by decide : isSpace ':' = false),
            gapBlank.skipSpace_append, isFirst]
          simp only [membersText, List.cons_append, List.append_assoc,
            skipSpace_cons (by decide : isSpace ',' = false), isLater]
          rfl

/-- An object is read back. -/
theorem readObject_membersText {value : Reader α}
    (beforeBlank : IsBlank before) (gapBlank : IsBlank gap)
    (closingBlank : IsBlank closing) {name : String} {first : α}
    {rest : List (String × α)}
    (takesOff : ∀ member ∈ (name, first) :: rest,
      TakesOff value (print member.2) member.2)
    {bound : Nat} (isBounded : rest.length < bound) (more : List Char) :
    readObject readString (fun _ => value) bound
        (before ++ quoted name ++ ':' :: (gap ++ print first ++
          membersText before gap closing print rest) ++ more) =
      some ((name, first) :: rest, more) := by
  have isRead := readMembers_membersText beforeBlank gapBlank closingBlank
    takesOff isBounded more
  unfold readObject
  split
  · next behind isClosing =>
      simp only [List.append_assoc, beforeBlank.skipSpace_append] at isClosing
      cases isClosing
  · exact isRead

theorem length_lt_membersText (before gap closing : List Char)
    (print : α → List Char) (rest : List (String × α)) :
    rest.length < (membersText before gap closing print rest).length := by
  induction rest with
  | nil => simp [membersText]
  | cons member others inductionHypothesis =>
      simp only [membersText, List.length_cons, List.length_append]
      omega

theorem length_le_membersText (before gap closing : List Char)
    (print : α → List Char) {rest : List (String × α)}
    {member : String × α} (isMember : member ∈ rest) :
    (print member.2).length ≤
      (membersText before gap closing print rest).length := by
  induction rest with
  | nil => cases isMember
  | cons first others inductionHypothesis =>
      simp only [membersText, List.length_cons, List.length_append]
      rcases List.mem_cons.mp isMember with rfl | isLater
      · omega
      · have isShort := inductionHypothesis isLater
        omega

end Members

/-! ## Containers -/

section Containers

variable {α : Type} {before gap closing : List Char}

/-- The text of an array with blanks before each item and before the closing
bracket. -/
def arrayText (before closing : List Char) (print : α → List Char) :
    List α → List Char
  | [] => ['[', ']']
  | first :: rest =>
      '[' :: (before ++ print first ++ itemsText before closing print rest)

/-- The text of an object with blanks before each name, before each value and
before the closing brace. -/
def objectText (before gap closing : List Char) (print : α → List Char) :
    List (String × α) → List Char
  | [] => ['{', '}']
  | (name, first) :: rest =>
      '{' :: (before ++ quoted name ++ ':' :: (gap ++ print first ++
        membersText before gap closing print rest))

theorem length_lt_arrayText (before closing : List Char)
    (print : α → List Char) {items : List α} {item : α}
    (isItem : item ∈ items) :
    (print item).length < (arrayText before closing print items).length := by
  cases items with
  | nil => cases isItem
  | cons first rest =>
      simp only [arrayText, List.length_cons, List.length_append]
      rcases List.mem_cons.mp isItem with rfl | isLater
      · omega
      · have isShort := length_le_itemsText before closing print isLater
        omega

theorem length_lt_objectText (before gap closing : List Char)
    (print : α → List Char) {members : List (String × α)}
    {member : String × α} (isMember : member ∈ members) :
    (print member.2).length <
      (objectText before gap closing print members).length := by
  cases members with
  | nil => cases isMember
  | cons first rest =>
      simp only [objectText, List.length_cons, List.length_append]
      rcases List.mem_cons.mp isMember with rfl | isLater
      · omega
      · have isShort := length_le_membersText before gap closing print isLater
        omega

theorem value_of_readLeaf_eq_some {bound depth : Nat} {text : List Char}
    {result : Json × List Char} (read : readLeaf text = some result) :
    building.value bound depth text = some result := by
  cases depth with
  | zero => exact read
  | succ depth =>
      unfold Reading.value
      split
      · cases read
      · cases read
      · exact read

theorem value_closing_eq_none (bound depth : Nat) (rest : List Char) :
    building.value bound depth (']' :: rest) = none := by
  cases depth <;> rfl

/-- A number that is read back begins without a blank. -/
theorem Number.ReadsBack.skipSpace_append {number : Number}
    (readsBack : number.ReadsBack) (more : List Char) :
    skipSpace (number.text ++ more) = number.text ++ more := by
  have isLeaf := readsBack [] .nil
  rw [List.append_nil] at isLeaf
  obtain ⟨⟨first, others, isText, -⟩, -⟩ :=
    readLeaf_eq_some_number_iff.mp isLeaf
  have isMember : first ∈ number.text := by simp [isText]
  have numeral := isNumeral_of_mem_text isMember
  rw [isText, List.cons_append, skipSpace_cons (isSpace_of_isNumeral numeral)]

section Building

variable {print : Json → List Char} {bound depth : Nat}

/-- An array is read back where its items are. -/
theorem takesOff_arrayText (beforeBlank : IsBlank before)
    (closingBlank : IsBlank closing) {items : List Json}
    (takesOff : ∀ item ∈ items,
      TakesOff (building.value bound depth) (print item) item)
    (isBounded : (arrayText before closing print items).length ≤ bound) :
    TakesOff (building.value bound (depth + 1))
      (arrayText before closing print items) (.array items) := by
  intro more _
  cases items with
  | nil => rfl
  | cons first rest =>
      have isEnough := length_lt_itemsText before closing print rest
      simp only [arrayText, List.length_cons, List.length_append] at isBounded
      have isShorter : rest.length < bound := by omega
      have isRead := readArray_itemsText beforeBlank closingBlank
        (value_closing_eq_none bound depth) takesOff isShorter more
      rw [arrayText, List.cons_append, skipSpace_cons (by decide),
        Reading.value, isRead]
      rfl

/-- An object is read back where its values are and its names are distinct. -/
theorem takesOff_objectText (beforeBlank : IsBlank before)
    (gapBlank : IsBlank gap) (closingBlank : IsBlank closing)
    {members : List (String × Json)} (distinct : Members.Distinct members)
    (takesOff : ∀ member ∈ members,
      TakesOff (building.value bound depth) (print member.2) member.2)
    (isBounded :
      (objectText before gap closing print members).length ≤ bound) :
    TakesOff (building.value bound (depth + 1))
      (objectText before gap closing print members) (.object members) := by
  intro more _
  cases members with
  | nil => rfl
  | cons member rest =>
      obtain ⟨name, first⟩ := member
      have isEnough := length_lt_membersText before gap closing print rest
      simp only [objectText, List.length_cons, List.length_append]
        at isBounded
      have isShorter : rest.length < bound := by omega
      have isRead := readObject_membersText beforeBlank gapBlank closingBlank
        takesOff isShorter more
      rw [objectText, List.cons_append, skipSpace_cons (by decide),
        Reading.value]
      change Option.map _ (readObject readString
        (fun _ => building.value bound depth) bound _) = _
      rw [isRead, Option.map_some]
      exact congrArg some (congrArg₂ Prod.mk (congrArg Json.object
        (Members.ofPairs_of_distinct distinct)) rfl)

end Building

end Containers

/-! ## Layouts -/

/-- A way to print documents that adds nothing but blanks between the marks.
The blanks may depend on the number of enclosing containers. -/
structure IsLayout (print : Nat → Json → List Char) : Prop where
  leaf : ∀ level document, document.items? = none →
    document.members? = none → print level document = document.compact
  array : ∀ level, ∃ before closing, IsBlank before ∧ IsBlank closing ∧
    ∀ items, print level (.array items) =
      arrayText before closing (print (level + 1)) items
  object : ∀ level, ∃ before gap closing,
    IsBlank before ∧ IsBlank gap ∧ IsBlank closing ∧
    ∀ members, print level (.object members) =
      objectText before gap closing (print (level + 1)) members

namespace IsLayout

variable {print : Nat → Json → List Char}

/-- A printed document is read as the document, at every level and in front of
whatever does not go on with a number.  The loops over items and members are
bounded by the length of the text. -/
theorem takesOff (layout : IsLayout print) {depth : Nat} {tree : Json}
    (fits : tree.Fits Number.ReadsBack depth) (level : Nat) {bound : Nat}
    (isBounded : (print level tree).length ≤ bound) :
    TakesOff (building.value bound depth) (print level tree) tree := by
  -- The bound stays the same all the way down: the text of a part is shorter.
  induction fits generalizing level with
  | null =>
      rw [layout.leaf level _ rfl rfl]
      exact fun more _ => value_of_readLeaf_eq_some rfl
  | boolean value =>
      rw [layout.leaf level _ rfl rfl]
      cases value <;> exact fun more _ => value_of_readLeaf_eq_some rfl
  | @number depth value accepted =>
      rw [layout.leaf level _ rfl rfl]
      intro more ends
      rw [compact, accepted.skipSpace_append]
      exact value_of_readLeaf_eq_some (accepted more ends)
  | @string depth value =>
      rw [layout.leaf level _ rfl rfl]
      intro more _
      refine value_of_readLeaf_eq_some ?_
      have isRead := readString_quoted value more
      change (readString (quoted value ++ more)).map _ = _
      rw [isRead]
      rfl
  | array _ inductionHypothesis =>
      obtain ⟨before, closing, beforeBlank, closingBlank, isPrinted⟩ :=
        layout.array level
      rw [isPrinted] at isBounded ⊢
      refine takesOff_arrayText beforeBlank closingBlank
        (fun item isItem => ?_) isBounded
      have isShorter := length_lt_arrayText before closing
        (print (level + 1)) isItem
      exact inductionHypothesis item isItem (level + 1) (by omega)
  | object distinct _ inductionHypothesis =>
      obtain ⟨before, gap, closing, beforeBlank, gapBlank, closingBlank,
        isPrinted⟩ := layout.object level
      rw [isPrinted] at isBounded ⊢
      refine takesOff_objectText beforeBlank gapBlank closingBlank distinct
        (fun member isMember => ?_) isBounded
      have isShorter := length_lt_objectText before gap closing
        (print (level + 1)) isMember
      exact inductionHypothesis member isMember (level + 1) (by omega)

/-- A document that fits the greatest depth, and whose numbers are read back,
is read from what a layout prints. -/
theorem parse_ofList (layout : IsLayout print) {tree : Json}
    (fits : tree.Fits Number.ReadsBack greatestDepth) (level : Nat) :
    parse (String.ofList (print level tree)) = some tree := by
  have isBounded :
      (print level tree).length ≤ (print level tree).length + 1 :=
    Nat.le_succ _
  have isRead := layout.takesOff fits level isBounded [] .nil
  rw [List.append_nil] at isRead
  simp only [parse, String.toList_ofList, wholly, isRead]
  rfl

end IsLayout

/-! ## The pretty text -/

theorem prettyItems_eq (level : Nat) (rest : List Json) :
    prettyItems level rest =
      itemsText (newLine (level + 1)) (newLine level) (prettyAt (level + 1))
        rest := by
  induction rest with
  | nil => rfl
  | cons item others inductionHypothesis =>
      rw [prettyItems, itemsText, inductionHypothesis]

theorem prettyMembers_eq (level : Nat) (rest : List (String × Json)) :
    prettyMembers level rest =
      membersText (newLine (level + 1)) [' '] (newLine level)
        (prettyAt (level + 1)) rest := by
  induction rest with
  | nil => rfl
  | cons member others inductionHypothesis =>
      rw [prettyMembers, membersText, inductionHypothesis]
      rfl

theorem isLayout_prettyAt : IsLayout prettyAt where
  leaf level document notArray notObject := by
    cases document with
    | boolean value => cases value <;> rfl
    | array items => cases notArray
    | object members => cases notObject
    | _ => rfl
  array level := by
    refine ⟨newLine (level + 1), newLine level, isBlank_newLine _,
      isBlank_newLine _, fun items => ?_⟩
    cases items with
    | nil => rfl
    | cons first rest => rw [prettyAt, arrayText, prettyItems_eq]
  object level := by
    refine ⟨newLine (level + 1), [' '], newLine level, isBlank_newLine _,
      isBlank_space, isBlank_newLine _, fun members => ?_⟩
    cases members with
    | nil => rfl
    | cons member rest =>
        rw [prettyAt, objectText, prettyMembers_eq]
        rfl

/-- A document that fits the greatest depth, and whose numbers are read back,
is read from its pretty text. -/
theorem parse_prettyText {tree : Json}
    (fits : tree.Fits Number.ReadsBack greatestDepth) :
    parse tree.prettyText = some tree :=
  isLayout_prettyAt.parse_ofList fits 0

/-! ## The compact text -/

theorem compactItems_eq (rest : List Json) :
    compactItems rest = itemsText [] [] compact rest := by
  induction rest with
  | nil => rfl
  | cons item others inductionHypothesis =>
      rw [compactItems, itemsText, inductionHypothesis, List.nil_append]

theorem compactMembers_eq (rest : List (String × Json)) :
    compactMembers rest = membersText [] [] [] compact rest := by
  induction rest with
  | nil => rfl
  | cons member others inductionHypothesis =>
      rw [compactMembers, membersText, inductionHypothesis, List.nil_append,
        List.nil_append]

theorem isLayout_compact : IsLayout fun _ => compact where
  leaf _ _ _ _ := rfl
  array _ := by
    refine ⟨[], [], .nil, .nil, fun items => ?_⟩
    cases items with
    | nil => rfl
    | cons first rest =>
        rw [compact, arrayText, compactItems_eq, List.nil_append]
  object _ := by
    refine ⟨[], [], [], .nil, .nil, .nil, fun members => ?_⟩
    cases members with
    | nil => rfl
    | cons member rest =>
        rw [compact, objectText, compactMembers_eq, List.nil_append,
          List.nil_append]

/-- A document that fits the greatest depth, and whose numbers are read back,
is read from its compact text. -/
theorem parse_compactText {tree : Json}
    (fits : tree.Fits Number.ReadsBack greatestDepth) :
    parse tree.compactText = some tree :=
  isLayout_compact.parse_ofList fits 0

end Provision.Json
