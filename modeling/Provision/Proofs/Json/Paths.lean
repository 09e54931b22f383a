import Provision.Proofs.Json.Change

/-!
Contract: paths through a document, as texts and as walks.

The text of a path can be cut and decoded again, whatever its tokens are.  A
path is followed token by token, and every token is taken as it stands: as the
name of a member or as the decimal digits of a position.

Owns:
- that the two passes of decoding undo the two passes of escaping;
- the pieces of the text of a path, and that no two paths share a text;
- the positions that tokens name, in both directions;
- the walk along a path, with the look-up and the update along it;
- where a walk ends that the document does not allow.

Does not own: which paths a program uses, and changes along a path.
-/

namespace Provision.Json

namespace Pointer

/-! ## Escaping -/

section Passes

variable {plain mark first : Char}

theorem expand_cons_self (rest : List Char) :
    expand plain mark (plain :: rest) =
      '~' :: mark :: expand plain mark rest :=
  if_pos rfl

theorem expand_cons_of_ne (isOther : first ≠ plain) (rest : List Char) :
    expand plain mark (first :: rest) = first :: expand plain mark rest :=
  if_neg isOther

theorem contract_escape (rest : List Char) :
    contract plain mark ('~' :: mark :: rest) =
      plain :: contract plain mark rest :=
  if_pos ⟨rfl, rfl⟩

theorem contract_cons_of_ne (isOther : first ≠ '~') (rest : List Char) :
    contract plain mark (first :: rest) =
      first :: contract plain mark rest := by
  cases rest <;> simp [contract, isOther]

/-- An escape character with another mark behind it stays as it is. -/
theorem contract_escape_of_ne {other : Char} (isOther : other ≠ mark)
    (isPlain : other ≠ '~') (rest : List Char) :
    contract plain mark ('~' :: other :: rest) =
      '~' :: other :: contract plain mark rest := by
  rw [contract, if_neg fun both => isOther both.2, contract_cons_of_ne isPlain]

/-- What is written as two other characters does not occur any more. -/
theorem not_mem_expand (notEscape : plain ≠ '~') (notMark : plain ≠ mark)
    (text : List Char) : plain ∉ expand plain mark text := by
  induction text with
  | nil => exact List.not_mem_nil
  | cons first rest inductionHypothesis =>
      by_cases isPlain : first = plain
      · rw [isPlain, expand_cons_self]
        simp [notEscape, notMark, inductionHypothesis]
      · rw [expand_cons_of_ne isPlain]
        simp [Ne.symm isPlain, inductionHypothesis]

end Passes

/-- Escape characters are read as they were written. -/
theorem contract_expand_escape (text : List Char) :
    contract '~' '0' (expand '~' '0' text) = text := by
  induction text with
  | nil => rfl
  | cons first rest inductionHypothesis =>
      by_cases isEscape : first = '~'
      · rw [isEscape, expand_cons_self, contract_escape, inductionHypothesis]
      · rw [expand_cons_of_ne isEscape, contract_cons_of_ne isEscape,
          inductionHypothesis]

/-- Slashes are read as they were written, as every escape character has a
zero behind it by then and none has a one. -/
theorem contract_expand_slash (text : List Char) :
    contract '/' '1' (expand '/' '1' (expand '~' '0' text)) =
      expand '~' '0' text := by
  induction text with
  | nil => rfl
  | cons first rest inductionHypothesis =>
      by_cases isEscape : first = '~'
      · rw [isEscape, expand_cons_self, expand_cons_of_ne (by decide),
          expand_cons_of_ne (by decide),
          contract_escape_of_ne (by decide) (by decide), inductionHypothesis]
      · rw [expand_cons_of_ne isEscape]
        by_cases isSlash : first = '/'
        · rw [isSlash, expand_cons_self, contract_escape, inductionHypothesis]
        · rw [expand_cons_of_ne isSlash, contract_cons_of_ne isEscape,
            inductionHypothesis]

/-- Decoding undoes escaping. -/
theorem unescape_escape (token : String) :
    unescape (escape token) = token := by
  rw [unescape, escape, String.toList_ofList, contract_expand_slash,
    contract_expand_escape, String.ofList_toList]

theorem slash_not_mem_escape (token : String) :
    '/' ∉ (escape token).toList := by
  rw [escape, String.toList_ofList]
  exact not_mem_expand (by decide) (by decide) _

/-! ## The text of a path -/

/-- Behind an empty first piece stand the escaped tokens. -/
theorem pieces_text (tokens : List String) :
    Text.pieces '/' (text tokens).toList =
      [] :: tokens.map fun token => (escape token).toList := by
  rw [Text.pieces_eq_cons_iff, List.forall_mem_cons, List.forall_mem_map]
  refine ⟨?_, List.not_mem_nil, fun token _ => slash_not_mem_escape token⟩
  simp [text, List.flatMap_map]

theorem tokens?_text (tokens : List String) :
    tokens? (text tokens) = some tokens := by
  cases tokens with
  | nil => rfl
  | cons token rest =>
      have isFilled : text (token :: rest) ≠ "" := by
        rw [ne_eq, ← String.toList_eq_nil_iff]
        simp [text]
      have areEscaped : Text.splitAt '/' (text (token :: rest)) =
          "" :: (token :: rest).map escape := by
        simp [Text.splitAt, pieces_text, Function.comp_def]
      rw [tokens?, if_neg isFilled, areEscaped]
      simp [unescape_escape, Function.comp_def]

/-- No two paths have one text. -/
theorem text_injective : Function.Injective text := by
  intro tokens others same
  have isRead := tokens?_text tokens
  rw [same, tokens?_text] at isRead
  exact (Option.some.inj isRead).symm

/-! ## Positions -/

/-- The digits of a position are read as the position. -/
theorem readNatural_decimal (place : Nat) :
    Text.readNatural 10 (Text.decimal place) = some place := by
  have isThere : Text.decimal place ≠ [] := Nat.toDigits_ne_nil
  have areDigits : (Text.decimal place).all (Text.isDigitOf 10) = true :=
    List.all_eq_true.mpr fun digit isDigit =>
      Text.isDecimal_of_isDigit (Text.isDigit_of_mem_decimal isDigit)
  rw [Text.readNatural, if_neg (by simp [isThere, areDigits]),
    Text.digitsFrom_decimal]

/-- A position is named by its decimal digits and by nothing else. -/
theorem position?_eq_some_iff {token : String} {place : Nat} :
    position? token = some place ↔ token = toString place := by
  refine ⟨eq_decimal_of_position?, ?_⟩
  rintro rfl
  have isPlain : ¬ ((Text.decimal place).head? = some '0' &&
      (Text.decimal place).length ≠ 1) = true := by
    cases place with
    | zero => decide
    | succ below => simp [Text.head?_decimal_ne_zero (Nat.succ_pos below)]
  change position? (String.ofList (Text.decimal place)) = some place
  rw [position?, String.toList_ofList]
  exact (if_neg isPlain).trans (readNatural_decimal place)

end Pointer

/-! ## Walks -/

/-- One token leads from a document to a part of it: as the exact name of a
member, the first of that name, or as the decimal digits of a position. -/
inductive Leads (token : String) : Json → Json → Prop
  | member {before after : Members Json} {below : Json}
      (isFirst : token ∉ Members.names before) :
      Leads token (.object (before ++ (token, below) :: after)) below
  | item {before after : List Json} {below : Json}
      (isPlace : token = toString before.length) :
      Leads token (.array (before ++ below :: after)) below

/-- Tokens lead from a document to a part of it, one after the other. -/
inductive Walk : List String → Json → Json → Prop
  | here (document : Json) : Walk [] document document
  | step {token : String} {rest : List String} {document below part : Json}
      (leads : Leads token document below) (goesOn : Walk rest below part) :
      Walk (token :: rest) document part

/-- Some token of a path leads nowhere from the part that the tokens before it
lead to. -/
def LeadsNowhere (path : List String) (document : Json) : Prop :=
  ∃ before token after part, path = before ++ token :: after ∧
    Walk before document part ∧ ∀ below, ¬ Leads token part below

variable {token : String} {path : List String} {document below part : Json}

theorem child?_eq_some_iff :
    document.child? token = some below ↔ Leads token document below := by
  constructor
  · intro isChild
    cases document with
    | object members =>
        obtain ⟨before, after, rfl, isFirst⟩ :=
          Members.exists_eq_append_cons isChild
        exact .member isFirst
    | array items =>
        obtain ⟨place, isPlace, isItem⟩ := Option.bind_eq_some_iff.mp isChild
        obtain ⟨isInside, rfl⟩ := List.getElem?_eq_some_iff.mp isItem
        have isLength : (items.take place).length = place :=
          List.length_take_of_le (Nat.le_of_lt isInside)
        have leads : Leads token
            (.array (items.take place ++ items[place] ::
              items.drop (place + 1))) items[place] :=
          .item (isLength.symm ▸ Pointer.position?_eq_some_iff.mp isPlace)
        rwa [← List.drop_eq_getElem_cons, List.take_append_drop] at leads
    | _ => cases isChild
  · intro leads
    cases leads with
    | member isFirst => exact Members.get?_append_cons _ isFirst _
    | item isPlace =>
        rw [child?, Pointer.position?_eq_some_iff.mpr isPlace]
        simp

/-- What is found at the end of a path is what the path leads to. -/
theorem at?_eq_some_iff :
    document.at? path = some part ↔ Walk path document part := by
  induction path generalizing document with
  | nil =>
      constructor
      · intro isFound
        cases isFound
        exact .here _
      · intro walk
        cases walk
        rfl
  | cons token rest inductionHypothesis =>
      simp only [at?, Option.bind_eq_some_iff, child?_eq_some_iff,
        inductionHypothesis]
      constructor
      · rintro ⟨below, leads, goesOn⟩
        exact .step leads goesOn
      · intro walk
        cases walk with
        | step leads goesOn => exact ⟨_, leads, goesOn⟩

theorem child?_eq_none_iff :
    document.child? token = none ↔ ∀ below, ¬ Leads token document below := by
  simp only [← child?_eq_some_iff, Option.eq_none_iff_forall_not_mem,
    Option.mem_def]

/-- Nothing is found at the end of a path where some token of it leads
nowhere. -/
theorem at?_eq_none_iff :
    document.at? path = none ↔ LeadsNowhere path document := by
  induction path generalizing document with
  | nil => simp [at?, LeadsNowhere]
  | cons token rest inductionHypothesis =>
      cases isChild : document.child? token with
      | none =>
          simp only [at?, isChild, Option.bind_none, true_iff]
          exact ⟨[], token, rest, document, rfl, .here _,
            child?_eq_none_iff.mp isChild⟩
      | some below =>
          rw [at?, isChild, Option.bind_some, inductionHypothesis]
          have leads := child?_eq_some_iff.mp isChild
          constructor
          · rintro ⟨before, last, after, part, rfl, walk, isLast⟩
            exact ⟨token :: before, last, after, part, rfl, .step leads walk,
              isLast⟩
          · rintro ⟨before, last, after, part, isPath, walk, isLast⟩
            cases walk with
            | here =>
                obtain ⟨rfl, rfl⟩ := List.cons.inj isPath
                exact absurd leads (isLast below)
            | @step first others _ otherBelow _ leadsToo goesOn =>
                obtain ⟨rfl, rfl⟩ := List.cons.inj isPath
                rw [← child?_eq_some_iff, isChild, Option.some.injEq]
                  at leadsToo
                subst leadsToo
                exact ⟨others, last, after, part, rfl, goesOn, isLast⟩

theorem leadsNowhere_iff :
    LeadsNowhere path document ↔ ¬ ∃ part, Walk path document part := by
  simp only [← at?_eq_none_iff, ← at?_eq_some_iff,
    Option.eq_none_iff_forall_not_mem, Option.mem_def, not_exists]

/-- A path leads to one part only. -/
theorem Walk.unique {other : Json} (walk : Walk path document part)
    (walkToo : Walk path document other) : part = other :=
  Option.some.inj
    ((at?_eq_some_iff.mpr walk).symm.trans (at?_eq_some_iff.mpr walkToo))

/-- An update along a path that leads somewhere is a change there. -/
theorem Walk.changedAt_replaceAt (walk : Walk path document part)
    (other : Json) :
    ChangedAt other path document (document.replaceAt path other) := by
  have isHere : ChangedAt other [] part other := .here part
  have changes := ChangedAt.replaceAt (at?_eq_some_iff.mpr walk) isHere
  rwa [List.append_nil] at changes

end Provision.Json
