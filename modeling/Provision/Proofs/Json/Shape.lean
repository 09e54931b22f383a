import Provision.Json.Pointer
import Provision.Proofs.Json.Numerals

/-!
Contract: the shape of the documents that can be read.

A reader gives nothing but documents of a certain shape, and a change at one
place keeps the shape where the new part has room at that place.

Owns:
- the parts of a document;
- the documents that fit a depth, with distinct names and accepted numbers;
- the laws of the shape for reading, look-up and update.

Does not own: the texts of documents.
-/

namespace Provision.Json

/-- One document stands somewhere inside another, or is the same. -/
inductive IsPart (part : Json) : Json → Prop where
  | here : IsPart part part
  | item {items : List Json} {item : Json} (isItem : item ∈ items)
      (isPart : IsPart part item) : IsPart part (.array items)
  | member {members : List (String × Json)} {member : String × Json}
      (isMember : member ∈ members) (isPart : IsPart part member.2) :
      IsPart part (.object members)

/-- The containers nest at most to a depth, the names in each object are
distinct, and each number is an accepted one. -/
inductive Fits (accepts : Number → Prop) : Nat → Json → Prop where
  | null {depth : Nat} : Fits accepts depth .null
  | boolean {depth : Nat} (value : Bool) : Fits accepts depth (.boolean value)
  | number {depth : Nat} {value : Number} (accepted : accepts value) :
      Fits accepts depth (.number value)
  | string {depth : Nat} (value : String) : Fits accepts depth (.string value)
  | array {depth : Nat} {items : List Json}
      (allFit : ∀ item ∈ items, Fits accepts depth item) :
      Fits accepts (depth + 1) (.array items)
  | object {depth : Nat} {members : List (String × Json)}
      (distinct : Members.Distinct members)
      (allFit : ∀ member ∈ members, Fits accepts depth member.2) :
      Fits accepts (depth + 1) (.object members)

namespace Fits

variable {accepts accepts' : Number → Prop} {depth : Nat} {document : Json}

/-- Only the numbers that occur need to be accepted. -/
theorem of_parts (fits : document.Fits accepts depth)
    (weaker : ∀ value, IsPart (.number value) document → accepts value →
      accepts' value) : document.Fits accepts' depth := by
  induction fits with
  | null => exact .null
  | boolean value => exact .boolean value
  | number accepted => exact .number (weaker _ .here accepted)
  | string value => exact .string value
  | array _ inductionHypothesis =>
      exact .array fun item isItem =>
        inductionHypothesis item isItem fun value isPart =>
          weaker value (.item isItem isPart)
  | object distinct _ inductionHypothesis =>
      exact .object distinct fun member isMember =>
        inductionHypothesis member isMember fun value isPart =>
          weaker value (.member isMember isPart)

/-! ## Look-up and update -/

/-- The part one token further has one level less. -/
theorem child? (fits : document.Fits accepts (depth + 1)) {token : String}
    {below : Json} (found : document.child? token = some below) :
    below.Fits accepts depth := by
  cases fits with
  | array allFit =>
      simp only [Json.child?, Option.bind_eq_some_iff] at found
      obtain ⟨place, -, found⟩ := found
      exact allFit below (List.mem_of_getElem? found)
  | object distinct allFit =>
      exact allFit (token, below) (Members.mem_of_get?_eq_some found)
  | _ => cases found

theorem put {members : List (String × Json)}
    (fits : (Json.object members).Fits accepts (depth + 1)) (name : String)
    {part : Json} (partFits : part.Fits accepts depth) :
    (Json.object (Members.put name part members)).Fits accepts
      (depth + 1) := by
  cases fits with
  | object distinct allFit =>
      refine .object (distinct.put name part) fun member isMember => ?_
      rcases Members.mem_of_mem_put isMember with rfl | isOld
      · exact partFits
      · exact allFit member isOld

theorem replaceChild (fits : document.Fits accepts (depth + 1))
    (token : String) {part : Json} (partFits : part.Fits accepts depth) :
    (document.replaceChild token part).Fits accepts (depth + 1) := by
  cases fits with
  | array allFit =>
      dsimp only [Json.replaceChild]
      split
      · refine .array fun item isItem => ?_
        rcases List.mem_or_eq_of_mem_set isItem with isOld | rfl
        · exact allFit item isOld
        · exact partFits
      · exact .array allFit
  | object distinct allFit =>
      dsimp only [Json.replaceChild]
      split
      · exact (Fits.object distinct allFit).put token partFits
      · exact .object distinct allFit
  | null => exact .null
  | boolean value => exact .boolean value
  | number accepted => exact .number accepted
  | string value => exact .string value

/-- What stands at the end of a path has as many levels less as the path has
tokens. -/
theorem at? {path : List String}
    (fits : document.Fits accepts (depth + path.length)) {part : Json}
    (found : document.at? path = some part) : part.Fits accepts depth := by
  induction path generalizing document with
  | nil =>
      cases found
      exact fits
  | cons token rest inductionHypothesis =>
      simp only [Json.at?, Option.bind_eq_some_iff] at found
      obtain ⟨below, isBelow, found⟩ := found
      rw [List.length_cons, ← Nat.add_assoc] at fits
      exact inductionHypothesis (fits.child? isBelow) found

theorem replaceAt {path : List String}
    (fits : document.Fits accepts (depth + path.length)) {part : Json}
    (partFits : part.Fits accepts depth) :
    (document.replaceAt path part).Fits accepts (depth + path.length) := by
  induction path generalizing document with
  | nil => exact partFits
  | cons token rest inductionHypothesis =>
      rw [List.length_cons, ← Nat.add_assoc] at fits ⊢
      unfold Json.replaceAt
      split
      · next below isBelow =>
          exact fits.replaceChild token
            (inductionHypothesis (fits.child? isBelow))
      · exact fits

end Fits

/-! ## Reading -/

section Reading

variable {α : Type} {isGood : α → Prop}

/-- A reader gives only good values. -/
def Gives (isGood : α → Prop) (reader : Reader α) : Prop :=
  ∀ text value rest, reader text = some (value, rest) → isGood value

theorem Gives.readItems {item : Reader α} (gives : Gives isGood item)
    {bound : Nat} {text rest : List Char} {items : List α}
    (read : readItems item bound text = some (items, rest)) :
    ∀ value ∈ items, isGood value := by
  induction bound generalizing text items with
  | zero => cases read
  | succ bound inductionHypothesis =>
      unfold Json.readItems at read
      split at read
      · cases read
      · next first behind isFirst =>
          have firstGood := gives _ _ _ isFirst
          split at read
          · obtain ⟨result, isResult, same⟩ := Option.map_eq_some_iff.mp read
            cases same
            intro value isMember
            rcases List.mem_cons.mp isMember with rfl | isLater
            · exact firstGood
            · exact inductionHypothesis isResult value isLater
          · cases read
            intro value isMember
            exact List.mem_singleton.mp isMember ▸ firstGood
          · cases read

theorem Gives.readArray {item : Reader α} (gives : Gives isGood item)
    {bound : Nat} {text rest : List Char} {items : List α}
    (read : readArray item bound text = some (items, rest)) :
    ∀ value ∈ items, isGood value := by
  unfold Json.readArray at read
  split at read
  · cases read
    exact fun value isMember => by cases isMember
  · exact gives.readItems read

theorem Gives.readMembers {name : Reader String} {value : Reader α}
    (gives : Gives isGood value) {bound : Nat} {text rest : List Char}
    {members : List (String × α)}
    (read : readMembers name (fun _ => value) bound text =
      some (members, rest)) : ∀ member ∈ members, isGood member.2 := by
  induction bound generalizing text members with
  | zero => cases read
  | succ bound inductionHypothesis =>
      unfold Json.readMembers at read
      split at read
      · cases read
      · split at read
        · split at read
          · cases read
          · next first behind isFirst =>
              have firstGood := gives _ _ _ isFirst
              split at read
              · obtain ⟨result, isResult, same⟩ :=
                  Option.map_eq_some_iff.mp read
                cases same
                intro member isMember
                rcases List.mem_cons.mp isMember with rfl | isLater
                · exact firstGood
                · exact inductionHypothesis isResult member isLater
              · cases read
                intro member isMember
                exact List.mem_singleton.mp isMember ▸ firstGood
              · cases read
        · cases read

theorem Gives.readObject {name : Reader String} {value : Reader α}
    (gives : Gives isGood value) {bound : Nat} {text rest : List Char}
    {members : List (String × α)}
    (read : readObject name (fun _ => value) bound text =
      some (members, rest)) : ∀ member ∈ members, isGood member.2 := by
  unfold Json.readObject at read
  split at read
  · cases read
    exact fun member isMember => by cases isMember
  · exact gives.readMembers read

end Reading

/-- What is no container fits every depth. -/
theorem gives_readLeaf (depth : Nat) :
    Gives (Fits Number.InRange depth) readLeaf := by
  intro text tree rest read
  unfold readLeaf at read
  split at read
  · obtain ⟨result, -, same⟩ := Option.map_eq_some_iff.mp read
    cases same
    exact .string _
  · split at read
    · split at read
      · obtain ⟨value, isValue, same⟩ := Option.map_eq_some_iff.mp read
        cases same
        exact .number (NumberText.inRange_of_value?_eq_some isValue)
      · cases read
    · unfold readWord at read
      split at read
      · cases read
        exact .null
      · cases read
        exact .boolean true
      · cases read
        exact .boolean false
      · cases read
  · cases read

/-- What is read to a depth fits it. -/
theorem gives_value (bound depth : Nat) :
    Gives (Fits Number.InRange depth) (building.value bound depth) := by
  induction depth with
  | zero => exact gives_readLeaf 0
  | succ depth inductionHypothesis =>
      intro text tree rest read
      unfold Reading.value at read
      split at read
      · obtain ⟨result, isRead, same⟩ := Option.map_eq_some_iff.mp read
        cases same
        exact .array (inductionHypothesis.readArray isRead)
      · obtain ⟨result, isRead, same⟩ := Option.map_eq_some_iff.mp read
        cases same
        refine .object (Members.distinct_ofPairs _) fun member isMember => ?_
        exact inductionHypothesis.readObject isRead member
          (Members.mem_of_mem_ofPairs isMember)
      · exact gives_readLeaf _ _ _ _ read

/-- A document that was read fits the greatest depth. -/
theorem fits_of_parse_eq_some {text : String} {document : Json}
    (parsed : parse text = some document) :
    document.Fits Number.InRange greatestDepth := by
  unfold parse wholly at parsed
  dsimp only at parsed
  split at parsed
  · next tree rest read =>
      split at parsed
      · cases parsed
        exact gives_value _ _ _ _ _ read
      · cases parsed
  · cases parsed

end Provision.Json
