import Mathlib.Data.List.Induction
import Provision.Proofs.Entry.Parts
import Provision.Proofs.Resource.Values
import Provision.Proofs.Value.Lookups

/-!
Contract: the mode of a credential reference, and its way through a document.

Owns:
- the text that counts for each of the four parts, which is the last one given
  unless it is empty;
- the mode that the parts select;
- that a reference is read back from the document that is sent for it, so
  that no two references send the same.

Does not own: the faults of settings that select no mode.
-/

namespace Provision.CredentialReference

/-! ## What counts -/

/-- The parts of a reference that can be set. -/
inductive Part where
  | clearText
  | store
  | key
  | type
deriving DecidableEq, Repr

namespace Setting

def part : Setting → Part
  | .clearText _ => .clearText
  | .store _ => .store
  | .key _ => .key
  | .type _ => .type

def text : Setting → String
  | .clearText secret => secret
  | .store name => name
  | .key name => name
  | .type name => name

end Setting

namespace Draft

/-- What a draft holds for a part. -/
def held (draft : Draft) : Part → Option String
  | .clearText => draft.clearText
  | .store => draft.store
  | .key => draft.key
  | .type => draft.type

/-- The text that counts for a part of a draft. -/
def counted (draft : Draft) (part : Part) : Option String :=
  given (draft.held part)

end Draft

/-- The last text that is given for a part. -/
def last (settings : List Setting) (part : Part) : Option String :=
  (Members.valuesOf part
    (settings.map fun setting => (setting.part, setting.text))).getLast?

/-- The text that counts for a part: the last one that is given, unless it is
empty. -/
def counted (settings : List Setting) (part : Part) : Option String :=
  (last settings part).filter fun text => text ≠ ""

theorem Draft.held_set (draft : Draft) (setting : Setting) (part : Part) :
    (draft.set setting).held part =
      if setting.part = part then some setting.text else draft.held part := by
  cases setting <;> cases part <;> rfl

/-- The draft after a sequence of settings holds the last text of each
part. -/
theorem Draft.held_ofSettings (settings : List Setting) (part : Part) :
    (ofSettings settings).held part = last settings part := by
  induction settings using List.reverseRecOn with
  | nil => cases part <;> rfl
  | append_singleton settings setting inductionHypothesis =>
      rw [ofSettings, List.foldl_append, List.foldl_cons, List.foldl_nil,
        ← ofSettings, held_set, inductionHypothesis]
      by_cases isPart : setting.part = part <;>
        simp [last, Members.valuesOf, isPart]

theorem Draft.counted_ofSettings (settings : List Setting) :
    (ofSettings settings).counted = CredentialReference.counted settings := by
  funext part
  rw [Draft.counted, held_ofSettings]
  rfl

/-! ## The mode -/

/-- The texts that count select one mode, and the reference has these
texts. -/
inductive Selected (counts : Part → Option String) :
    CredentialReference → Prop
  | clearText {secret : String}
      (isSecret : counts .clearText = some secret)
      (alone : ∀ other, other ≠ .clearText → counts other = none) :
      Selected counts (.clearText secret)
  | store {name key : String}
      (isStore : counts .store = some name)
      (isKey : counts .key = some key)
      (noSecret : counts .clearText = none) :
      Selected counts (.store name key (counts .type))
  | external {type : String}
      (isType : counts .type = some type)
      (alone : ∀ other, other ≠ .type → counts other = none) :
      Selected counts (.external type)

/-- A draft makes the reference that its counted texts select. -/
theorem Draft.build_eq_ok_iff {draft : Draft}
    {reference : CredentialReference} :
    draft.build = .ok reference ↔ Selected draft.counted reference := by
  constructor
  · intro built
    unfold build at built
    split at built
    case h_1 secret isSecret noStore noKey noType =>
        cases built
        refine .clearText isSecret fun other isOther => ?_
        cases other with
        | clearText => exact absurd rfl isOther
        | store => exact noStore
        | key => exact noKey
        | type => exact noType
    case h_3 name key type noSecret isStore isKey =>
        cases built
        exact .store isStore isKey noSecret
    case h_6 type noSecret noStore noKey isType =>
        cases built
        refine .external isType fun other isOther => ?_
        cases other with
        | clearText => exact noSecret
        | store => exact noStore
        | key => exact noKey
        | type => exact absurd rfl isOther
    all_goals cases built
  · rintro (⟨isSecret, alone⟩ | ⟨isStore, isKey, noSecret⟩ |
      ⟨isType, alone⟩)
    · have noStore : given draft.store = none := alone .store (by decide)
      have noKey : given draft.key = none := alone .key (by decide)
      have noType : given draft.type = none := alone .type (by decide)
      simp only [counted, held] at isSecret
      rw [build, isSecret, noStore, noKey, noType]
    · simp only [counted, held] at isStore isKey noSecret
      rw [build, noSecret, isStore, isKey]
      rfl
    · have noSecret : given draft.clearText = none :=
        alone .clearText (by decide)
      have noStore : given draft.store = none := alone .store (by decide)
      have noKey : given draft.key = none := alone .key (by decide)
      simp only [counted, held] at isType
      rw [build, noSecret, noStore, noKey, isType]

/-- Only one part counts where its text does, and no other text. -/
theorem only_iff {counts : Part → Option String} {part : Part} :
    (∀ other, counts other ≠ none ↔ other = part) ↔
      (∃ text, counts part = some text) ∧
        ∀ other, other ≠ part → counts other = none := by
  rw [← Option.ne_none_iff_exists']
  constructor
  · intro only
    refine ⟨(only part).mpr rfl, fun other isOther => ?_⟩
    exact not_not.mp (isOther ∘ (only other).mp)
  · rintro ⟨isThere, alone⟩ other
    exact ⟨fun isCounted => not_imp_comm.mp (alone other) isCounted,
      fun isPart => isPart ▸ isThere⟩

/-- Some mode is selected where only the secret counts, a store and a key but
no secret, or only the type. -/
theorem exists_selected_iff {counts : Part → Option String} :
    (∃ reference, Selected counts reference) ↔
      (∀ part, counts part ≠ none ↔ part = .clearText) ∨
      (counts .store ≠ none ∧ counts .key ≠ none ∧
        counts .clearText = none) ∨
      (∀ part, counts part ≠ none ↔ part = .type) := by
  rw [only_iff, only_iff]
  constructor
  · rintro ⟨_, ⟨isSecret, alone⟩ | ⟨isStore, isKey, noSecret⟩ |
      ⟨isType, alone⟩⟩
    · exact Or.inl ⟨⟨_, isSecret⟩, alone⟩
    · exact Or.inr (Or.inl ⟨by simp [isStore], by simp [isKey], noSecret⟩)
    · exact Or.inr (Or.inr ⟨⟨_, isType⟩, alone⟩)
  · rintro (⟨⟨secret, isSecret⟩, alone⟩ | ⟨isStore, isKey, noSecret⟩ |
      ⟨⟨type, isType⟩, alone⟩)
    · exact ⟨_, .clearText isSecret alone⟩
    · obtain ⟨name, isStore⟩ := Option.ne_none_iff_exists'.mp isStore
      obtain ⟨key, isKey⟩ := Option.ne_none_iff_exists'.mp isKey
      exact ⟨_, .store isStore isKey noSecret⟩
    · exact ⟨_, .external isType alone⟩

/-! ## Documents -/

/-- Every text of a reference says something. -/
def IsFilled : CredentialReference → Prop
  | .clearText secret => secret ≠ ""
  | .store name key type => name ≠ "" ∧ key ≠ "" ∧ type ≠ some ""
  | .external type => type ≠ ""

/-- Only texts that say something count, so a reference that is made has no
others. -/
theorem isFilled_of_build {draft : Draft} {reference : CredentialReference}
    (built : draft.build = .ok reference) : reference.IsFilled := by
  have isFilled : ∀ {part text}, draft.counted part = some text →
      text ≠ "" := fun isCounted => (Value.filter_eq_some_iff.mp isCounted).2
  obtain ⟨isSecret, -⟩ | ⟨isStore, isKey, -⟩ | ⟨isType, -⟩ :=
    Draft.build_eq_ok_iff.mp built
  · exact isFilled isSecret
  · exact ⟨isFilled isStore, isFilled isKey, fun isType =>
      isFilled isType rfl⟩
  · exact isFilled isType

theorem Draft.given_some {text : String} (isFilled : text ≠ "") :
    given (some text) = some text :=
  Value.filter_eq_some_iff.mpr ⟨rfl, isFilled⟩

/-- A record is read as the reference that its settings make. -/
theorem readCredential_record {reference : CredentialReference}
    (members : Members Datum)
    (checked : Datum.checkMembers Datum.credentialShape.fields members =
      .ok ())
    (built : (draftIn members).build = .ok reference) :
    Datum.readCredential (.record members) = .ok reference := by
  rw [Datum.readCredential, Datum.RecordShape.read_record checked rfl,
    make_eq_ok_iff]
  exact built

/-- A reference is read back from the document of its attributes. -/
theorem readCredential_values {reference : CredentialReference}
    (filled : reference.IsFilled) :
    Datum.readCredential (Datum.ofJson reference.values.toJson) =
      .ok reference := by
  cases reference with
  | clearText secret =>
      refine readCredential_record [("clear-text", .text secret)] rfl ?_
      change Draft.build ⟨some secret, none, none, none⟩ = _
      rw [Draft.build, Draft.given_some filled]
      rfl
  | store name key type =>
      obtain ⟨isName, isKey, isType⟩ := filled
      cases type with
      | none =>
          refine readCredential_record
            [("store", .text name), ("alias", .text key)] rfl ?_
          change Draft.build ⟨none, some name, some key, none⟩ = _
          rw [Draft.build, Draft.given_some isName, Draft.given_some isKey]
          rfl
      | some type =>
          have isType : type ≠ "" := fun isEmpty =>
            isType (congrArg some isEmpty)
          have isSent : (store name key (some type)).values =
              [("store", .text name), ("alias", .text key),
                ("type", .text type)] := by
            rw [values, ValueSet.setText_eq_fill, Value.ofText?_some isType]
            rfl
          rw [isSent]
          refine readCredential_record [("store", .text name),
            ("alias", .text key), ("type", .text type)] rfl ?_
          change Draft.build ⟨none, some name, some key, some type⟩ = _
          rw [Draft.build, Draft.given_some isName, Draft.given_some isKey,
            Draft.given_some isType]
          rfl
  | external type =>
      refine readCredential_record [("type", .text type)] rfl ?_
      change Draft.build ⟨none, none, none, some type⟩ = _
      rw [Draft.build, Draft.given_some filled]
      rfl

/-- The document of the attributes is read back from its text. -/
theorem parse_compactText_values (reference : CredentialReference) :
    Json.parse reference.values.toJson.compactText =
      some reference.values.toJson := by
  have fits : (Value.nested reference.values).Fits 1 :=
    (reference.fitsBeside_values 0).nested
  exact (fits.mono (by decide)).parse_compactText

/-- A reference whose texts all say something is known by its attributes. -/
theorem eq_of_values_eq {reference other : CredentialReference}
    (filled : reference.IsFilled)
    (otherFilled : other.IsFilled)
    (same : other.values = reference.values) : other = reference := by
  have isRead := readCredential_values otherFilled
  rw [same, readCredential_values filled] at isRead
  exact (Except.ok.inj isRead).symm

/-- **A reference has the one mode that its settings select, and survives its
own document.**

Of each part the last text counts, unless it is empty.  The settings make a
reference exactly where only the secret counts, or a store and a key but no
secret, or only the type, and the reference has that mode with these texts.
The document that is sent for it is read back from its text, and is read as
the same reference, so two references that send the same are equal. -/
theorem settings_select_one_mode
    (settings : List Setting) :
    ((∃ reference, (Draft.ofSettings settings).build = .ok reference) ↔
      (∀ part, counted settings part ≠ none ↔ part = .clearText) ∨
      (counted settings .store ≠ none ∧ counted settings .key ≠ none ∧
        counted settings .clearText = none) ∨
      (∀ part, counted settings part ≠ none ↔ part = .type)) ∧
    (∀ reference, (Draft.ofSettings settings).build = .ok reference ↔
      Selected (counted settings) reference) ∧
    ∀ reference, (Draft.ofSettings settings).build = .ok reference →
      Json.parse reference.values.toJson.compactText =
        some reference.values.toJson ∧
      Datum.readCredential (Datum.ofJson reference.values.toJson) =
        .ok reference ∧
      ∀ others other, (Draft.ofSettings others).build = .ok other →
        other.values = reference.values → other = reference := by
  have built_iff : ∀ reference,
      (Draft.ofSettings settings).build = .ok reference ↔
        Selected (counted settings) reference := fun reference => by
    rw [Draft.build_eq_ok_iff, Draft.counted_ofSettings]
  refine ⟨?_, built_iff, fun reference built => ?_⟩
  · rw [exists_congr built_iff, exists_selected_iff]
  · have filled := isFilled_of_build built
    exact ⟨reference.parse_compactText_values, readCredential_values filled,
      fun _ _ otherBuilt =>
        eq_of_values_eq filled (isFilled_of_build otherBuilt)⟩

/-- Settings of which a later one takes the first one back. -/
def revisedSettings : List Setting :=
  [.clearText "secret", .store "keys", .key "db", .clearText "",
    .type "PasswordCredential"]

theorem settings_select_one_mode_sample :
    (Draft.ofSettings revisedSettings).build =
      .ok (.store "keys" "db" (some "PasswordCredential")) ∧
    Datum.readCredential (.record [("store", .text "keys"),
      ("alias", .text "db"), ("type", .text "PasswordCredential")]) =
        .ok (.store "keys" "db" (some "PasswordCredential")) := by
  obtain ⟨-, built_iff, ofBuilt⟩ := settings_select_one_mode revisedSettings
  have built := (built_iff (.store "keys" "db"
    (some "PasswordCredential"))).mpr (.store rfl rfl rfl)
  exact ⟨built, (ofBuilt _ built).2.1⟩

end Provision.CredentialReference
