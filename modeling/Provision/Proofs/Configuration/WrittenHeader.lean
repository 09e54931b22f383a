import Provision.Proofs.Configuration.Resolution

/-!
Contract: headers that are written in one text on the command line.

Such a text may be written with an equals sign or with a colon between the
name and the value.  The equals sign is looked for first, wherever it stands.
So a value with an equals sign in it can be written behind an equals sign, but
not behind a colon.

Owns:
- what the characters of a name cannot be;
- how the two forms of a header are split, and what is read from them;
- the run to which one header was added in either form.

Does not own: the forms in which a batch file gives headers.
-/

namespace Provision

namespace Endpoint

/-- Letters and digits are those of ASCII. -/
theorem code_of_isAlphanum
    {character : Char}
    (isAlphanumeric : character.isAlphanum = true) :
    (48 ≤ character.toNat ∧ character.toNat ≤ 57) ∨
      (65 ≤ character.toNat ∧ character.toNat ≤ 90) ∨
      (97 ≤ character.toNat ∧ character.toNat ≤ 122) := by
  have between : ∀ {first last : Char},
      first.val ≤ character.val → character.val ≤ last.val →
        first.toNat ≤ character.toNat ∧ character.toNat ≤ last.toNat := by
    intro first last isAbove isBelow
    rw [UInt32.le_iff_toNat_le] at isAbove isBelow
    exact ⟨isAbove, isBelow⟩
  rcases Bool.or_eq_true_iff.mp isAlphanumeric with isLetter | isDigit
  · rcases Bool.or_eq_true_iff.mp isLetter with isCapital | isSmall
    · obtain ⟨isAbove, isBelow⟩ := of_decide_eq_true isCapital
      exact .inr (.inl (between isAbove isBelow))
    · obtain ⟨isAbove, isBelow⟩ := Bool.and_eq_true_iff.mp isSmall
      exact .inr (.inr (between (of_decide_eq_true isAbove)
        (of_decide_eq_true isBelow)))
  · obtain ⟨isAbove, isBelow⟩ := Bool.and_eq_true_iff.mp isDigit
    exact .inl (between (of_decide_eq_true isAbove)
      (of_decide_eq_true isBelow))

/-- No character of a name is a mark between name and value, or blank. -/
theorem isSolid_of_isTokenCharacter
    {character : Char}
    (isToken : isTokenCharacter character = true) :
    character ≠ '=' ∧ character ≠ ':' ∧ Text.isBlank character = false := by
  rcases Bool.or_eq_true_iff.mp isToken with isAlphanumeric | isMark
  · have isCode := code_of_isAlphanum isAlphanumeric
    refine ⟨?_, ?_, ?_⟩
    · intro isEquals
      rw [isEquals] at isAlphanumeric
      cases isAlphanumeric
    · intro isColon
      rw [isColon] at isAlphanumeric
      cases isAlphanumeric
    · simp only [Text.isBlank, Bool.or_eq_false_iff, Bool.and_eq_false_iff,
        decide_eq_false_iff_not]
      omega
  · have allSolid : "!#$%&'*+-.^_`|~".toList.all (fun mark =>
        mark ≠ '=' && mark ≠ ':' && !Text.isBlank mark) = true := by
      decide
    have isMember := List.contains_iff_mem.mp isMark
    have isSolid := List.all_eq_true.mp allSolid character isMember
    simpa [and_assoc] using isSolid

/-- A name holds characters of names only. -/
theorem HeaderName.isToken_of_mem
    {text : String}
    {character : Char}
    (isName : (HeaderName.ofText? text).isSome)
    (isMember : character ∈ text.toList) :
    isTokenCharacter character = true := by
  unfold HeaderName.ofText? at isName
  split at isName
  · next isAllowed =>
      exact List.all_eq_true.mp isAllowed.2.1 character isMember
  · cases isName

end Endpoint

namespace Configuration

open Endpoint (HeaderName HeaderValue)

variable {name value : String}

/-! ## Both forms are split -/

theorem equals_not_mem_name
    (isName : (HeaderName.ofText? name).isSome) : '=' ∉ name.toList := by
  intro isMember
  have isToken := HeaderName.isToken_of_mem isName isMember
  exact (Endpoint.isSolid_of_isTokenCharacter isToken).1 rfl

theorem colon_not_mem_name
    (isName : (HeaderName.ofText? name).isSome) : ':' ∉ name.toList := by
  intro isMember
  have isToken := HeaderName.isToken_of_mem isName isMember
  exact (Endpoint.isSolid_of_isTokenCharacter isToken).2.1 rfl

theorem trimmed_name
    (isName : (HeaderName.ofText? name).isSome) :
    trimmed name.toList = name := by
  have allSolid : ∀ character ∈ name.toList,
      Text.isBlank character = false := by
    intro character isMember
    have isToken := HeaderName.isToken_of_mem isName isMember
    exact (Endpoint.isSolid_of_isTokenCharacter isToken).2.2
  rw [trimmed, Text.trim_eq_self allSolid, String.ofList_toList]

/-- Behind an equals sign the value is kept whole. -/
theorem splitHeader_equals
    (isName : (HeaderName.ofText? name).isSome)
    (isTrimmed : Text.trim value.toList = value.toList) :
    splitHeader (name ++ "=" ++ value) = .ok (name, value) := by
  have isCut : Text.cutAt '=' (name ++ "=" ++ value).toList =
      some (name.toList, value.toList) :=
    Text.cutAt_eq_some_iff.mpr ⟨by simp, equals_not_mem_name isName⟩
  have sameValue : trimmed value.toList = value := by
    rw [trimmed, isTrimmed, String.ofList_toList]
  simp only [splitHeader, isCut, Option.some_or, trimmed_name isName, sameValue]

/-- Behind a colon a value without an equals sign is kept whole. -/
theorem splitHeader_colon
    (isName : (HeaderName.ofText? name).isSome)
    (isTrimmed : Text.trim value.toList = value.toList)
    (noEquals : '=' ∉ value.toList) :
    splitHeader (name ++ ": " ++ value) = .ok (name, value) := by
  have sameText : (name ++ ": " ++ value).toList =
      name.toList ++ ':' :: ' ' :: value.toList := by simp
  have isUncut : Text.cutAt '=' (name ++ ": " ++ value).toList = none := by
    rw [Text.cutAt_eq_none_iff, sameText]
    simp [equals_not_mem_name isName, noEquals]
  have isCut : Text.cutAt ':' (name ++ ": " ++ value).toList =
      some (name.toList, ' ' :: value.toList) :=
    Text.cutAt_eq_some_iff.mpr ⟨sameText, colon_not_mem_name isName⟩
  have sameValue : trimmed (' ' :: value.toList) = value := by
    rw [trimmed, Text.trim_cons_of_isBlank (by decide), isTrimmed,
      String.ofList_toList]
  simp only [splitHeader, isUncut, isCut, Option.none_or, trimmed_name isName,
    sameValue]

/-- Behind a colon the first equals sign of a value is taken for the mark. -/
theorem splitHeader_colon_of_equals
    {before behind : List Char}
    (isName : (HeaderName.ofText? name).isSome)
    (isValue : value.toList = before ++ '=' :: behind)
    (isFirst : '=' ∉ before) :
    splitHeader (name ++ ": " ++ value) =
      .ok (trimmed (name.toList ++ ':' :: ' ' :: before), trimmed behind) := by
  have sameText : (name ++ ": " ++ value).toList =
      (name.toList ++ ':' :: ' ' :: before) ++ '=' :: behind := by
    simp [isValue]
  have isFree : '=' ∉ name.toList ++ ':' :: ' ' :: before := by
    simp [equals_not_mem_name isName, isFirst]
  have isCut : Text.cutAt '=' (name ++ ": " ++ value).toList =
      some (name.toList ++ ':' :: ' ' :: before, behind) :=
    Text.cutAt_eq_some_iff.mpr ⟨sameText, isFree⟩
  simp only [splitHeader, isCut, Option.some_or]

/-! ## What is read -/

/-- The header with a name and a value. -/
def headerOf (name value : String) : HeaderName × HeaderValue :=
  (⟨name.toLower⟩, ⟨value⟩)

theorem readHeader_eq
    (isName : (HeaderName.ofText? name).isSome)
    (isValue : (HeaderValue.ofText? value).isSome) :
    readHeader name value = .ok (headerOf name value) := by
  unfold HeaderName.ofText? at isName
  unfold HeaderValue.ofText? at isValue
  unfold readHeader headerValue HeaderName.ofText? HeaderValue.ofText?
  split at isName
  · next isAllowed =>
      split at isValue
      · next isClean =>
          rw [if_pos isAllowed, if_pos isClean]
          rfl
      · cases isValue
  · cases isName

/-- A text with a colon in it is no name. -/
theorem readHeader_of_colon
    {text : List Char}
    (isMember : ':' ∈ text)
    (value : String) :
    readHeader (trimmed text) value =
      .error (.invalidHeaderName (trimmed text)) := by
  have stays : ':' ∈ (trimmed text).toList := by
    rw [trimmed, String.toList_ofList]
    exact Text.mem_trim isMember (by decide)
  cases isName : HeaderName.ofText? (trimmed text) with
  | some checked =>
      exact absurd stays (colon_not_mem_name (by rw [isName]; rfl))
  | none => rw [readHeader, isName]

/-! ## One header more for a run -/

section Run

variable {line : CommandLine} {file : BatchFile}
  {configuration : Configuration} {url : Endpoint.Url}

/-- The headers of the command line do not name the target. -/
theorem namesServer_iff
    (headers : List String)
    {text : String} :
    NamesServer { line with headers } file text ↔
      NamesServer line file text := by
  simp only [NamesServer, decides_iff]
  exact Iff.rfl

/-- A run that sends nothing in its headers: its server is named, and neither
a file nor a bearer gives headers. -/
theorem namesServer_of_bare
    (isBare : resolve { line with headers := [] } file = .ok configuration)
    (isLive : configuration.target = .live url []) :
    (∃ text, NamesServer line file text ∧ endpoint text = .ok url) ∧
      file.target.headers = [] ∧ bearer line file = none := by
  have makesTarget := (resolve_eq_ok_iff.mp isBare).target
  rw [isLive] at makesTarget
  generalize isSent : ([] : Endpoint.Headers) = headers at makesTarget
  cases makesTarget with
  | @server text url read names parses areRead =>
      have noneRead : read = [] := by
        cases read with
        | nil => rfl
        | cons first rest =>
            exact absurd isSent.symm (Members.ofPairs_cons_ne_nil first rest)
      rw [noneRead, List.forall₂_nil_right_iff, givenHeaders] at areRead
      simp only [List.map_nil, List.append_nil, List.append_eq_nil_iff,
        List.map_eq_nil_iff, Option.toList_eq_nil_iff] at areRead
      exact ⟨⟨text, (namesServer_iff []).mp names,
        endpoint_eq_ok_iff.mpr parses⟩, areRead.1, areRead.2⟩

/-- Where one header is added to such a run, all depends on its reading. -/
theorem resolve_eq_map_read
    (isBare : resolve { line with headers := [] } file = .ok configuration)
    (isLive : configuration.target = .live url [])
    (text : String) :
    resolve { line with headers := [text] } file =
      (GivenHeader.written text).read.map fun header =>
        { configuration with target := .live url [header] } := by
  obtain ⟨⟨locator, names, isEndpoint⟩, noHeaders, noBearer⟩ :=
    namesServer_of_bare isBare isLive
  have isGiven :
      givenHeaders { line with headers := [text] } file = [.written text] := by
    have noBearerToo : bearer { line with headers := [text] } file = none :=
      noBearer
    simp [givenHeaders, noHeaders, noBearerToo]
  have areHeaders :
      resolveHeaders { line with headers := [text] } file =
        (GivenHeader.written text).read.map fun header => [header] := by
    rw [resolveHeaders_eq_foldlM, isGiven]
    simp only [List.foldlM_cons, List.foldlM_nil, bind_pure]
    cases (GivenHeader.written text).read <;> rfl
  have isTarget :=
    resolveTarget_of_namesServer ((namesServer_iff [text]).mpr names)
  rw [isEndpoint, areHeaders] at isTarget
  simp only [resolve, bind_eq_ok_iff] at isBare
  obtain ⟨target, -, reload, isReload, query, isQuery, batch, isBatch, made⟩ :=
    isBare
  cases made
  cases isLive
  have isReloadToo :
      resolveReload { line with headers := [text] } file = .ok reload :=
    isReload
  rw [resolve, isTarget, isReloadToo, isBatch]
  cases (GivenHeader.written text).read with
  | error fault => rfl
  | ok header =>
      have isQueryToo :
          resolveQuery { line with headers := [text] } (.live url [header]) =
            .ok query := isQuery
      simp only [Except.map, bind, Except.bind, pure, Except.pure, isQueryToo]

/-- A value with an equals sign in it is refused behind a colon, as what
stands before the sign is taken for the name. -/
theorem resolve_colon_of_equals
    {before behind : List Char}
    (isBare : resolve { line with headers := [] } file = .ok configuration)
    (isLive : configuration.target = .live url [])
    (isName : (HeaderName.ofText? name).isSome)
    (isSplit : value.toList = before ++ '=' :: behind)
    (isFirst : '=' ∉ before) :
    resolve { line with headers := [name ++ ": " ++ value] } file =
      .error (.invalidHeaderName
        (trimmed (name.toList ++ ':' :: ' ' :: before))) := by
  have isRefused :
      (GivenHeader.written (name ++ ": " ++ value)).read =
        .error (.invalidHeaderName
          (trimmed (name.toList ++ ':' :: ' ' :: before))) := by
    rw [GivenHeader.read, splitHeader_colon_of_equals isName isSplit isFirst]
    exact readHeader_of_colon (by simp) (trimmed behind)
  rw [resolve_eq_map_read isBare isLive, isRefused]
  rfl

/-- **A header in one text is kept whole, but for equals signs behind a
colon.**

A name and a value that are written with an equals sign between them are all
that is sent.  The same holds for a colon exactly where there is no equals sign
in the value.  Otherwise the run is refused with a name that ends before the
first equals sign. -/
theorem written_header_kept
    (line : CommandLine)
    (file : BatchFile)
    {configuration : Configuration}
    {url : Endpoint.Url}
    (name value : String)
    (isBare : resolve { line with headers := [] } file = .ok configuration)
    (isLive : configuration.target = .live url [])
    (isName : (HeaderName.ofText? name).isSome)
    (isValue : (HeaderValue.ofText? value).isSome)
    (isTrimmed : Text.trim value.toList = value.toList) :
    resolve { line with headers := [name ++ "=" ++ value] } file =
      .ok { configuration with
        target := .live url [headerOf name value] } ∧
    (resolve { line with headers := [name ++ ": " ++ value] } file =
        .ok { configuration with
          target := .live url [headerOf name value] } ↔
      '=' ∉ value.toList) ∧
    ∀ before behind, value.toList = before ++ '=' :: behind → '=' ∉ before →
      resolve { line with headers := [name ++ ": " ++ value] } file =
        .error (.invalidHeaderName
          (trimmed (name.toList ++ ':' :: ' ' :: before))) := by
  have isHeader := readHeader_eq isName isValue
  refine ⟨?_, ⟨fun isKept isMember => ?_, fun noEquals => ?_⟩,
    fun before behind isSplit isFirst =>
      resolve_colon_of_equals isBare isLive isName isSplit isFirst⟩
  · have isRead : (GivenHeader.written (name ++ "=" ++ value)).read =
        .ok (headerOf name value) := by
      rw [GivenHeader.read, splitHeader_equals isName isTrimmed]
      exact isHeader
    rw [resolve_eq_map_read isBare isLive, isRead]
    rfl
  · obtain ⟨before, behind, isSplit, isFirst⟩ :=
      List.eq_append_cons_of_mem isMember
    rw [resolve_colon_of_equals isBare isLive isName isSplit isFirst] at isKept
    cases isKept
  · have isRead : (GivenHeader.written (name ++ ": " ++ value)).read =
        .ok (headerOf name value) := by
      rw [GivenHeader.read, splitHeader_colon isName isTrimmed noEquals]
      exact isHeader
    rw [resolve_eq_map_read isBare isLive, isRead]
    rfl

/-! ## A cookie -/

/-- A server on the same machine. -/
def localUrl : Endpoint.Url where
  scheme := .http
  user := ⟨"", ""⟩
  host := .name "localhost"
  port := some 9990
  path := ["management"]
  query := none
  fragment := none

/-- A request that names that server and nothing else. -/
def localLine : CommandLine where
  url := some "http://localhost:9990/management"

/-- What comes of that request with an empty file. -/
def localConfiguration : Configuration where
  target := .live localUrl []
  reload := { }
  batch := []
  query := none
  dryRun := false
  verbose := false

theorem resolve_localLine :
    resolve { localLine with headers := [] } { } = .ok localConfiguration := by
  have parses : Endpoint.Url.parse "http://localhost:9990/management" =
      .ok localUrl := by
    decide +kernel
  have names : NamesServer { localLine with headers := [] } { }
      "http://localhost:9990/management" :=
    ⟨.commandLine, .commandLine (Or.inl rfl)⟩
  rw [resolve_eq_ok_iff]
  exact
    { target := .server names parses .nil
      waits := ⟨by decide, by decide, by decide⟩
      reload := rfl
      query := .none rfl
      batch := .nil
      dryRun := rfl
      verbose := rfl }

theorem written_header_kept_sample :
    resolve { localLine with headers := [] } { } = .ok localConfiguration ∧
    resolve { localLine with headers := ["Cookie=a=b"] } { } =
      .ok { localConfiguration with
        target := .live localUrl [(⟨"cookie"⟩, ⟨"a=b"⟩)] } ∧
    resolve { localLine with headers := ["Cookie: a=b"] } { } =
      .error (.invalidHeaderName "Cookie: a") := by
  obtain ⟨behindEquals, -, behindColon⟩ :=
    written_header_kept localLine { } "Cookie" "a=b" resolve_localLine rfl
      (by decide) (by decide) (by decide)
  have isEquals : "Cookie" ++ "=" ++ "a=b" = "Cookie=a=b" := by decide
  have isHeader : headerOf "Cookie" "a=b" = (⟨"cookie"⟩, ⟨"a=b"⟩) := by
    decide +kernel
  rw [isEquals, isHeader] at behindEquals
  exact ⟨resolve_localLine, behindEquals,
    behindColon ['a'] ['b'] (by decide) (by decide)⟩

/-- Not every value is kept behind a colon. -/
theorem not_every_written_header_kept :
    ¬ ∀ (line : CommandLine) (file : BatchFile)
        (configuration : Configuration) (url : Endpoint.Url)
        (name value : String),
      resolve { line with headers := [] } file = .ok configuration →
      configuration.target = .live url [] →
      (HeaderName.ofText? name).isSome → (HeaderValue.ofText? value).isSome →
      Text.trim value.toList = value.toList →
      resolve { line with headers := [name ++ ": " ++ value] } file =
        .ok { configuration with
          target := .live url [headerOf name value] } := by
  intro areKept
  have isKept := areKept localLine { } localConfiguration localUrl "Cookie"
    "a=b" resolve_localLine rfl (by decide) (by decide) (by decide)
  have isSplit : "a=b".toList = ['a'] ++ '=' :: ['b'] := by decide
  have isName : (HeaderName.ofText? "Cookie").isSome := by decide
  have isRefused :=
    resolve_colon_of_equals resolve_localLine rfl isName isSplit (by decide)
  cases isKept.symm.trans isRefused

end Run

end Configuration

end Provision
