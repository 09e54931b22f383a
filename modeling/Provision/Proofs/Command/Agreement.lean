import Provision.Proofs.Command.Batch
import Provision.Proofs.Document.Placement
import Provision.Proofs.Session.InMemory

/-!
Contract: a batch does to a document what it does to a server.

A server in memory and a document agree where the document has, for each node
of a kind with an offline form, the member that stands for the node.  Every
command keeps the agreement, and it succeeds or is refused on both sides
alike, so a batch of any length does the same to both.

Owns:
- the agreement of a server with a document;
- the step of one command and the run of a batch on both sides.

Does not own: servers with faults, and documents in files.
-/

namespace Provision

/-! ## Servers without faults -/

/-- The server answers, and it takes every attribute. -/
structure InMemory.Faultless (server : InMemory) : Prop where
  takesAll : server.rejected = none
  answers : server.unavailable = false

namespace InMemory.Faultless

variable {server : InMemory}

theorem not_rejects (faultless : server.Faultless) (values : ValueSet) :
    ¬ server.Rejects values := by
  simp [Rejects, faultless.takesAll]

theorem cleared (faultless : server.Faultless) (address : Address) :
    (server.cleared address).Faultless :=
  ⟨by simp [faultless.takesAll], by simp [faultless.answers]⟩

/-- Only a node that is there keeps such a server from adding one. -/
theorem refusal?_eq (faultless : server.Faultless) (address : Address)
    (values : ValueSet) :
    server.refusal? address values =
      if (server.node? address).isSome then some (.duplicateResource address)
      else none := by
  have takes : server.rejection? values = none :=
    (rejection?_eq_none_iff server values).mpr (faultless.not_rejects values)
  simp [refusal?, faultless.answers, takes]

/-- The server after an addition: with the new node, or as it was. -/
theorem added (faultless : server.Faultless) (command : Command) :
    (command.added server).2.Faultless := by
  unfold Command.added
  split <;> exact ⟨faultless.takesAll, faultless.answers⟩

end InMemory.Faultless

namespace Command

open InMemory (session)

/-- A command that finds its node and does not replace it is refused as a
duplicate, and no node changes. -/
theorem applyLive_refused (command : Command) {server : InMemory}
    (faultless : server.Faultless)
    (isThere : (server.node? command.address).isSome)
    (keeps : command.replaceExisting = false) :
    ∃ error after, (command.applyLive session).runFrom server =
        (.error error, after) ∧ error.isDuplicate = true ∧
      after.Faultless ∧
      ∀ address, after.node? address = server.node? address := by
  have refused := faultless.refusal?_eq command.address command.values
  rw [if_pos isThere] at refused
  refine ⟨.failed command.address .add
      (.session (.duplicateResource command.address)),
    (command.added server).2, ?_, rfl, faultless.added command, ?_⟩
  · rw [runFrom_applyLive_keeping command server keeps, added, refused]
  · intro address
    rw [added, refused]
    rfl

/-- Any other command puts its node in place, and no other node changes. -/
theorem applyLive_accepted (command : Command) {server : InMemory}
    (faultless : server.Faultless)
    (mayAdd : server.node? command.address = none ∨
      command.replaceExisting = true) :
    ∃ after, (command.applyLive session).runFrom server = (.ok (), after) ∧
      after.Faultless ∧
      ∀ address, after.node? address =
        if address = command.address then some command.values
        else server.node? address := by
  cases mode : command.replaceExisting with
  | false =>
      have isNew : server.node? command.address = none := by
        simpa [mode] using mayAdd
      have isOk : (command.added server).1 = .ok () :=
        (added_eq_ok_iff command server).mpr
          ⟨faultless.answers, faultless.not_rejects _, isNew⟩
      refine ⟨(command.added server).2, ?_, faultless.added command,
        node?_added_of_ok command server isOk⟩
      rw [runFrom_applyLive_keeping command server mode, ← isOk]
  | true =>
      let place := server.cleared command.address
      have isOk : (command.added place).1 = .ok () :=
        (added_eq_ok_iff command place).mpr
          ⟨(faultless.cleared _).answers,
            (faultless.cleared _).not_rejects _, by simp [place]⟩
      refine ⟨(command.added place).2, ?_,
        (faultless.cleared _).added command, fun address => ?_⟩
      · rw [runFrom_applyLive_replacing command server mode,
          if_neg (by simp [faultless.answers]), ← isOk]
      · rw [node?_added_of_ok command place isOk address]
        by_cases isHere : address = command.address <;>
          simp [place, isHere]

end Command

/-! ## Agreement -/

/-- The kinds that have an offline form. -/
def offlineKinds : List ResourceKind :=
  [.clientSslContext, .x500AttributePrincipalDecoder]

/-- The document has the subsystem as an object; in it the container of each
offline kind is missing or an object, and it has a member for a name exactly
where the server has the node of that name, namely the record of the node. -/
def Agree (server : InMemory) (document : Json) : Prop :=
  ∃ subtree, document.at? Document.subsystemPath = some (.object subtree) ∧
    ∀ kind ∈ offlineKinds, ∃ container,
      Document.container? kind.text subtree = some container ∧
      ∀ name : ResourceName, Members.get? name.text container =
        (server.node? (kind.address name)).map ValueSet.record

theorem transformId?_of_mem_offlineKinds {kind : ResourceKind}
    (isOffline : kind ∈ offlineKinds) : ∃ id, kind.transformId? = some id := by
  simp only [offlineKinds, List.mem_cons, List.not_mem_nil, or_false]
    at isOffline
  rcases isOffline with rfl | rfl <;> exact ⟨_, rfl⟩

theorem ResourceKind.text_injective {left right : ResourceKind}
    (same : left.text = right.text) : left = right := by
  cases left <;> cases right <;> first | rfl | exact absurd same (by decide)

theorem ResourceName.text_injective {left right : ResourceName}
    (same : left.text = right.text) : left = right := by
  cases left
  cases right
  simpa using same

/-- Resources of different kinds or names have different addresses. -/
theorem ResourceKind.address_eq_iff {left right : ResourceKind}
    {leftName rightName : ResourceName} :
    left.address leftName = right.address rightName ↔
      left = right ∧ leftName = rightName := by
  constructor
  · intro same
    simp only [address, Address.mk.injEq, Segment.mk.injEq, true_and] at same
    exact ⟨text_injective same.1, ResourceName.text_injective same.2⟩
  · rintro ⟨rfl, rfl⟩
    rfl

/-- Putting the same node on both sides keeps the agreement. -/
theorem Agree.put {server after : InMemory} {document : Json}
    {resource : Resource} {container subtree : Members Json}
    (agree : Agree server document)
    (located : document.at? Document.subsystemPath = some (.object subtree))
    (holds : Document.container? resource.kind.text subtree = some container)
    (isPut : ∀ address, after.node? address =
      if address = resource.address then some resource.values
      else server.node? address) :
    Agree after (document.replaceAt Document.subsystemPath
      (.object (Document.inserted resource.kind.text resource.name.text
        resource.values.record container subtree))) := by
  obtain ⟨sameSubtree, alsoLocated, agrees⟩ := agree
  have same : sameSubtree = subtree := by
    rw [located] at alsoLocated
    injection alsoLocated with isObject
    injection isObject with isSame
    exact isSame.symm
  subst same
  refine ⟨_, Json.at?_replaceAt located _, fun kind isOffline => ?_⟩
  obtain ⟨others, othersHold, eachName⟩ := agrees kind isOffline
  rw [Document.container?_inserted]
  by_cases isKind : kind = resource.kind
  · subst isKind
    have sameContainer : others = container := by
      rw [holds] at othersHold
      exact (Option.some.inj othersHold).symm
    subst sameContainer
    refine ⟨_, if_pos rfl, fun name => ?_⟩
    rw [Members.get?_put, isPut, Resource.address]
    by_cases isName : name = resource.name
    · subst isName
      simp
    · have otherText : name.text ≠ resource.name.text := fun sameText =>
        isName (ResourceName.text_injective sameText)
      rw [if_neg otherText, if_neg (by simp [ResourceKind.address_eq_iff,
        isName]), eachName]
  · have otherText : kind.text ≠ resource.kind.text := fun sameText =>
      isKind (ResourceKind.text_injective sameText)
    refine ⟨others, by rw [if_neg otherText, othersHold], fun name => ?_⟩
    rw [isPut, Resource.address, if_neg (by simp [ResourceKind.address_eq_iff,
      isKind]), eachName]

/-! ## Steps and runs on both sides -/

theorem MemoryDocument.runFrom_apply (registry : Document.Registry)
    (transform : Document.Transform) (memory : MemoryDocument) :
    (MemoryDocument.apply registry transform).runFrom memory =
      match registry.apply memory.document transform with
      | .ok changed =>
          (.ok (), { document := changed, tried := memory.tried ++ [transform] })
      | .error cause =>
          (.error (.refused cause),
            { memory with tried := memory.tried ++ [transform] }) := by
  simp only [MemoryDocument.apply, Attempt.runFrom_bind, Attempt.runFrom_get,
    Attempt.runFrom_set]
  cases registry.apply memory.document transform <;> rfl

/-- The agreement is about the nodes of the server only. -/
theorem Agree.congr {server after : InMemory} {document : Json}
    (agree : Agree server document)
    (isSame : ∀ address, after.node? address = server.node? address) :
    Agree after document := by
  obtain ⟨subtree, located, agrees⟩ := agree
  refine ⟨subtree, located, fun kind isOffline => ?_⟩
  obtain ⟨container, holds, eachName⟩ := agrees kind isOffline
  exact ⟨container, holds, fun name => by rw [eachName, isSame]⟩

open InMemory (session)

/-- A command goes through on both sides, or is refused as a duplicate on
both; either way the agreement stays. -/
theorem Agree.step {server : InMemory} {memory : MemoryDocument}
    {command : Command} (agree : Agree server memory.document)
    (faultless : server.Faultless)
    (isBuilt : command.IsBuiltFrom offlineKinds) :
    ∃ transform, command.offline = some transform ∧
      let live := (command.applyLive session).runFrom server
      let offline := (command.applyTransform
        (MemoryDocument.backend offlineTransforms) transform).runFrom memory
      live.2.Faultless ∧ Agree live.2 offline.2.document ∧
        (live.1 = .ok () ∧ offline.1 = .ok () ∨
          ∃ liveError offlineError,
            live.1 = .error liveError ∧ offline.1 = .error offlineError ∧
            liveError.isDuplicate = true ∧
            offlineError.isDuplicate = true) := by
  obtain ⟨resource, isOffline, rfl⟩ := isBuilt.exists_resource
  obtain ⟨id, isId⟩ := transformId?_of_mem_offlineKinds isOffline
  have ⟨subtree, located, agrees⟩ := agree
  obtain ⟨container, holds, eachName⟩ := agrees resource.kind isOffline
  have isHeld : Members.contains resource.name.text container =
      (server.node? resource.address).isSome := by
    rw [Members.contains, eachName resource.name, Option.isSome_map]
    rfl
  have applied := Resource.apply_transform isId located holds
  refine ⟨resource.transform id, ?_, ?_⟩
  · rw [Resource.offline_command, isId]
    rfl
  dsimp only
  simp only [Command.applyTransform, Command.atStep, MemoryDocument.backend,
    Attempt.runFrom_adapt, MemoryDocument.runFrom_apply, applied, isHeld]
  cases refused : (server.node? resource.address).isSome &&
      !resource.replaceExisting with
  | true =>
      rw [Bool.and_eq_true, Bool.not_eq_true'] at refused
      obtain ⟨error, after, ran, isDuplicate, stays, isSame⟩ :=
        Command.applyLive_refused resource.command faultless refused.1
          refused.2
      rw [ran]
      exact ⟨stays, agree.congr isSame,
        Or.inr ⟨error, _, rfl, rfl, isDuplicate, rfl⟩⟩
  | false =>
      have mayAdd : server.node? resource.address = none ∨
          resource.replaceExisting = true := by
        rcases Bool.and_eq_false_iff.mp refused with isNew | replaces
        · exact Or.inl (by simpa using isNew)
        · exact Or.inr (by simpa using replaces)
      obtain ⟨after, ran, stays, isPut⟩ :=
        Command.applyLive_accepted resource.command faultless mayAdd
      rw [ran]
      exact ⟨stays, agree.put located holds isPut, Or.inl ⟨rfl, rfl⟩⟩

/-- Two runs end alike: both succeed with a count, or both end at one command
with the refusal of a duplicate. -/
def EndAlike (count : Nat) (live offline : Except BatchError Nat) : Prop :=
  live = .ok count ∧ offline = .ok count ∨
    ∃ liveError offlineError,
      live = .error liveError ∧ offline = .error offlineError ∧
      liveError.index = offlineError.index ∧
      liveError.kind = offlineError.kind ∧
      liveError.cause.isDuplicate = true ∧
      offlineError.cause.isDuplicate = true

/-- The run of commands on both sides, counted from an index. -/
theorem Agree.run {server : InMemory} {memory : MemoryDocument}
    {batch : Batch} (agree : Agree server memory.document)
    (faultless : server.Faultless)
    (allBuilt : ∀ command ∈ batch, command.IsBuiltFrom offlineKinds)
    (index : Nat) :
    let live := (Batch.runInOrder Command.kind (Command.applyLive session)
      index batch).runFrom server
    let offline := (Batch.runInOrder (fun item => item.1.kind)
      (fun item => Command.applyTransform
        (MemoryDocument.backend offlineTransforms) item.1 item.2)
      index batch.resolved).runFrom memory
    EndAlike (index + batch.length) live.1 offline.1 ∧
      Agree live.2 offline.2.document ∧ live.2.Faultless := by
  induction batch generalizing server memory index with
  | nil => exact ⟨Or.inl ⟨rfl, rfl⟩, agree, faultless⟩
  | cons command rest inductionHypothesis =>
      obtain ⟨transform, isOffline, step⟩ :=
        agree.step faultless (allBuilt command (by simp))
      have split : Batch.resolved (command :: rest) =
          (command, transform) :: Batch.resolved rest := by
        simp [Batch.resolved, isOffline]
      dsimp only at step ⊢
      rw [split, Batch.runFrom_runInOrder_cons,
        Batch.runFrom_runInOrder_cons]
      -- From here on only what the step says about the two runs matters.
      generalize (command.applyLive session).runFrom server = live at step ⊢
      generalize (command.applyTransform
        (MemoryDocument.backend offlineTransforms) transform).runFrom memory =
          offline at step ⊢
      obtain ⟨liveOutcome, after⟩ := live
      obtain ⟨offlineOutcome, later⟩ := offline
      obtain ⟨stays, agreesAfter, isOk | isDuplicate⟩ := step
      · obtain ⟨rfl, rfl⟩ := isOk
        have others := inductionHypothesis agreesAfter stays
          (fun other isOther => allBuilt other (by simp [isOther]))
          (index + 1)
        simpa [Nat.add_assoc, Nat.add_comm 1] using others
      · obtain ⟨liveError, offlineError, rfl, rfl, liveDuplicate,
          offlineDuplicate⟩ := isDuplicate
        exact ⟨Or.inr ⟨_, _, rfl, rfl, rfl, rfl, liveDuplicate,
          offlineDuplicate⟩, agreesAfter, stays⟩

namespace Batch

/-- **The two backends stay in step.**  A batch of commands with an offline
form, run on a server without faults and on a document that agrees with it,
succeeds on both sides with the same count, or ends at the same command with
the refusal of a duplicate on both sides.  The states after it agree again,
whether it succeeds or not. -/
theorem runLive_inStep_runOffline (server : InMemory)
    (memory : MemoryDocument) (batch : Batch)
    (agree : Agree server memory.document) (faultless : server.Faultless)
    (allBuilt : ∀ command ∈ batch, command.IsBuiltFrom offlineKinds) :
    let live := (batch.runLive session).runFrom server
    let offline := (batch.runOffline
      (MemoryDocument.backend offlineTransforms)).runFrom memory
    EndAlike batch.length live.1 offline.1 ∧
      Agree live.2 offline.2.document ∧ live.2.Faultless := by
  have allOffline : ∀ command ∈ batch, command.offline.isSome := by
    intro command isMember
    obtain ⟨transform, isOffline, -⟩ :=
      agree.step faultless (allBuilt command isMember)
    exact Option.isSome_iff_exists.mpr ⟨transform, isOffline⟩
  have ran := agree.run faultless allBuilt 0
  rw [Nat.zero_add] at ran
  dsimp only
  simp only [runLive, runOffline, transforms, transformsFrom_of_all allOffline]
  exact ran

/-! ## A batch with a replacement and a duplicate -/

/-- The settings of a context that replaces, and of a decoder given twice. -/
def sampleDrafts : List ResourceDraft :=
  let decoder : X500AttributePrincipalDecoder.Draft :=
    { name := "cn", oid := some "2.5.4.3", maximumSegments := some 1 }
  [.clientSslContext
      { name := "client", protocols := ["TLSv1.3"], replaceExisting := true },
    .x500AttributePrincipalDecoder decoder,
    .x500AttributePrincipalDecoder decoder]

/-- The commands of the settings. -/
def sampleBatch : Batch :=
  sampleDrafts.filterMap fun draft => draft.command.toOption

/-- A server with one context and a reload pending. -/
def sampleServer : InMemory where
  nodes :=
    [(⟨[subsystemSegment], ⟨"client-ssl-context", "client"⟩⟩,
      [("protocols", .list [.text "TLSv1.2", .text "TLSv1.1"])])]
  reloadPending := true

/-- The document that agrees with the server. -/
def sampleMemory : MemoryDocument where
  document :=
    .object [("subsystem", .object [("elytron", .object
      [("client-ssl-context", .object
        [("client", .object
          [("protocols", .string "TLSv1.2 TLSv1.1")])])])])]

theorem agree_sample : Agree sampleServer sampleMemory.document := by
  refine ⟨_, rfl, fun kind isOffline => ?_⟩
  simp only [offlineKinds, List.mem_cons, List.not_mem_nil, or_false]
    at isOffline
  rcases isOffline with rfl | rfl
  · refine ⟨_, rfl, fun name => ?_⟩
    by_cases isClient : "client" = name.text
    · simp [Members.get?, isClient, InMemory.node?, sampleServer,
        ResourceKind.address, ResourceKind.text]
      rfl
    · simp [Members.get?, isClient, InMemory.node?, sampleServer,
        ResourceKind.address]
  · refine ⟨[], rfl, fun name => ?_⟩
    simp [Members.get?, InMemory.node?, sampleServer, ResourceKind.address,
      ResourceKind.text]

theorem runLive_inStep_runOffline_sample :
    Agree sampleServer sampleMemory.document ∧ sampleServer.Faultless ∧
      (∀ command ∈ sampleBatch, command.IsBuiltFrom offlineKinds) ∧
      let live := (sampleBatch.runLive session).runFrom sampleServer
      let offline := (sampleBatch.runOffline
        (MemoryDocument.backend offlineTransforms)).runFrom sampleMemory
      EndAlike sampleBatch.length live.1 offline.1 ∧
        Agree live.2 offline.2.document ∧ live.2.Faultless :=
  have isBuilt : ∀ command ∈ sampleBatch,
      command.IsBuiltFrom offlineKinds :=
    Command.isBuiltFrom_of_mem_filterMap (by decide)
  ⟨agree_sample, ⟨rfl, rfl⟩, isBuilt,
    runLive_inStep_runOffline sampleServer sampleMemory sampleBatch
      agree_sample ⟨rfl, rfl⟩ isBuilt⟩

end Batch

end Provision
