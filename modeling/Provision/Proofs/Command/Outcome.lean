import Provision.Proofs.Command.Agreement
import Provision.Proofs.Command.Writes

/-!
Contract: batches on a server and in a document as runs of writes.

A command writes one node of a server, or one record of a document.  It is
accepted where the place of the node is free or the command replaces; in a
document the container of the kind must be an object as well.

Owns:
- the writes of commands to the nodes of a server without faults;
- the writes of resources to the subsystem of a document;
- the outcome of a batch in terms of these writes.

Does not own: what follows for two batches, or for one that runs twice.
-/

namespace Provision

open InMemory (session)

/-! ## Servers -/

/-- What commands do to the nodes of a server. -/
def nodeWrites : Writes (Address → Option ValueSet) Command Address where
  accepts := fun nodes command =>
    nodes command.address = none ∨ command.replaceExisting = true
  next := fun nodes command address =>
    if address = command.address then some command.values else nodes address
  place := Command.address

/-- The server is without faults and has these nodes. -/
def InMemory.ShowsNodes (server : InMemory)
    (nodes : Address → Option ValueSet) : Prop :=
  server.Faultless ∧ server.node? = nodes

theorem nodeWrites_carriedOut :
    nodeWrites.CarriedOut (Command.applyLive session)
      InMemory.ShowsNodes where
  accepted := by
    rintro server _ command ⟨faultless, rfl⟩ isAccepted
    obtain ⟨after, ran, stays, isPut⟩ :=
      command.applyLive_accepted faultless isAccepted
    exact ⟨after, ran, stays, funext isPut⟩
  refused := by
    rintro server _ command ⟨faultless, rfl⟩ isRefused
    simp only [nodeWrites, not_or, Bool.not_eq_true] at isRefused
    obtain ⟨error, after, ran, -⟩ :=
      command.applyLive_refused faultless
        (Option.isSome_iff_ne_none.mpr isRefused.1) isRefused.2
    exact ⟨error, after, ran⟩

theorem nodeWrites_separate : nodeWrites.Separate := by
  intro nodes command other isOther _
  have isElsewhere : command.address ≠ other.address := isOther
  simp [nodeWrites, isElsewhere]

theorem nodeWrites_commutes : nodeWrites.CommutesUpTo Eq where
  refl := Eq.refl
  trans := Eq.trans
  keeps := fun same item => congrArg (nodeWrites.next · item) same
  comm := by
    intro command other isOther nodes
    have isElsewhere : command.address ≠ other.address := isOther
    funext address
    by_cases isHere : address = command.address
    · simp [nodeWrites, isHere, isElsewhere]
    · simp [nodeWrites, isHere]

/-- On a server every place may be taken for held. -/
theorem nodeWrites_lastCounts : nodeWrites.LastCounts fun _ _ => True where
  absorbs := by
    intro later earlier samePlace nodes
    have isHere : later.address = earlier.address := samePlace
    funext address
    by_cases isAsked : address = earlier.address <;>
      simp [nodeWrites, isHere, isAsked]
  commutes := fun isOther _ _ => nodeWrites_commutes.comm isOther _
  holds := fun _ _ => trivial
  keeps := fun _ _ => trivial

namespace Batch

variable {batch : Batch} {server : InMemory}

theorem runLive_of_goThrough (faultless : server.Faultless)
    (through : nodeWrites.GoThrough server.node? batch) :
    ∃ after, (batch.runLive session).runFrom server =
        (.ok batch.length, after) ∧
      after.Faultless ∧ after.node? = nodeWrites.run server.node? batch := by
  have shows : server.ShowsNodes server.node? := ⟨faultless, rfl⟩
  have ran := nodeWrites_carriedOut.runInOrder_of_goThrough shows through
    Command.kind 0
  rwa [Nat.zero_add] at ran

theorem runLive_of_not_goThrough (faultless : server.Faultless)
    (stopped : ¬ nodeWrites.GoThrough server.node? batch) :
    ∃ error after, (batch.runLive session).runFrom server =
      (.error error, after) :=
  nodeWrites_carriedOut.runInOrder_of_not_goThrough
    ⟨faultless, rfl⟩ stopped Command.kind 0

end Batch

/-! ## Documents -/

/-- What resources do to the subsystem of a document. -/
def recordWrites : Writes (Members Json) Resource Address where
  accepts := fun subtree resource =>
    (∃ id, resource.kind.transformId? = some id) ∧
      ∃ container, Document.container? resource.kind.text subtree =
          some container ∧
        (resource.name.text ∈ Members.names container →
          resource.replaceExisting = true)
  next := fun subtree resource =>
    Document.placed resource.kind.text resource.name.text
      resource.values.record subtree
  place := Resource.address

/-- The memory holds a document with this subsystem. -/
def MemoryDocument.ShowsSubsystem (document : Json) (memory : MemoryDocument)
    (subtree : Members Json) : Prop :=
  memory.document =
    document.replaceAt Document.subsystemPath (.object subtree)

/-- A resource is added to a document in memory by its transform. -/
theorem Resource.runFrom_applyOffline {resource : Resource} {id : String}
    (isId : resource.kind.transformId? = some id) (memory : MemoryDocument) :
    (resource.command.applyOffline
        (MemoryDocument.backend offlineTransforms)).runFrom memory =
      match offlineTransforms.apply memory.document
          (resource.transform id) with
      | .ok changed =>
          (.ok (), ⟨changed, memory.tried ++ [resource.transform id]⟩)
      | .error cause =>
          (.error (.failed resource.address .add
              (.document (.refused cause))),
            { memory with
              tried := memory.tried ++ [resource.transform id] }) := by
  have isOffline :
      resource.command.transform = .ok (resource.transform id) := by
    rw [Command.transform, Resource.offline_command, isId]
    rfl
  simp only [Command.applyOffline, isOffline, Command.applyTransform,
    Command.atStep, MemoryDocument.backend, Attempt.runFrom_adapt,
    MemoryDocument.runFrom_apply]
  cases offlineTransforms.apply memory.document (resource.transform id) <;> rfl

theorem Resource.runFrom_applyOffline_of_none {resource : Resource}
    (isLiveOnly : resource.kind.transformId? = none)
    (memory : MemoryDocument) :
    (resource.command.applyOffline
        (MemoryDocument.backend offlineTransforms)).runFrom memory =
      (.error (.unsupported resource.kind.text resource.address), memory) := by
  have isNone : resource.command.transform =
      .error (.unsupported resource.kind.text resource.address) := by
    rw [Command.transform, Resource.offline_command, isLiveOnly]
    rfl
  simp only [Command.applyOffline, isNone, Attempt.runFrom_throw]

/-- A resource that is accepted is put into the subsystem. -/
theorem Resource.applyOffline_accepted {resource : Resource}
    {memory : MemoryDocument} {subtree : Members Json}
    (found : memory.document.at? Document.subsystemPath =
      some (.object subtree))
    (isAccepted : recordWrites.accepts subtree resource) :
    ∃ after, (resource.command.applyOffline
        (MemoryDocument.backend offlineTransforms)).runFrom memory =
          (.ok (), after) ∧
      after.document = memory.document.replaceAt Document.subsystemPath
        (.object (recordWrites.next subtree resource)) := by
  obtain ⟨⟨id, isId⟩, container, holds, mayAdd⟩ := isAccepted
  have isFree : (Members.contains resource.name.text container &&
      !resource.replaceExisting) = false := by
    rw [Bool.and_eq_false_imp, Members.contains_eq_true_iff]
    intro isThere
    rw [mayAdd isThere]
    rfl
  have applied := Resource.apply_transform isId found holds
  rw [isFree, if_neg Bool.false_ne_true] at applied
  have isNext : recordWrites.next subtree resource =
      Document.inserted resource.kind.text resource.name.text
        resource.values.record container subtree := by
    simp [recordWrites, Document.placed, holds]
  refine ⟨_, by rw [Resource.runFrom_applyOffline isId, applied], ?_⟩
  rw [isNext]

/-- A resource that is not accepted makes the attempt fail. -/
theorem Resource.applyOffline_refused {resource : Resource}
    {memory : MemoryDocument} {subtree : Members Json}
    (found : memory.document.at? Document.subsystemPath =
      some (.object subtree))
    (isRefused : ¬ recordWrites.accepts subtree resource) :
    ∃ error after, (resource.command.applyOffline
        (MemoryDocument.backend offlineTransforms)).runFrom memory =
      (.error error, after) := by
  cases isId : resource.kind.transformId? with
  | none =>
      exact ⟨_, memory, Resource.runFrom_applyOffline_of_none isId memory⟩
  | some id =>
      rw [Resource.runFrom_applyOffline isId]
      cases applied : offlineTransforms.apply memory.document
          (resource.transform id) with
      | error cause => exact ⟨_, _, rfl⟩
      | ok changed =>
          -- A transform that succeeds has found all that is asked for.
          refine absurd ⟨⟨id, isId⟩, ?_⟩ isRefused
          obtain ⟨container, members, alsoFound, holds, -⟩ :=
            Resource.located_of_apply_transform_eq_ok isId applied
          rw [found] at alsoFound
          cases alsoFound
          refine ⟨container, holds, fun isThere => ?_⟩
          rw [Resource.apply_transform isId found holds,
            (Members.contains_eq_true_iff _ _).mpr isThere] at applied
          cases replaces : resource.replaceExisting with
          | true => rfl
          | false => simp [replaces] at applied

theorem MemoryDocument.ShowsSubsystem.at? {document part : Json}
    {memory : MemoryDocument} {subtree : Members Json}
    (located : document.at? Document.subsystemPath = some part)
    (shows : memory.ShowsSubsystem document subtree) :
    memory.document.at? Document.subsystemPath =
      some (.object subtree) := by
  rw [shows, Json.at?_replaceAt located]

theorem recordWrites_carriedOut {document part : Json}
    (located : document.at? Document.subsystemPath = some part) :
    recordWrites.CarriedOut
      (fun resource => resource.command.applyOffline
        (MemoryDocument.backend offlineTransforms))
      (MemoryDocument.ShowsSubsystem document) where
  accepted := by
    intro memory subtree resource shows isAccepted
    obtain ⟨after, ran, isNext⟩ :=
      Resource.applyOffline_accepted (shows.at? located) isAccepted
    refine ⟨after, ran, ?_⟩
    rw [MemoryDocument.ShowsSubsystem, isNext, shows,
      Json.replaceAt_replaceAt located]
  refused := by
    intro memory subtree resource shows isRefused
    exact Resource.applyOffline_refused (shows.at? located) isRefused

theorem Resource.ne_place {resource other : Resource}
    (isOther : resource.address ≠ other.address) :
    ¬ (resource.kind.text = other.kind.text ∧
      resource.name.text = other.name.text) := by
  rintro ⟨sameKind, sameName⟩
  exact isOther (by simp [address, ResourceKind.address, sameKind, sameName])

theorem recordWrites_separate : recordWrites.Separate := by
  rintro subtree resource other isOther ⟨-, container, holds, -⟩
  have isElsewhere := Resource.ne_place isOther
  refine and_congr_right fun _ => ?_
  by_cases sameKind : resource.kind.text = other.kind.text
  · have otherName : resource.name.text ≠ other.name.text := fun same =>
      isElsewhere ⟨sameKind, same⟩
    simp only [recordWrites, Document.container?_placed, sameKind, if_true,
      holds, Option.getD_some, Option.some.injEq, exists_eq_left',
      Members.mem_names_put, otherName, false_or]
  · simp only [recordWrites, Document.container?_placed, if_neg sameKind]

/-- The order of resources with different addresses shows in the order of
members only. -/
theorem recordWrites_commutes :
    recordWrites.CommutesUpTo fun subtree other =>
      Json.Alike (.object subtree) (.object other) where
  refl := fun _ => .same _
  trans := Json.Alike.trans
  keeps := fun alike _ => Document.alike_placed alike _ _ _
  comm := fun isOther subtree =>
    Document.alike_placed_comm (Resource.ne_place isOther) _ _ subtree

/-- A resource that replaces needs a container only, and no container goes
away. -/
theorem recordWrites_lasts {resource : Resource}
    (replaces : resource.replaceExisting = true) :
    recordWrites.Lasts resource := by
  rintro subtree other ⟨isOffline, container, holds, -⟩
  refine ⟨isOffline, ?_⟩
  simp only [recordWrites, replaces, implies_true, and_true,
    Document.container?_placed]
  split
  · exact ⟨_, rfl⟩
  · exact ⟨container, holds⟩

/-- In a document a place is held where a record stands in it. -/
theorem recordWrites_lastCounts :
    recordWrites.LastCounts fun address subtree =>
      Document.Holds address.leaf.kind address.leaf.name subtree where
  absorbs := by
    intro later earlier samePlace subtree
    obtain ⟨sameKind, sameName⟩ := ResourceKind.address_eq_iff.mp samePlace
    simp only [recordWrites, sameKind, sameName, Document.placed_placed]
  commutes := fun isOther _ holds =>
    Document.placed_comm_of_holds (Resource.ne_place isOther) holds
  holds := fun subtree resource => Document.holds_placed _ _ _ subtree
  keeps := fun holds resource => holds.placed _ _ _

/-! ## Batches of resources in a document -/

namespace Document

/-- The document takes the resources: its subsystem is an object, and each of
them is accepted there when its turn comes.  Any document takes none. -/
def Takes (document : Json) (resources : List Resource) : Prop :=
  resources = [] ∨ ∃ subtree,
    document.at? subsystemPath = some (.object subtree) ∧
      recordWrites.GoThrough subtree resources

/-- The document with the records of the resources. -/
def filled (document : Json) (resources : List Resource) : Json :=
  match document.at? subsystemPath with
  | some (.object subtree) =>
      document.replaceAt subsystemPath
        (.object (recordWrites.run subtree resources))
  | _ => document

theorem filled_of_located {document : Json} {subtree : Members Json}
    (located : document.at? subsystemPath = some (.object subtree))
    (resources : List Resource) :
    filled document resources = document.replaceAt subsystemPath
      (.object (recordWrites.run subtree resources)) := by
  rw [filled, located]

theorem filled_nil (document : Json) : filled document [] = document := by
  unfold filled
  split
  · next subtree located => exact Json.replaceAt_self located
  · rfl

/-- The subsystem of a document that was filled. -/
theorem at?_filled {document : Json} {subtree : Members Json}
    (located : document.at? subsystemPath = some (.object subtree))
    (resources : List Resource) :
    (filled document resources).at? subsystemPath =
      some (.object (recordWrites.run subtree resources)) := by
  rw [filled_of_located located, Json.at?_replaceAt located]

end Document

/-- Commands that are built are those of resources. -/
theorem Batch.exists_resources {batch : Batch} {kinds : List ResourceKind}
    (allBuilt : ∀ command ∈ batch, command.IsBuiltFrom kinds) :
    ∃ resources : List Resource,
      (∀ resource ∈ resources, resource.kind ∈ kinds) ∧
        resources.map Resource.command = batch := by
  induction batch with
  | nil => exact ⟨[], by simp, rfl⟩
  | cons command rest inductionHypothesis =>
      rw [List.forall_mem_cons] at allBuilt
      obtain ⟨resource, isKind, rfl⟩ := allBuilt.1.exists_resource
      obtain ⟨resources, allKinds, rfl⟩ := inductionHypothesis allBuilt.2
      exact ⟨resource :: resources, List.forall_mem_cons.mpr
        ⟨isKind, allKinds⟩, rfl⟩

namespace Batch

variable {σ α β : Type}

theorem runInOrder_map (kind : β → String)
    (act : β → Attempt σ CommandError Unit) (change : α → β)
    (index : Nat) (items : List α) :
    runInOrder kind act index (items.map change) =
      runInOrder (kind ∘ change) (act ∘ change) index items := by
  induction items generalizing index with
  | nil => rfl
  | cons item rest inductionHypothesis =>
      simp only [List.map_cons, runInOrder, inductionHypothesis,
        Function.comp]

/-- A batch of commands with an offline form carries them out in order. -/
theorem runOffline_of_all (document : OfflineDocument σ) {batch : Batch}
    (allOffline : ∀ command ∈ batch, command.offline.isSome) :
    batch.runOffline document =
      runInOrder Command.kind (Command.applyOffline document) 0 batch := by
  simp only [runOffline, transforms, transformsFrom_of_all allOffline]
  generalize 0 = index
  induction batch generalizing index with
  | nil => rfl
  | cons command rest inductionHypothesis =>
      rw [List.forall_mem_cons] at allOffline
      obtain ⟨transform, isOffline⟩ :=
        Option.isSome_iff_exists.mp allOffline.1
      have split : resolved (command :: rest) =
          (command, transform) :: resolved rest := by
        simp [resolved, isOffline]
      rw [split]
      simp only [runInOrder, inductionHypothesis allOffline.2,
        Command.applyOffline, Command.transform, isOffline]

variable {resources : List Resource} {memory : MemoryDocument}

theorem runOffline_resources
    (allOffline : ∀ resource ∈ resources, resource.kind ∈ offlineKinds) :
    runOffline (MemoryDocument.backend offlineTransforms)
        (resources.map Resource.command) =
      runInOrder (Command.kind ∘ Resource.command)
        (fun resource => resource.command.applyOffline
          (MemoryDocument.backend offlineTransforms)) 0 resources := by
  have haveForms : ∀ command ∈ resources.map Resource.command,
      command.offline.isSome := by
    intro command isMember
    obtain ⟨resource, isResource, rfl⟩ := List.mem_map.mp isMember
    obtain ⟨id, isId⟩ :=
      transformId?_of_mem_offlineKinds (allOffline resource isResource)
    rw [Resource.offline_command, isId]
    rfl
  rw [runOffline_of_all _ haveForms, runInOrder_map]
  rfl

/-- A batch whose resources the document takes goes through and fills it. -/
theorem runOffline_of_takes
    (allOffline : ∀ resource ∈ resources, resource.kind ∈ offlineKinds)
    (takes : Document.Takes memory.document resources) :
    ∃ after, (runOffline (MemoryDocument.backend offlineTransforms)
        (resources.map Resource.command)).runFrom memory =
          (.ok resources.length, after) ∧
      after.document = Document.filled memory.document resources := by
  rw [runOffline_resources allOffline]
  rcases takes with rfl | ⟨subtree, located, through⟩
  · exact ⟨memory, rfl, (Document.filled_nil _).symm⟩
  · have ran := (recordWrites_carriedOut located).runInOrder_of_goThrough
      (Json.replaceAt_self located).symm through
      (Command.kind ∘ Resource.command) 0
    rw [Nat.zero_add] at ran
    rw [Document.filled_of_located located]
    exact ran

/-- A batch with a resource that the document does not take fails. -/
theorem runOffline_of_not_takes
    (allOffline : ∀ resource ∈ resources, resource.kind ∈ offlineKinds)
    (stopped : ¬ Document.Takes memory.document resources) :
    ∃ error after, (runOffline (MemoryDocument.backend offlineTransforms)
        (resources.map Resource.command)).runFrom memory =
      (.error error, after) := by
  rw [runOffline_resources allOffline]
  obtain ⟨notEmpty, notThrough⟩ := not_or.mp stopped
  by_cases isLocated : ∃ subtree,
      memory.document.at? Document.subsystemPath = some (.object subtree)
  · obtain ⟨subtree, located⟩ := isLocated
    exact (recordWrites_carriedOut located).runInOrder_of_not_goThrough
      (Json.replaceAt_self located).symm
      (fun through => notThrough ⟨subtree, located, through⟩) _ 0
  · -- Without a subsystem, the first resource is refused already.
    cases resources with
    | nil => exact absurd rfl notEmpty
    | cons first rest =>
        obtain ⟨id, isId⟩ :=
          transformId?_of_mem_offlineKinds (allOffline first (by simp))
        rw [runFrom_runInOrder_cons, Resource.runFrom_applyOffline isId]
        cases applied : offlineTransforms.apply memory.document
            (first.transform id) with
        | error cause => exact ⟨_, _, rfl⟩
        | ok changed =>
            obtain ⟨-, subtree, located, -⟩ :=
              Resource.located_of_apply_transform_eq_ok isId applied
            exact absurd ⟨subtree, located⟩ isLocated

end Batch

end Provision
