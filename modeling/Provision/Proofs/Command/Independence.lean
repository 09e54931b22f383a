import Provision.Proofs.Command.Outcome

/-!
Contract: commands with different addresses may be carried out in any order.

Such a command does not decide whether another one goes through, so a batch
and a reordered batch go through together.  On a server they leave the same
nodes.  In a document they leave the same records, although the members may
stand in another order.

Owns:
- the resources that a document takes in any order;
- the outcome of a batch of commands with different addresses and of its
  permutations, on a server and in a document.

Does not own: batches that name one address twice.
-/

namespace Provision

open InMemory (session)

namespace Document

variable {resources others : List Resource}

theorem takes_perm (rearranged : resources.Perm others)
    (distinct : (resources.map Resource.address).Nodup) (document : Json) :
    Takes document resources ↔ Takes document others := by
  have sameEmpty : resources = [] ↔ others = [] := by
    rw [← List.length_eq_zero_iff, ← List.length_eq_zero_iff,
      rearranged.length_eq]
  refine or_congr sameEmpty (exists_congr fun subtree => ?_)
  exact and_congr_right fun _ =>
    Writes.goThrough_perm recordWrites_separate rearranged distinct subtree

theorem alike_filled (rearranged : resources.Perm others)
    (distinct : (resources.map Resource.address).Nodup) (document : Json) :
    Json.Alike (filled document resources) (filled document others) := by
  unfold filled
  split
  · next subtree _ =>
      exact Json.Alike.replaceAt subsystemPath document
        (recordWrites_commutes.perm_run rearranged distinct subtree)
  · exact .same document

end Document

namespace Batch

/-- Both runs end with the count and leave states that are the same in some
sense, or both of them fail. -/
def EndTogether {σ : Type} (count : Nat) (Same : σ → σ → Prop)
    (left right : Except BatchError Nat × σ) : Prop :=
  left.1 = .ok count ∧ right.1 = .ok count ∧ Same left.2 right.2 ∨
    (∃ error, left.1 = .error error) ∧ ∃ error, right.1 = .error error

/-- Where one of the runs succeeds, both of them do. -/
theorem EndTogether.of_ok {σ : Type} {count : Nat} {Same : σ → σ → Prop}
    {left right : Except BatchError Nat × σ}
    (ended : EndTogether count Same left right)
    (isOk : left.1.toOption.isSome = true) :
    left.1 = .ok count ∧ right.1 = .ok count ∧ Same left.2 right.2 := by
  rcases ended with succeeded | ⟨⟨error, isError⟩, -⟩
  · exact succeeded
  · rw [isError] at isOk
    cases isOk

variable {batch others : Batch}

theorem runLive_perm (rearranged : batch.Perm others)
    (distinct : (batch.map Command.address).Nodup) {server : InMemory}
    (faultless : server.Faultless) :
    EndTogether batch.length
      (fun left right : InMemory =>
        ∀ address, left.node? address = right.node? address)
      ((batch.runLive session).runFrom server)
      ((others.runLive session).runFrom server) := by
  have together := Writes.goThrough_perm nodeWrites_separate rearranged
    distinct server.node?
  by_cases through : nodeWrites.GoThrough server.node? batch
  · obtain ⟨after, ran, -, isRun⟩ := runLive_of_goThrough faultless through
    obtain ⟨other, otherRan, -, otherIsRun⟩ :=
      runLive_of_goThrough faultless (together.mp through)
    have sameNodes := nodeWrites_commutes.perm_run rearranged distinct
      server.node?
    rw [ran, otherRan, ← rearranged.length_eq]
    refine Or.inl ⟨rfl, rfl, fun address => ?_⟩
    rw [isRun, otherIsRun, sameNodes]
  · obtain ⟨error, after, ran⟩ := runLive_of_not_goThrough faultless through
    obtain ⟨otherError, other, otherRan⟩ :=
      runLive_of_not_goThrough faultless (through ∘ together.mpr)
    rw [ran, otherRan]
    exact Or.inr ⟨⟨error, rfl⟩, otherError, rfl⟩

theorem runOffline_perm {resources otherResources : List Resource}
    (allOffline : ∀ resource ∈ resources, resource.kind ∈ offlineKinds)
    (rearranged : resources.Perm otherResources)
    (distinct : (resources.map Resource.address).Nodup)
    (memory : MemoryDocument) :
    EndTogether resources.length
      (fun left right : MemoryDocument =>
        Json.Alike left.document right.document)
      ((runOffline (MemoryDocument.backend offlineTransforms)
        (resources.map Resource.command)).runFrom memory)
      ((runOffline (MemoryDocument.backend offlineTransforms)
        (otherResources.map Resource.command)).runFrom memory) := by
  have otherOffline : ∀ resource ∈ otherResources,
      resource.kind ∈ offlineKinds := fun resource isResource =>
    allOffline resource (rearranged.mem_iff.mpr isResource)
  have together := Document.takes_perm rearranged distinct memory.document
  by_cases takes : Document.Takes memory.document resources
  · obtain ⟨after, ran, isFilled⟩ := runOffline_of_takes allOffline takes
    obtain ⟨other, otherRan, otherIsFilled⟩ :=
      runOffline_of_takes otherOffline (together.mp takes)
    rw [ran, otherRan, ← rearranged.length_eq]
    refine Or.inl ⟨rfl, rfl, ?_⟩
    change Json.Alike after.document other.document
    rw [isFilled, otherIsFilled]
    exact Document.alike_filled rearranged distinct memory.document
  · obtain ⟨error, after, ran⟩ := runOffline_of_not_takes allOffline takes
    obtain ⟨otherError, other, otherRan⟩ :=
      runOffline_of_not_takes otherOffline (takes ∘ together.mpr)
    rw [ran, otherRan]
    exact Or.inr ⟨⟨error, rfl⟩, otherError, rfl⟩

/-- Images are reordered by reordering what they are images of. -/
theorem exists_perm_of_map_perm {α β : Type} {change : α → β}
    {images others : List β} (rearranged : images.Perm others) :
    ∀ {items : List α}, items.map change = images →
      ∃ otherItems, items.Perm otherItems ∧ otherItems.map change = others := by
  induction rearranged with
  | nil => exact fun {items} isMap => ⟨items, .refl items, isMap⟩
  | cons image _ inductionHypothesis =>
      intro items isMap
      obtain ⟨item, rest, rfl, rfl, isRest⟩ := List.map_eq_cons_iff.mp isMap
      obtain ⟨others, isPerm, rfl⟩ := inductionHypothesis isRest
      exact ⟨item :: others, isPerm.cons item, rfl⟩
  | swap =>
      intro items isMap
      obtain ⟨first, _, rfl, rfl, isRest⟩ := List.map_eq_cons_iff.mp isMap
      obtain ⟨second, rest, rfl, rfl, rfl⟩ := List.map_eq_cons_iff.mp isRest
      exact ⟨second :: first :: rest, .swap second first rest, rfl⟩
  | trans _ _ ofFirst ofSecond =>
      intro items isMap
      obtain ⟨between, isPerm, isBetween⟩ := ofFirst isMap
      obtain ⟨others, alsoPerm, isMap⟩ := ofSecond isBetween
      exact ⟨others, isPerm.trans alsoPerm, isMap⟩

/-- **Independent commands commute.**  A batch of commands with pairwise
different addresses and a permutation of it go through together.  On a server
without faults they leave the same nodes.  Where the commands have an offline
form, they leave documents that are equal up to the order of object members,
whatever the document was. -/
theorem run_perm (batch others : Batch) (rearranged : batch.Perm others)
    (distinct : batch.Pairwise fun command other =>
      command.address ≠ other.address) :
    ((∀ command ∈ batch, command.IsBuiltFrom offlineKinds) →
      ∀ memory : MemoryDocument,
        EndTogether batch.length
          (fun left right : MemoryDocument =>
            Json.Alike left.document right.document)
          ((batch.runOffline
            (MemoryDocument.backend offlineTransforms)).runFrom memory)
          ((others.runOffline
            (MemoryDocument.backend offlineTransforms)).runFrom memory)) ∧
    ∀ server : InMemory, server.Faultless →
      EndTogether batch.length
        (fun left right : InMemory =>
          ∀ address, left.node? address = right.node? address)
        ((batch.runLive session).runFrom server)
        ((others.runLive session).runFrom server) := by
  have distinctAddresses : (batch.map Command.address).Nodup :=
    List.pairwise_map.mpr distinct
  refine ⟨fun allBuilt memory => ?_, fun server faultless =>
    runLive_perm rearranged distinctAddresses faultless⟩
  obtain ⟨resources, allOffline, rfl⟩ := exists_resources allBuilt
  obtain ⟨otherResources, alsoRearranged, rfl⟩ :=
    exists_perm_of_map_perm rearranged rfl
  rw [List.map_map] at distinctAddresses
  have ended := runOffline_perm allOffline alsoRearranged distinctAddresses
    memory
  rwa [List.length_map]

/-- The settings of two contexts and a decoder.  The second context exists on
the sample server, where it is replaced. -/
def independentDrafts : List ResourceDraft :=
  [.clientSslContext { name := "partner", protocols := ["TLSv1.3"] },
    .x500AttributePrincipalDecoder { name := "cn", oid := some "2.5.4.3" },
    .clientSslContext
      { name := "client", protocols := ["TLSv1.3"], replaceExisting := true }]

/-- The commands of the settings. -/
def independentBatch : Batch :=
  independentDrafts.filterMap fun draft => draft.command.toOption

/-- The commands the other way round. -/
def reorderedBatch : Batch := independentBatch.reverse

/-- All four runs succeed. -/
theorem run_perm_sample :
    independentBatch.Perm reorderedBatch ∧
    (independentBatch.Pairwise fun command other =>
      command.address ≠ other.address) ∧
    (∀ command ∈ independentBatch, command.IsBuiltFrom offlineKinds) ∧
    (let left := (independentBatch.runOffline
        (MemoryDocument.backend offlineTransforms)).runFrom sampleMemory
      let right := (reorderedBatch.runOffline
        (MemoryDocument.backend offlineTransforms)).runFrom sampleMemory
      left.1 = .ok 3 ∧ right.1 = .ok 3 ∧
        Json.Alike left.2.document right.2.document) ∧
    sampleServer.Faultless ∧
    (let left := (independentBatch.runLive session).runFrom sampleServer
      let right := (reorderedBatch.runLive session).runFrom sampleServer
      left.1 = .ok 3 ∧ right.1 = .ok 3 ∧
        ∀ address, left.2.node? address = right.2.node? address) := by
  have rearranged : independentBatch.Perm reorderedBatch :=
    (List.reverse_perm independentBatch).symm
  have distinct : independentBatch.Pairwise fun command other =>
      command.address ≠ other.address := by decide
  have allBuilt : ∀ command ∈ independentBatch,
      command.IsBuiltFrom offlineKinds :=
    Command.isBuiltFrom_of_mem_filterMap (by decide)
  have faultless : sampleServer.Faultless := ⟨rfl, rfl⟩
  obtain ⟨offline, live⟩ :=
    run_perm independentBatch reorderedBatch rearranged distinct
  have offlineEnded :=
    (offline allBuilt sampleMemory).of_ok (by decide +kernel)
  have liveEnded := (live sampleServer faultless).of_ok (by decide +kernel)
  exact ⟨rearranged, distinct, allBuilt, offlineEnded, faultless, liveEnded⟩

end Batch

end Provision
