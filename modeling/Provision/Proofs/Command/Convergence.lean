import Provision.Proofs.Command.Outcome

/-!
Contract: a batch of replacing commands may be run again.

The commands of a batch may write one node several times, so the second run
passes through states that differ from its end.  It ends where the first run
ended, because the last write of a node counts and a node that is replaced
keeps its place among the others.

Owns:
- the second run of a batch that replaces, on a server and in a document.

Does not own: batches that stop at a node that is there already.
-/

namespace Provision

open InMemory (session)

namespace Document

variable {document : Json} {resources : List Resource}

/-- A document that was filled is not changed by the same resources. -/
theorem filled_filled (document : Json) (resources : List Resource) :
    filled (filled document resources) resources =
      filled document resources := by
  by_cases isLocated : ∃ subtree,
      document.at? subsystemPath = some (.object subtree)
  · obtain ⟨subtree, located⟩ := isLocated
    rw [filled_of_located (at?_filled located resources),
      recordWrites_lastCounts.run_run]
    exact Json.replaceAt_self (at?_filled located resources)
  · have isUnchanged : ∀ others, filled document others = document := by
      intro others
      unfold filled
      split
      · next subtree located => exact absurd ⟨subtree, located⟩ isLocated
      · rfl
    rw [isUnchanged, isUnchanged]

/-- A document takes resources that replace a second time. -/
theorem Takes.again (takes : Takes document resources)
    (allReplace : ∀ resource ∈ resources, resource.replaceExisting = true) :
    Takes (filled document resources) resources := by
  refine takes.imp_right ?_
  rintro ⟨subtree, located, through⟩
  refine ⟨_, at?_filled located resources, through.again ?_⟩
  exact fun resource isResource =>
    recordWrites_lasts (allReplace resource isResource)

end Document

namespace Batch

/-- A run on a document succeeds where the document takes the resources. -/
theorem takes_of_runOffline_eq_ok {resources : List Resource}
    (allOffline : ∀ resource ∈ resources, resource.kind ∈ offlineKinds)
    {memory after : MemoryDocument} {count : Nat}
    (ran : (runOffline (MemoryDocument.backend offlineTransforms)
      (resources.map Resource.command)).runFrom memory = (.ok count, after)) :
    Document.Takes memory.document resources ∧
      after.document = Document.filled memory.document resources := by
  by_cases takes : Document.Takes memory.document resources
  · obtain ⟨sameAfter, alsoRan, isFilled⟩ :=
      runOffline_of_takes allOffline takes
    rw [ran, Prod.mk.injEq] at alsoRan
    rw [alsoRan.2]
    exact ⟨takes, isFilled⟩
  · obtain ⟨error, sameAfter, failed⟩ :=
      runOffline_of_not_takes allOffline takes
    rw [ran] at failed
    cases failed

/-- **Batches that replace converge.**  Where a batch of replacing commands
with an offline form goes through on a document, it goes through again and
leaves the document as it is, the order of members included.  On a server
without faults any batch of replacing commands goes through, goes through
again and leaves the same nodes. -/
theorem rerun_of_replacing (batch : Batch)
    (allReplace : ∀ command ∈ batch, command.replaceExisting = true) :
    ((∀ command ∈ batch, command.IsBuiltFrom offlineKinds) →
      ∀ (memory after : MemoryDocument) (count : Nat),
        (batch.runOffline (MemoryDocument.backend offlineTransforms)).runFrom
          memory = (.ok count, after) →
        ∃ again,
          (batch.runOffline
            (MemoryDocument.backend offlineTransforms)).runFrom after =
              (.ok batch.length, again) ∧
          again.document = after.document) ∧
    ∀ server : InMemory, server.Faultless → ∃ after again,
      (batch.runLive session).runFrom server = (.ok batch.length, after) ∧
      (batch.runLive session).runFrom after = (.ok batch.length, again) ∧
      ∀ address, again.node? address = after.node? address := by
  constructor
  · intro allBuilt memory after count ran
    obtain ⟨resources, allOffline, rfl⟩ := exists_resources allBuilt
    obtain ⟨takes, isFilled⟩ := takes_of_runOffline_eq_ok allOffline ran
    have takesAgain : Document.Takes after.document resources := by
      rw [isFilled]
      refine takes.again fun resource isResource => ?_
      exact allReplace resource.command (List.mem_map_of_mem isResource)
    obtain ⟨again, ranAgain, isFilledAgain⟩ :=
      runOffline_of_takes allOffline takesAgain
    refine ⟨again, by rw [ranAgain, List.length_map], ?_⟩
    rw [isFilledAgain, isFilled, Document.filled_filled]
  · intro server faultless
    -- A command that replaces is accepted by all nodes, whatever ran before.
    have through : ∀ nodes, nodeWrites.GoThrough nodes batch := fun nodes =>
      Writes.goThrough_of_lasts
        (fun command isMember _ _ _ => Or.inr (allReplace command isMember))
        (fun command isMember => Or.inr (allReplace command isMember))
    obtain ⟨after, ran, faultlessAfter, isRun⟩ :=
      runLive_of_goThrough faultless (through _)
    obtain ⟨again, ranAgain, -, isRunAgain⟩ :=
      runLive_of_goThrough faultlessAfter (through _)
    refine ⟨after, again, ran, ranAgain, fun address => ?_⟩
    rw [isRunAgain, isRun, nodeWrites_lastCounts.run_run]

/-- The settings of a context that is written twice, with a decoder written
in between. -/
def convergingDrafts : List ResourceDraft :=
  [.clientSslContext
      { name := "client", protocols := ["TLSv1.3"], replaceExisting := true },
    .x500AttributePrincipalDecoder
      { name := "cn", oid := some "2.5.4.3", replaceExisting := true },
    .clientSslContext
      { name := "client", protocols := ["TLSv1.2"], replaceExisting := true }]

/-- The commands of the settings. -/
def convergingBatch : Batch :=
  convergingDrafts.filterMap fun draft => draft.command.toOption

theorem rerun_of_replacing_sample :
    (∀ command ∈ convergingBatch, command.replaceExisting = true) ∧
    (∀ command ∈ convergingBatch, command.IsBuiltFrom offlineKinds) ∧
    (∃ after again,
      (convergingBatch.runOffline
        (MemoryDocument.backend offlineTransforms)).runFrom sampleMemory =
          (.ok 3, after) ∧
      (convergingBatch.runOffline
        (MemoryDocument.backend offlineTransforms)).runFrom after =
          (.ok 3, again) ∧
      again.document = after.document) ∧
    sampleServer.Faultless ∧ ∃ after again,
      (convergingBatch.runLive session).runFrom sampleServer =
        (.ok 3, after) ∧
      (convergingBatch.runLive session).runFrom after = (.ok 3, again) ∧
      ∀ address, again.node? address = after.node? address := by
  have allReplace : ∀ command ∈ convergingBatch,
      command.replaceExisting = true := by decide
  have allBuilt : ∀ command ∈ convergingBatch,
      command.IsBuiltFrom offlineKinds :=
    Command.isBuiltFrom_of_mem_filterMap (by decide)
  have faultless : sampleServer.Faultless := ⟨rfl, rfl⟩
  obtain ⟨offline, live⟩ := rerun_of_replacing convergingBatch allReplace
  refine ⟨allReplace, allBuilt, ?_, faultless, live sampleServer faultless⟩
  have goesThrough : ∃ after, (convergingBatch.runOffline
      (MemoryDocument.backend offlineTransforms)).runFrom sampleMemory =
        (.ok 3, after) := ⟨_, rfl⟩
  obtain ⟨after, ran⟩ := goesThrough
  obtain ⟨again, ranAgain, same⟩ :=
    offline allBuilt sampleMemory after 3 ran
  exact ⟨after, again, ran, ranAgain, same⟩

end Batch

end Provision
