import Provision.Command.Batch
import Provision.Proofs.Session.Exchanges

/-!
Contract: the headers of the requests of a session.

Whatever a session does, and however it ends, it sends requests of one form
only: to the address of the client, with its headers.

Owns:
- attempts that add only certain events to a journal, with the laws of
  sequence, handling and rewording;
- sessions all of whose operations add only such events, and their batches;
- the sessions of clients, whose requests all carry the same headers.

Does not own: how many requests there are, and where the headers come from.
-/

namespace Provision

/-! ## Attempts that add certain events -/

/-- From every journal on, only allowed events are added. -/
def AddsOnly {ε α : Type} (allowed : SessionEvent → Prop)
    (attempt : Attempt Journal ε α) : Prop :=
  ∀ before : Journal, ∃ added : Journal,
    (attempt.runFrom before).2 = before ++ added ∧
      ∀ event ∈ added, allowed event

namespace AddsOnly

variable {ε δ α β : Type} {allowed : SessionEvent → Prop}

theorem mono
    {weaker : SessionEvent → Prop}
    {attempt : Attempt Journal ε α}
    (adds : AddsOnly allowed attempt)
    (isWeaker : ∀ event, allowed event → weaker event) :
    AddsOnly weaker attempt := by
  intro before
  obtain ⟨added, isAdded, areAllowed⟩ := adds before
  exact ⟨added, isAdded, fun event isMember =>
    isWeaker event (areAllowed event isMember)⟩

theorem ofPure (value : α) :
    AddsOnly allowed (pure value : Attempt Journal ε α) := by
  intro before
  exact ⟨[], by simp, by simp⟩

theorem ofThrow (error : ε) :
    AddsOnly allowed (throw error : Attempt Journal ε α) := by
  intro before
  exact ⟨[], by simp, by simp⟩

theorem ofNote
    {event : SessionEvent}
    (isAllowed : allowed event) :
    AddsOnly allowed (ManagementClient.note event) := by
  intro before
  exact ⟨[event], rfl, by simpa using isAllowed⟩

/-- What two parts add one after the other is added by the whole. -/
theorem exists_append
    {middle after before early : Journal}
    (isEarly : middle = before ++ early)
    (areEarly : ∀ event ∈ early, allowed event)
    (goesOn : ∃ late, after = middle ++ late ∧ ∀ event ∈ late, allowed event) :
    ∃ added, after = before ++ added ∧ ∀ event ∈ added, allowed event := by
  obtain ⟨late, rfl, areLate⟩ := goesOn
  refine ⟨early ++ late, by rw [isEarly, List.append_assoc], ?_⟩
  intro event isMember
  exact (List.mem_append.mp isMember).elim (areEarly event) (areLate event)

theorem andThen
    {first : Attempt Journal ε α}
    {next : α → Attempt Journal ε β}
    (addsFirst : AddsOnly allowed first)
    (addsNext : ∀ value, AddsOnly allowed (next value)) :
    AddsOnly allowed (first >>= next) := by
  intro before
  obtain ⟨early, isEarly, areEarly⟩ := addsFirst before
  rw [Attempt.runFrom_bind]
  cases ran : first.runFrom before with
  | mk outcome middle =>
      rw [ran] at isEarly
      cases outcome with
      | error error => exact ⟨early, isEarly, areEarly⟩
      | ok value =>
          exact exists_append isEarly areEarly (addsNext value middle)

theorem recover
    {attempt : Attempt Journal ε α}
    {handler : ε → Attempt Journal ε α}
    (adds : AddsOnly allowed attempt)
    (handles : ∀ error, AddsOnly allowed (handler error)) :
    AddsOnly allowed (tryCatch attempt handler) := by
  intro before
  obtain ⟨early, isEarly, areEarly⟩ := adds before
  rw [Attempt.runFrom_tryCatch]
  cases ran : attempt.runFrom before with
  | mk outcome middle =>
      rw [ran] at isEarly
      cases outcome with
      | ok value => exact ⟨early, isEarly, areEarly⟩
      | error error =>
          exact exists_append isEarly areEarly (handles error middle)

theorem reword
    {attempt : Attempt Journal ε α}
    (adds : AddsOnly allowed attempt)
    (change : ε → δ) :
    AddsOnly allowed (ExceptT.adapt change attempt) :=
  adds

end AddsOnly

/-! ## What a session adds -/

/-- Whatever is done in a session, only allowed events are added. -/
structure LiveSession.AddsOnly (session : LiveSession Journal)
    (allowed : SessionEvent → Prop) : Prop where
  present : ∀ address, Provision.AddsOnly allowed (session.present address)
  add : ∀ address values,
    Provision.AddsOnly allowed (session.add address values)
  removeIfPresent : ∀ address,
    Provision.AddsOnly allowed (session.removeIfPresent address)
  query : ∀ address attributeName,
    Provision.AddsOnly allowed (session.query address attributeName)
  reloadIfRequired : Provision.AddsOnly allowed session.reloadIfRequired
  reload : Provision.AddsOnly allowed session.reload

namespace LiveSession.AddsOnly

variable {session : LiveSession Journal} {allowed : SessionEvent → Prop}

theorem mono
    {weaker : SessionEvent → Prop}
    (adds : session.AddsOnly allowed)
    (isWeaker : ∀ event, allowed event → weaker event) :
    session.AddsOnly weaker where
  present address := (adds.present address).mono isWeaker
  add address values := (adds.add address values).mono isWeaker
  removeIfPresent address := (adds.removeIfPresent address).mono isWeaker
  query address attributeName :=
    (adds.query address attributeName).mono isWeaker
  reloadIfRequired := adds.reloadIfRequired.mono isWeaker
  reload := adds.reload.mono isWeaker

theorem applyLive
    (adds : session.AddsOnly allowed)
    (command : Command) :
    Provision.AddsOnly allowed (command.applyLive session) := by
  have addsNode := (adds.add command.address command.values).reword
    fun error => CommandError.failed command.address .add (.session error)
  unfold Command.applyLive
  split
  · have clears :
        Provision.AddsOnly allowed (Command.clear session command.address) :=
      ((adds.removeIfPresent command.address).reword _).andThen fun _ =>
        (adds.reloadIfRequired.reword _).andThen fun _ => .ofPure ()
    exact clears.andThen fun _ => addsNode
  · exact addsNode

/-- A batch adds what its commands add. -/
theorem runLive
    (adds : session.AddsOnly allowed)
    (batch : Batch) :
    Provision.AddsOnly allowed (Batch.runLive session batch) := by
  suffices ∀ index, Provision.AddsOnly allowed
      (Batch.runInOrder Command.kind (Command.applyLive session) index
        batch) from
    this 0
  induction batch with
  | nil => exact fun index => .ofPure index
  | cons command rest inductionHypothesis =>
      intro index
      exact ((adds.applyLive command).reword _).andThen fun _ =>
        inductionHypothesis (index + 1)

end LiveSession.AddsOnly

/-! ## What a client sends -/

namespace ManagementClient

/-- A request carries headers, and says what its body is. -/
def Carries (headers : Endpoint.Headers) : SessionEvent → Prop
  | .sent request => request.headers =
      (Endpoint.HeaderName.contentType, ⟨"application/json"⟩) :: headers
  | .slept _ => True

section

variable (client : ManagementClient)

theorem addsOnly_execute (operation : Operation) :
    AddsOnly (Carries client.headers) (client.execute operation) := by
  have isCarried : Carries client.headers
      (.sent (.ofOperation client.url client.headers operation)) := rfl
  refine (AddsOnly.ofNote isCarried).andThen fun _ => ?_
  intro before
  exact ⟨[], (List.append_nil before).symm, by simp⟩

theorem addsOnly_serverState :
    AddsOnly (Carries client.headers) client.serverState := by
  refine (client.addsOnly_execute stateOperation).andThen fun response => ?_
  split
  · exact .ofThrow _
  · split
    · exact .ofPure _
    · exact .ofThrow _

theorem addsOnly_poll :
    AddsOnly (Carries client.headers) client.poll := by
  refine (AddsOnly.ofNote trivial).andThen fun _ => ?_
  refine AddsOnly.recover
    (client.addsOnly_serverState.andThen fun _ => .ofPure _) fun error => ?_
  split
  · exact .ofPure _
  · exact .ofThrow _

theorem addsOnly_awaitRunning (left : Nat) :
    AddsOnly (Carries client.headers) (client.awaitRunning left) := by
  induction left with
  | zero => exact .ofThrow _
  | succ left inductionHypothesis =>
      refine client.addsOnly_poll.andThen fun isRunning => ?_
      split
      · exact .ofPure _
      · exact inductionHypothesis

theorem addsOnly_startReload :
    AddsOnly (Carries client.headers) client.startReload := by
  refine AddsOnly.andThen (AddsOnly.recover
    ((client.addsOnly_execute .reload).andThen fun _ => .ofPure _)
    fun error => ?_) fun response => ?_
  · split
    · exact .ofPure _
    · exact .ofThrow _
  · split
    · split
      · exact .ofPure _
      · exact .ofThrow _
    · exact .ofPure _

theorem addsOnly_reload :
    AddsOnly (Carries client.headers) client.reload :=
  client.addsOnly_startReload.andThen fun _ =>
    client.addsOnly_awaitRunning client.policy.maxPolls

theorem addsOnly_reloadIfRequired :
    AddsOnly (Carries client.headers) client.reloadIfRequired := by
  refine client.addsOnly_serverState.andThen fun state => ?_
  split
  · exact client.addsOnly_reload.andThen fun _ => .ofPure _
  · exact .ofPure _

theorem addsOnly_present (address : Address) :
    AddsOnly (Carries client.headers) (client.present address) := by
  refine (client.addsOnly_execute _).andThen fun response => ?_
  split
  · split
    · exact .ofPure _
    · exact .ofThrow _
  · split
    · exact .ofPure _
    · exact .ofThrow _

theorem addsOnly_add (address : Address) (values : ValueSet) :
    AddsOnly (Carries client.headers) (client.add address values) := by
  refine (client.addsOnly_execute _).andThen fun response => ?_
  split
  · exact .ofPure _
  · split
    · exact .ofThrow _
    · exact .ofThrow _

theorem addsOnly_removeIfPresent (address : Address) :
    AddsOnly (Carries client.headers) (client.removeIfPresent address) := by
  refine (client.addsOnly_present address).andThen fun isPresent => ?_
  split
  · refine (client.addsOnly_execute _).andThen fun response => ?_
    split
    · exact .ofPure _
    · exact .ofThrow _
  · exact .ofPure _

theorem addsOnly_query (address : Address) (attributeName : String) :
    AddsOnly (Carries client.headers) (client.query address attributeName) := by
  refine (client.addsOnly_execute _).andThen fun response => ?_
  split
  · split
    · exact .ofPure _
    · exact .ofThrow _
  · split
    · exact .ofThrow _
    · exact .ofThrow _

/-- All requests of a session carry the headers of its client. -/
theorem session_addsOnly :
    client.session.AddsOnly (Carries client.headers) where
  present := client.addsOnly_present
  add := client.addsOnly_add
  removeIfPresent := client.addsOnly_removeIfPresent
  query := client.addsOnly_query
  reloadIfRequired := client.addsOnly_reloadIfRequired
  reload := client.addsOnly_reload

end

end ManagementClient

end Provision
