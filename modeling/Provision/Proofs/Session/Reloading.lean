import Provision.Proofs.Session.Exchanges

/-!
Contract: the reload of a server, to the last event of its journal.

An answer of the server decides a reload where it says that the server runs,
or that the state cannot be told.  Every other answer, and none at all, only
means that one more poll is made, as long as any are left.

Owns:
- the runs of the operations of a reload, with the requests in full;
- the polls that are made until an answer decides, or none is left;
- all ways in which a reload ends, and a reload on demand.

Does not own: how long the polls take together.
-/

namespace Provision

namespace ManagementClient

/-! ## Single operations -/

section Runs

variable (client : ManagementClient)

/-- The request that carries an operation. -/
def request (operation : Operation) : HttpRequest :=
  .ofOperation client.url client.headers operation

/-- What comes back for an operation after earlier requests. -/
def answer (past : List HttpRequest) (operation : Operation) : Answer :=
  client.transport (past ++ [client.request operation])

theorem runFrom_execute
    (operation : Operation)
    (before : Journal) :
    (client.execute operation).runFrom before =
      (decode (client.answer before.requests operation),
        before ++ [.sent (client.request operation)]) := by
  have isLast :
      Journal.requests (before ++ [.sent (client.request operation)]) =
        before.requests ++ [client.request operation] :=
    Journal.requests_append before _
  rw [answer, ← isLast]
  rfl

/-- The state that an answer gives. -/
def stateOf (answer : Answer) : Except SessionError String :=
  match decode answer with
  | .error error => .error error
  | .ok response =>
      if response.isSuccess then
        match response.result with
        | .string state => .ok state
        | _ => .error (.protocol "server-state is not a string")
      else .error (failed stateOperation response)

theorem stateOf_eq_ok_iff
    {answer : Answer}
    {state : String} :
    stateOf answer = .ok state ↔ Reads state answer := by
  unfold stateOf
  cases decoded : decode answer with
  | error error => simp [not_says_of_undecoded decoded, Reads]
  | ok response =>
      rw [Reads, says_iff_of_decoded decoded]
      cases isSuccess : response.isSuccess with
      | false => simp [isSuccess]
      | true => cases result : response.result <;> simp [isSuccess, result]

theorem runFrom_serverState (before : Journal) :
    client.serverState.runFrom before =
      (stateOf (client.answer before.requests stateOperation),
        before ++ [.sent (client.request stateOperation)]) := by
  rw [serverState, Attempt.runFrom_bind, runFrom_execute, stateOf]
  cases decode (client.answer before.requests stateOperation) with
  | error error => rfl
  | ok response =>
      cases isSuccess : response.isSuccess with
      | false => simp [isSuccess]
      | true => cases result : response.result <;> simp [isSuccess, result]

/-- What a poll settles by an answer: the server runs, it does not yet, or its
state cannot be told. -/
def settled (answer : Answer) : Except SessionError Bool :=
  match stateOf answer with
  | .ok state => .ok (state = runningState)
  | .error error => if isPassing error then .ok false else .error error

/-- What is done in one poll, whatever comes back. -/
def pollEvents : Journal :=
  [.slept client.policy.pollInterval, .sent (client.request stateOperation)]

theorem runFrom_poll (before : Journal) :
    client.poll.runFrom before =
      (settled (client.answer before.requests stateOperation),
        before ++ client.pollEvents) := by
  have isWait :
      (note (.slept client.policy.pollInterval)).runFrom before =
        (.ok (), before ++ [.slept client.policy.pollInterval]) := rfl
  have sameRequests :
      Journal.requests (before ++ [.slept client.policy.pollInterval]) =
        before.requests := by
    rw [Journal.requests_append]
    exact List.append_nil _
  rw [poll, Attempt.runFrom_bind, isWait]
  dsimp only
  rw [Attempt.runFrom_tryCatch, Attempt.runFrom_bind, runFrom_serverState,
    sameRequests, settled, pollEvents, List.append_assoc]
  cases stateOf (client.answer before.requests stateOperation) with
  | ok state => rfl
  | error error => cases passes : isPassing error <;> simp [passes]

/-- What the answer to a request for a reload settles. -/
def started (answer : Answer) : Except SessionError Unit :=
  match decode answer with
  | .ok response =>
      if response.isSuccess then .ok () else .error (failed .reload response)
  | .error (.transport _) => .ok ()
  | .error error => .error error

theorem runFrom_startReload (before : Journal) :
    client.startReload.runFrom before =
      (started (client.answer before.requests .reload),
        before ++ [.sent (client.request .reload)]) := by
  rw [startReload, Attempt.runFrom_bind, Attempt.runFrom_tryCatch,
    Attempt.runFrom_bind, runFrom_execute, started]
  cases decode (client.answer before.requests .reload) with
  | ok response => cases isSuccess : response.isSuccess <;> simp [isSuccess]
  | error error => cases error <;> rfl

end Runs

/-! ## Polls -/

/-- The answer says that the server runs, or that it does not do what it was
asked. -/
def Decisive (answer : Answer) : Prop :=
  Reads runningState answer ∨ Refuses answer

theorem settled_of_reads
    {answer : Answer}
    (reads : Reads runningState answer) :
    settled answer = .ok true := by
  rw [settled, stateOf_eq_ok_iff.mpr reads]
  simp

theorem settled_of_refused
    {answer : Answer}
    {response : Response}
    (decoded : decode answer = .ok response)
    (isRefused : response.isSuccess = false) :
    settled answer = .error (failed stateOperation response) := by
  simp [settled, stateOf, decoded, isRefused, failed, isPassing]

theorem settled_of_not_decisive
    {answer : Answer}
    (undecided : ¬ Decisive answer) :
    settled answer = .ok false := by
  have notRunning : ¬ Reads runningState answer := fun reads =>
    undecided (.inl reads)
  have leavesOpen : ¬ Refuses answer := fun refuses =>
    undecided (.inr refuses)
  unfold settled
  cases isState : stateOf answer with
  | ok state =>
      have isOther : state ≠ runningState := by
        intro same
        exact notRunning (same ▸ stateOf_eq_ok_iff.mp isState)
      simp [isOther]
  | error error =>
      unfold stateOf at isState
      split at isState
      · next undecoded =>
          cases isState
          exact if_pos (isPassing_of_decode_eq_error undecoded)
      · next response decoded =>
          rw [Refuses, says_iff_of_decoded decoded, Bool.not_eq_false]
            at leavesOpen
          rw [if_pos leavesOpen] at isState
          split at isState
          · cases isState
          · cases isState
            rfl

section Polls

variable (client : ManagementClient)

/-- The events of a number of polls. -/
def pollsMade (count : Nat) : Journal :=
  (List.replicate count client.pollEvents).flatten

theorem pollsMade_succ (count : Nat) :
    client.pollsMade (count + 1) =
      client.pollsMade count ++ client.pollEvents := by
  rw [pollsMade, List.replicate_succ', List.flatten_append, ← pollsMade]
  simp

/-- What comes back in a poll, counted from one. -/
def pollAnswer (past : List HttpRequest) (number : Nat) : Answer :=
  client.transport
    (past ++ List.replicate number (client.request stateOperation))

theorem requests_pollsMade (count : Nat) :
    Journal.requests (client.pollsMade count) =
      List.replicate count (client.request stateOperation) := by
  induction count with
  | zero => rfl
  | succ count inductionHypothesis =>
      have oneMore : Journal.requests client.pollEvents =
          [client.request stateOperation] := rfl
      rw [pollsMade_succ, Journal.requests_append, inductionHypothesis, oneMore,
        List.replicate_succ']

/-- Polls that were made count for the number of a poll. -/
theorem answer_pollsMade
    (before : Journal)
    (count : Nat) :
    client.answer (Journal.requests (before ++ client.pollsMade count))
        stateOperation =
      client.pollAnswer before.requests (count + 1) := by
  rw [answer, pollAnswer, Journal.requests_append, requests_pollsMade,
    List.replicate_succ', List.append_assoc]

/-- One more poll, and what it settles. -/
theorem runFrom_awaitRunning_succ
    (left : Nat)
    (before : Journal) :
    (client.awaitRunning (left + 1)).runFrom before =
      match settled (client.answer before.requests stateOperation) with
      | .ok true => (.ok (), before ++ client.pollEvents)
      | .ok false =>
          (client.awaitRunning left).runFrom (before ++ client.pollEvents)
      | .error error => (.error error, before ++ client.pollEvents) := by
  rw [awaitRunning, Attempt.runFrom_bind, runFrom_poll]
  cases settled (client.answer before.requests stateOperation) with
  | error error => rfl
  | ok isRunning => cases isRunning <;> rfl

/-- None of so many polls decides anything. -/
def Undecided (past : List HttpRequest) (count : Nat) : Prop :=
  ∀ number, 0 < number → number ≤ count →
    ¬ Decisive (client.pollAnswer past number)

/-- The first poll that decides something. -/
structure FirstDecisive (past : List HttpRequest) (number : Nat) : Prop where
  isPositive : 0 < number
  decides : Decisive (client.pollAnswer past number)
  openBefore : ∀ earlier, 0 < earlier → earlier < number →
    ¬ Decisive (client.pollAnswer past earlier)

variable {client}

theorem Undecided.of_le
    {past : List HttpRequest}
    {count fewer : Nat}
    (undecided : client.Undecided past count)
    (isFewer : fewer ≤ count) :
    client.Undecided past fewer := by
  intro number isPositive isWithin
  exact undecided number isPositive (Nat.le_trans isWithin isFewer)

/-- Polls that decide nothing leave the others to be made. -/
theorem runFrom_awaitRunning_add
    {count : Nat}
    {before : Journal}
    (undecided : client.Undecided before.requests count)
    (left : Nat) :
    (client.awaitRunning (count + left)).runFrom before =
      (client.awaitRunning left).runFrom
        (before ++ client.pollsMade count) := by
  -- The last of the polls is the first of those that the others leave, so
  -- that the answers are counted from one start.
  induction count generalizing left with
  | zero => simp [pollsMade]
  | succ count inductionHypothesis =>
      have othersOpen : client.Undecided before.requests count :=
        undecided.of_le (Nat.le_succ count)
      have lastOpen :=
        undecided (count + 1) (Nat.succ_pos count) (Nat.le_refl _)
      have oneLater : count + 1 + left = count + (left + 1) := by omega
      rw [oneLater, inductionHypothesis othersOpen, runFrom_awaitRunning_succ,
        answer_pollsMade, settled_of_not_decisive lastOpen, List.append_assoc,
        ← pollsMade_succ]

/-- The poll that decides is the last one, and tells how the waiting ends. -/
theorem runFrom_awaitRunning_of_decisive
    {number left : Nat}
    {before : Journal}
    (isFirst : client.FirstDecisive before.requests number)
    (isWithin : number ≤ left) :
    (client.awaitRunning left).runFrom before =
      ((settled (client.pollAnswer before.requests number)).map fun _ => (),
        before ++ client.pollsMade number) := by
  obtain ⟨isPositive, decides, openBefore⟩ := isFirst
  obtain ⟨count, rfl⟩ : ∃ count, number = count + 1 := ⟨number - 1, by omega⟩
  obtain ⟨rest, rfl⟩ : ∃ rest, left = count + (rest + 1) :=
    ⟨left - (count + 1), by omega⟩
  have othersOpen : client.Undecided before.requests count := by
    intro earlier isEarlierPositive isEarlier
    exact openBefore earlier isEarlierPositive (Nat.lt_succ_of_le isEarlier)
  rw [runFrom_awaitRunning_add othersOpen, runFrom_awaitRunning_succ,
    answer_pollsMade, pollsMade_succ, List.append_assoc]
  rcases decides with reads | ⟨response, decoded, isRefused⟩
  · rw [settled_of_reads reads]
    rfl
  · rw [settled_of_refused decoded isRefused]
    rfl

theorem runFrom_awaitRunning_of_undecided
    {left : Nat}
    {before : Journal}
    (undecided : client.Undecided before.requests left) :
    (client.awaitRunning left).runFrom before =
      (.error (.reloadTimeout client.policy.timeout),
        before ++ client.pollsMade left) := by
  have isOver := runFrom_awaitRunning_add undecided 0
  rw [Nat.add_zero] at isOver
  rw [isOver]
  rfl

/-- Some poll is the first one to decide, or none of them does. -/
theorem firstDecisive_or_undecided
    (client : ManagementClient)
    (past : List HttpRequest)
    (left : Nat) :
    (∃ number ≤ left, client.FirstDecisive past number) ∨
      client.Undecided past left := by
  induction left with
  | zero =>
      refine .inr fun number isPositive isWithin => ?_
      omega
  | succ left inductionHypothesis =>
      rcases inductionHypothesis with ⟨number, isWithin, isFirst⟩ | undecided
      · exact .inl ⟨number, by omega, isFirst⟩
      · by_cases decides : Decisive (client.pollAnswer past (left + 1))
        · refine .inl ⟨left + 1, by omega, by omega, decides, ?_⟩
          intro earlier isPositive isEarlier
          exact undecided earlier isPositive (by omega)
        · refine .inr fun number isPositive isWithin => ?_
          by_cases isLast : number = left + 1
          · rwa [isLast]
          · exact undecided number isPositive (by omega)

end Polls

/-! ## Reloads -/

/-- The server does what it was asked, or the connection is lost as it goes
down. -/
def GoesDown (answer : Answer) : Prop :=
  Succeeds answer ∨ ∃ cause, answer = .error cause

section Reloads

variable (client : ManagementClient) (before : Journal)

/-- The journal once the server was asked to reload. -/
def reloadAsked : Journal :=
  before ++ [.sent (client.request .reload)]

/-- What comes back in a poll after the server was asked to reload. -/
def reloadAnswer (number : Nat) : Answer :=
  client.pollAnswer (client.reloadAsked before).requests number

/-- The ways in which a reload ends, with the journal that it leaves. -/
inductive Reloads : Except SessionError Unit → Journal → Prop
  | refused {response : Response}
      (decoded : decode (client.answer before.requests .reload) = .ok response)
      (isRefused : response.isSuccess = false) :
      Reloads (.error (failed .reload response)) (client.reloadAsked before)
  | unreadable {detail : String}
      (undecoded : decode (client.answer before.requests .reload) =
        .error (.protocol detail)) :
      Reloads (.error (.protocol detail)) (client.reloadAsked before)
  | running {number : Nat}
      (goesDown : GoesDown (client.answer before.requests .reload))
      (isFirst : client.FirstDecisive (client.reloadAsked before).requests
        number)
      (isWithin : number ≤ client.policy.maxPolls)
      (reads : Reads runningState (client.reloadAnswer before number)) :
      Reloads (.ok ()) (client.reloadAsked before ++ client.pollsMade number)
  | failed {number : Nat} {response : Response}
      (goesDown : GoesDown (client.answer before.requests .reload))
      (isFirst : client.FirstDecisive (client.reloadAsked before).requests
        number)
      (isWithin : number ≤ client.policy.maxPolls)
      (decoded : decode (client.reloadAnswer before number) = .ok response)
      (isRefused : response.isSuccess = false) :
      Reloads (.error (failed stateOperation response))
        (client.reloadAsked before ++ client.pollsMade number)
  | timedOut
      (goesDown : GoesDown (client.answer before.requests .reload))
      (undecided : client.Undecided (client.reloadAsked before).requests
        client.policy.maxPolls) :
      Reloads (.error (.reloadTimeout client.policy.timeout))
        (client.reloadAsked before ++
          client.pollsMade client.policy.maxPolls)

/-- The ways in which a reload on demand ends, with the journal that it
leaves. -/
inductive ReloadsOnDemand : Except SessionError Bool → Journal → Prop
  | unread {error : SessionError}
      (isError : stateOf (client.answer before.requests stateOperation) =
        .error error) :
      ReloadsOnDemand (.error error)
        (before ++ [.sent (client.request stateOperation)])
  | notDemanded {state : String}
      (reads : Reads state (client.answer before.requests stateOperation))
      (isOther : state ≠ reloadState) :
      ReloadsOnDemand (.ok false)
        (before ++ [.sent (client.request stateOperation)])
  | demanded {outcome : Except SessionError Unit} {after : Journal}
      (reads : Reads reloadState
        (client.answer before.requests stateOperation))
      (reloads : client.Reloads
        (before ++ [.sent (client.request stateOperation)]) outcome after) :
      ReloadsOnDemand (outcome.map fun _ => true) after

variable {client before}

/-- A server that goes down is polled. -/
theorem runFrom_reload_of_goesDown
    (goesDown : GoesDown (client.answer before.requests .reload)) :
    client.reload.runFrom before =
      (client.awaitRunning client.policy.maxPolls).runFrom
        (client.reloadAsked before) := by
  have isStarted :
      started (client.answer before.requests .reload) = .ok () := by
    rcases goesDown with ⟨response, decoded, succeeds⟩ | ⟨cause, isLost⟩
    · simp [started, decoded, succeeds]
    · rw [isLost]
      rfl
  rw [reload, Attempt.runFrom_bind, runFrom_startReload, isStarted]
  rfl

theorem Reloads.runFrom_eq
    {outcome : Except SessionError Unit}
    {after : Journal}
    (reloads : client.Reloads before outcome after) :
    client.reload.runFrom before = (outcome, after) := by
  cases reloads with
  | refused decoded isRefused =>
      rw [reload, Attempt.runFrom_bind, runFrom_startReload, started, decoded]
      simp [isRefused, reloadAsked]
  | unreadable undecoded =>
      rw [reload, Attempt.runFrom_bind, runFrom_startReload, started, undecoded]
      rfl
  | running goesDown isFirst isWithin reads =>
      rw [runFrom_reload_of_goesDown goesDown,
        runFrom_awaitRunning_of_decisive isFirst isWithin,
        ← reloadAnswer, settled_of_reads reads]
      rfl
  | failed goesDown isFirst isWithin decoded isRefused =>
      rw [runFrom_reload_of_goesDown goesDown,
        runFrom_awaitRunning_of_decisive isFirst isWithin,
        ← reloadAnswer, settled_of_refused decoded isRefused]
      rfl
  | timedOut goesDown undecided =>
      rw [runFrom_reload_of_goesDown goesDown,
        runFrom_awaitRunning_of_undecided undecided]

/-- A server that goes down comes back, fails or is given up. -/
theorem exists_reloads_of_goesDown
    (goesDown : GoesDown (client.answer before.requests .reload)) :
    ∃ outcome after, client.Reloads before outcome after := by
  rcases firstDecisive_or_undecided client (client.reloadAsked before).requests
      client.policy.maxPolls with ⟨number, isWithin, isFirst⟩ | undecided
  · rcases isFirst.decides with reads | ⟨response, decoded, isRefused⟩
    · exact ⟨_, _, .running goesDown isFirst isWithin reads⟩
    · exact ⟨_, _, .failed goesDown isFirst isWithin decoded isRefused⟩
  · exact ⟨_, _, .timedOut goesDown undecided⟩

theorem exists_reloads
    (client : ManagementClient)
    (before : Journal) :
    ∃ outcome after, client.Reloads before outcome after := by
  cases decoded : decode (client.answer before.requests .reload) with
  | ok response =>
      cases isSuccess : response.isSuccess with
      | true =>
          exact exists_reloads_of_goesDown
            (.inl ⟨response, decoded, isSuccess⟩)
      | false => exact ⟨_, _, .refused decoded isSuccess⟩
  | error error =>
      have passes := isPassing_of_decode_eq_error decoded
      cases error with
      | transport cause =>
          exact exists_reloads_of_goesDown
            (.inr ⟨cause, eq_error_of_decode_eq_transport decoded⟩)
      | protocol detail => exact ⟨_, _, .unreadable decoded⟩
      | _ => cases passes

theorem runFrom_reload_eq_iff
    {outcome : Except SessionError Unit}
    {after : Journal} :
    client.reload.runFrom before = (outcome, after) ↔
      client.Reloads before outcome after := by
  refine ⟨fun ran => ?_, Reloads.runFrom_eq⟩
  obtain ⟨other, otherAfter, reloads⟩ := exists_reloads client before
  cases reloads.runFrom_eq.symm.trans ran
  exact reloads

theorem runFrom_reloadIfRequired_of_reads
    {state : String}
    (reads : Reads state (client.answer before.requests stateOperation)) :
    client.reloadIfRequired.runFrom before =
      if state = reloadState then
        let run := client.reload.runFrom
          (before ++ [.sent (client.request stateOperation)])
        (run.1.map fun _ => true, run.2)
      else (.ok false, before ++ [.sent (client.request stateOperation)]) := by
  rw [reloadIfRequired, Attempt.runFrom_bind, runFrom_serverState,
    stateOf_eq_ok_iff.mpr reads]
  dsimp only
  split
  · rw [Attempt.runFrom_bind]
    cases client.reload.runFrom
        (before ++ [.sent (client.request stateOperation)]) with
    | mk outcome after => cases outcome <;> rfl
  · rfl

theorem ReloadsOnDemand.runFrom_eq
    {outcome : Except SessionError Bool}
    {after : Journal}
    (reloads : client.ReloadsOnDemand before outcome after) :
    client.reloadIfRequired.runFrom before = (outcome, after) := by
  cases reloads with
  | unread isError =>
      rw [reloadIfRequired, Attempt.runFrom_bind, runFrom_serverState, isError]
  | notDemanded reads isOther =>
      rw [runFrom_reloadIfRequired_of_reads reads, if_neg isOther]
  | demanded reads reloads =>
      rw [runFrom_reloadIfRequired_of_reads reads, if_pos rfl,
        reloads.runFrom_eq]

theorem exists_reloadsOnDemand
    (client : ManagementClient)
    (before : Journal) :
    ∃ outcome after, client.ReloadsOnDemand before outcome after := by
  cases isState : stateOf (client.answer before.requests stateOperation) with
  | error error => exact ⟨_, _, .unread isState⟩
  | ok state =>
      have reads := stateOf_eq_ok_iff.mp isState
      by_cases isDemanded : state = reloadState
      · obtain ⟨outcome, after, reloads⟩ := exists_reloads client
          (before ++ [.sent (client.request stateOperation)])
        exact ⟨_, _, .demanded (isDemanded ▸ reads) reloads⟩
      · exact ⟨_, _, .notDemanded reads isDemanded⟩

theorem runFrom_reloadIfRequired_eq_iff
    {outcome : Except SessionError Bool}
    {after : Journal} :
    client.reloadIfRequired.runFrom before = (outcome, after) ↔
      client.ReloadsOnDemand before outcome after := by
  refine ⟨fun ran => ?_, ReloadsOnDemand.runFrom_eq⟩
  obtain ⟨other, otherAfter, reloads⟩ := exists_reloadsOnDemand client before
  cases reloads.runFrom_eq.symm.trans ran
  exact reloads

/-- A reload on demand is made where one is demanded and comes to its end. -/
theorem reloadIfRequired_eq_ok_true_iff
    (client : ManagementClient)
    (before : Journal) :
    (client.reloadIfRequired.runFrom before).1 = .ok true ↔
      Reads reloadState (client.answer before.requests stateOperation) ∧
        (client.reload.runFrom
          (before ++ [.sent (client.request stateOperation)])).1 = .ok () := by
  obtain ⟨outcome, after, reloads⟩ := exists_reloadsOnDemand client before
  rw [reloads.runFrom_eq]
  cases reloads with
  | unread isError => simp [← stateOf_eq_ok_iff, isError]
  | notDemanded reads isOther =>
      have notDemanded : ¬ Reads reloadState
          (client.answer before.requests stateOperation) := fun demands =>
        isOther (reads.unique demands)
      simp [notDemanded]
  | @demanded inner _ reads reloads =>
      rw [reloads.runFrom_eq]
      cases inner <;> simp [Except.map, reads]

/-- No reload is made where the state is read and demands none. -/
theorem reloadIfRequired_eq_ok_false_iff
    (client : ManagementClient)
    (before : Journal) :
    (client.reloadIfRequired.runFrom before).1 = .ok false ↔
      ∃ state, state ≠ reloadState ∧
        Reads state (client.answer before.requests stateOperation) := by
  obtain ⟨outcome, after, reloads⟩ := exists_reloadsOnDemand client before
  rw [reloads.runFrom_eq]
  cases reloads with
  | unread isError => simp [← stateOf_eq_ok_iff, isError]
  | @notDemanded state reads isOther =>
      simp only [true_iff]
      exact ⟨state, isOther, reads⟩
  | @demanded inner _ reads reloads =>
      have isDemanded : ¬ ∃ state, state ≠ reloadState ∧
          Reads state (client.answer before.requests stateOperation) := by
        rintro ⟨state, isOther, readsToo⟩
        exact isOther (readsToo.unique reads)
      cases inner <;> simp [Except.map, isDemanded]

/-- **A reload is decided by the first answer that decides it.**

A reload asks for it and ends there where the request is refused or its answer
cannot be read.  Otherwise it polls: each poll waits once and reads the state
once, the last one is the first whose answer decides, and there are never more
than the policy allows; if none of these decides, the reload has timed out.
A reload on demand reads the state once, and reloads exactly where the server
demands it. -/
theorem reload_decided_by_first_answer
    (client : ManagementClient)
    (before : Journal) :
    (∀ outcome after,
      client.reload.runFrom before = (outcome, after) ↔
        client.Reloads before outcome after) ∧
    (∀ outcome after,
      client.reloadIfRequired.runFrom before = (outcome, after) ↔
        client.ReloadsOnDemand before outcome after) ∧
    ((client.reloadIfRequired.runFrom before).1 = .ok true ↔
      Reads reloadState (client.answer before.requests stateOperation) ∧
        (client.reload.runFrom
          (before ++ [.sent (client.request stateOperation)])).1 = .ok ()) ∧
    ((client.reloadIfRequired.runFrom before).1 = .ok false ↔
      ∃ state, state ≠ reloadState ∧
        Reads state (client.answer before.requests stateOperation)) :=
  ⟨fun _ _ => runFrom_reload_eq_iff,
    fun _ _ => runFrom_reloadIfRequired_eq_iff,
    reloadIfRequired_eq_ok_true_iff client before,
    reloadIfRequired_eq_ok_false_iff client before⟩

end Reloads

end ManagementClient

end Provision
