import Provision.Session.Client

/-!
Contract: what a session with a management endpoint does over time.

A run of an operation adds to the journal.  What it adds is read here as a
list of steps: an operation that went out with the answer that came back, or a
wait.  Each operation of the client has one law about its steps and outcome,
whatever the endpoint answers.

Owns:
- the steps of a journal, and what an answer says;
- the laws of sequence, handling and rewording for steps;
- the law of each operation that a command uses.

Does not own: commands, and the order in which they use the operations.
-/

namespace Provision

/-- What comes back for a request. -/
abbrev Answer := Except TransportError HttpResponse

/-- One thing that a session did. -/
inductive SessionStep where
  | exchanged (operation : Operation) (answer : Answer)
  | waited (span : Duration)

namespace Journal

theorem requests_append (early late : Journal) :
    Journal.requests (early ++ late) = early.requests ++ late.requests :=
  List.filterMap_append

end Journal

namespace ManagementClient

variable {α β ε δ : Type}

/-! ## Steps -/

/-- The steps of a journal that goes on after earlier requests. -/
def steps (client : ManagementClient) :
    List HttpRequest → Journal → List SessionStep
  | _, [] => []
  | past, .slept span :: rest => .waited span :: client.steps past rest
  | past, .sent request :: rest =>
      .exchanged request.operation (client.transport (past ++ [request])) ::
        client.steps (past ++ [request]) rest

theorem steps_append (client : ManagementClient) (past : List HttpRequest)
    (early late : Journal) :
    client.steps past (early ++ late) =
      client.steps past early ++
        client.steps (past ++ early.requests) late := by
  induction early generalizing past with
  | nil => simp [steps, Journal.requests]
  | cons event rest inductionHypothesis =>
      cases event <;>
        simp [steps, Journal.requests, inductionHypothesis]

/-- From every journal on, the run of an attempt only adds to the journal, and
the steps that it adds and its outcome are as told. -/
def Yields (client : ManagementClient) (attempt : Attempt Journal ε α)
    (told : List SessionStep → Except ε α → Prop) : Prop :=
  ∀ before : Journal, ∃ added : Journal,
    (attempt.runFrom before).2 = before ++ added ∧
      told (client.steps before.requests added) (attempt.runFrom before).1

namespace Yields

variable {client : ManagementClient}

theorem mono {attempt : Attempt Journal ε α}
    {told weaker : List SessionStep → Except ε α → Prop}
    (yields : client.Yields attempt told)
    (isWeaker : ∀ trace outcome, told trace outcome → weaker trace outcome) :
    client.Yields attempt weaker := by
  intro before
  obtain ⟨added, isAdded, isTold⟩ := yields before
  exact ⟨added, isAdded, isWeaker _ _ isTold⟩

theorem ofPure {value : α} {told : List SessionStep → Except ε α → Prop}
    (isTold : told [] (.ok value)) :
    client.Yields (pure value : Attempt Journal ε α) told := by
  intro before
  exact ⟨[], by simp, isTold⟩

theorem ofThrow {error : ε} {told : List SessionStep → Except ε α → Prop}
    (isTold : told [] (.error error)) :
    client.Yields (throw error : Attempt Journal ε α) told := by
  intro before
  exact ⟨[], by simp, isTold⟩

/-- A sequence takes the steps of both parts, or only those of a first part
that fails. -/
theorem andThen {first : Attempt Journal ε α} {next : α → Attempt Journal ε β}
    {toldFirst : List SessionStep → Except ε α → Prop}
    {told : List SessionStep → Except ε β → Prop}
    (yields : client.Yields first toldFirst)
    (goesOn : ∀ value early, toldFirst early (.ok value) →
      client.Yields (next value) fun late outcome =>
        told (early ++ late) outcome)
    (stops : ∀ error early, toldFirst early (.error error) →
      told early (.error error)) :
    client.Yields (first >>= next) told := by
  intro before
  obtain ⟨early, isEarly, isFirst⟩ := yields before
  rw [Attempt.runFrom_bind]
  cases ran : first.runFrom before with
  | mk outcome middle =>
      simp only [ran] at isEarly isFirst
      subst isEarly
      cases outcome with
      | error error => exact ⟨early, rfl, stops error _ isFirst⟩
      | ok value =>
          obtain ⟨late, isLate, isTold⟩ :=
            goesOn value _ isFirst (before ++ early)
          rw [Journal.requests_append] at isTold
          refine ⟨early ++ late, by simp [isLate], ?_⟩
          rw [steps_append]
          exact isTold

/-- A handler takes its steps after those of the failure. -/
theorem recover {attempt : Attempt Journal ε α}
    {handler : ε → Attempt Journal ε α}
    {toldFirst told : List SessionStep → Except ε α → Prop}
    (yields : client.Yields attempt toldFirst)
    (succeeds : ∀ value trace, toldFirst trace (.ok value) →
      told trace (.ok value))
    (handles : ∀ error early, toldFirst early (.error error) →
      client.Yields (handler error) fun late outcome =>
        told (early ++ late) outcome) :
    client.Yields (tryCatch attempt handler) told := by
  intro before
  obtain ⟨early, isEarly, isFirst⟩ := yields before
  rw [Attempt.runFrom_tryCatch]
  cases ran : attempt.runFrom before with
  | mk outcome middle =>
      simp only [ran] at isEarly isFirst
      subst isEarly
      cases outcome with
      | ok value => exact ⟨early, rfl, succeeds value _ isFirst⟩
      | error error =>
          obtain ⟨late, isLate, isTold⟩ :=
            handles error _ isFirst (before ++ early)
          rw [Journal.requests_append] at isTold
          refine ⟨early ++ late, by simp [isLate], ?_⟩
          rw [steps_append]
          exact isTold

/-- Rewording a failure takes no step of its own. -/
theorem reword {attempt : Attempt Journal ε α}
    {told : List SessionStep → Except ε α → Prop}
    (yields : client.Yields attempt told) (change : ε → δ) :
    client.Yields (ExceptT.adapt change attempt) fun trace outcome =>
      ∃ inner, told trace inner ∧ inner.mapError change = outcome := by
  intro before
  obtain ⟨added, isAdded, isTold⟩ := yields before
  exact ⟨added, isAdded, _, isTold, rfl⟩

end Yields

/-! ## What an answer says -/

/-- The answer is a response with a property. -/
def Says (property : Response → Prop) (answer : Answer) : Prop :=
  ∃ response, decode answer = .ok response ∧ property response

theorem says_iff_of_decoded {answer : Answer} {response : Response}
    (decoded : decode answer = .ok response) (property : Response → Prop) :
    Says property answer ↔ property response := by
  simp [Says, decoded]

theorem not_says_of_undecoded {answer : Answer} {error : SessionError}
    (undecoded : decode answer = .error error) (property : Response → Prop) :
    ¬ Says property answer := by
  simp [Says, undecoded]

/-- The server did what it was asked. -/
def Succeeds : Answer → Prop :=
  Says fun response => response.isSuccess = true

/-- The server did not do what it was asked. -/
def Refuses : Answer → Prop :=
  Says fun response => response.isSuccess = false

/-- The answer is a state of the server. -/
def Reads (state : String) : Answer → Prop :=
  Says fun response =>
    response.isSuccess = true ∧ response.result = .string state

/-- The answer is a list of names with a certain one among them. -/
def Lists (name : String) : Answer → Prop :=
  Says fun response =>
    response.isSuccess = true ∧ ∃ names, response.result = .array names ∧
      Json.string name ∈ names

/-- The answer is a list of names without a certain one, or the failure of a
server that has no such parent. -/
def SaysAbsent (name : String) : Answer → Prop :=
  Says fun response =>
    (response.isSuccess = true ∧ ∃ names, response.result = .array names ∧
      Json.string name ∉ names) ∨
    (response.isSuccess = false ∧ saysNotFound response.failure = true)

/-- The answer is the failure of a server that has the node already. -/
def SaysDuplicate : Answer → Prop :=
  Says fun response => response.isSuccess = false ∧
    duplicateCode.toList <:+: response.failure.toList

/-- Without a response there is a transport error or an unreadable body. -/
theorem isPassing_of_decode_eq_error {answer : Answer} {error : SessionError}
    (undecoded : decode answer = .error error) : isPassing error = true := by
  unfold decode at undecoded
  split at undecoded
  · cases undecoded
    rfl
  · split at undecoded
    · cases undecoded
    · cases undecoded
      rfl

/-! ## Reading the state -/

section Laws

variable (client : ManagementClient)

/-- An operation is one exchange. -/
theorem yields_execute (operation : Operation) :
    client.Yields (client.execute operation) fun trace outcome =>
      ∃ answer, trace = [.exchanged operation answer] ∧
        outcome = decode answer := by
  intro before
  let request := HttpRequest.ofOperation client.url client.headers operation
  refine ⟨[.sent request], rfl,
    client.transport (before.requests ++ [request]), rfl, ?_⟩
  have isLast : Journal.requests (before ++ [.sent request]) =
      before.requests ++ [request] := Journal.requests_append before _
  rw [← isLast]
  rfl

theorem Reads.unique {left right : String} {answer : Answer}
    (reads : Reads left answer) (alsoReads : Reads right answer) :
    left = right := by
  obtain ⟨response, decoded, -, isLeft⟩ := reads
  rw [Reads, says_iff_of_decoded decoded, isLeft] at alsoReads
  exact Json.string.inj alsoReads.2

theorem Reads.not_refuses {state : String} {answer : Answer}
    (reads : Reads state answer) : ¬ Refuses answer := by
  obtain ⟨response, decoded, succeeds, -⟩ := reads
  simp [Refuses, says_iff_of_decoded decoded, succeeds]

/-- How the state is read from an answer: as a text, as the failure of the
server, or not at all. -/
inductive StateRead (answer : Answer) : Except SessionError String → Prop where
  | read {state : String} (reads : Reads state answer) :
      StateRead answer (.ok state)
  | refused {response : Response} (decoded : decode answer = .ok response)
      (refuses : Refuses answer) :
      StateRead answer (.error (failed stateOperation response))
  | unread {error : SessionError} (noState : ∀ state, ¬ Reads state answer)
      (leavesOpen : ¬ Refuses answer) (passes : isPassing error = true) :
      StateRead answer (.error error)

/-- A state is read exactly where one is given. -/
theorem StateRead.eq_ok_iff {answer : Answer}
    {outcome : Except SessionError String} (isRead : StateRead answer outcome)
    (state : String) : outcome = .ok state ↔ Reads state answer := by
  cases isRead with
  | @read other reads =>
      obtain ⟨response, decoded, succeeds, isOther⟩ := reads
      simp [Reads, says_iff_of_decoded decoded, succeeds, isOther]
  | refused decoded refuses =>
      rw [Refuses, says_iff_of_decoded decoded] at refuses
      simp [Reads, says_iff_of_decoded decoded, refuses]
  | unread noState => simp [noState]

theorem yields_serverState :
    client.Yields client.serverState fun trace outcome =>
      ∃ answer, trace = [.exchanged stateOperation answer] ∧
        StateRead answer outcome := by
  refine (client.yields_execute stateOperation).andThen ?_ ?_
  · rintro response early ⟨answer, rfl, isDecoded⟩
    have decoded : decode answer = .ok response := isDecoded.symm
    cases succeeds : response.isSuccess with
    | false =>
        have refuses : Refuses answer :=
          (says_iff_of_decoded decoded _).mpr succeeds
        exact .ofThrow ⟨answer, rfl, .refused decoded refuses⟩
    | true =>
        have leavesOpen : ¬ Refuses answer := by
          simp [Refuses, says_iff_of_decoded decoded, succeeds]
        cases result : response.result with
        | string state =>
            exact .ofPure
              ⟨answer, rfl, .read ⟨response, decoded, succeeds, result⟩⟩
        | _ =>
            refine .ofThrow ⟨answer, rfl, .unread (fun state => ?_) leavesOpen
              rfl⟩
            simp [Reads, says_iff_of_decoded decoded, result]
  · rintro error early ⟨answer, rfl, isUndecoded⟩
    have undecoded : decode answer = .error error := isUndecoded.symm
    exact ⟨answer, rfl, .unread (fun _ => not_says_of_undecoded undecoded _)
      (not_says_of_undecoded undecoded _)
      (isPassing_of_decode_eq_error undecoded)⟩

/-! ## Polling and reloading -/

/-- What one more read of the state settles: the server is back, it refuses,
or neither is known yet. -/
inductive Polled (answer : Answer) : Except SessionError Bool → Prop where
  | running (reads : Reads runningState answer) : Polled answer (.ok true)
  | refused {response : Response} (decoded : decode answer = .ok response)
      (refuses : Refuses answer) :
      Polled answer (.error (failed stateOperation response))
  | waiting (notRunning : ¬ Reads runningState answer)
      (leavesOpen : ¬ Refuses answer) : Polled answer (.ok false)

/-- One poll waits and reads the state once. -/
theorem yields_poll :
    client.Yields client.poll fun trace outcome =>
      ∃ answer, trace = [.waited client.policy.pollInterval,
          .exchanged stateOperation answer] ∧ Polled answer outcome := by
  have yieldsWait : client.Yields (note (.slept client.policy.pollInterval))
      fun trace outcome =>
        trace = [.waited client.policy.pollInterval] ∧ outcome = .ok () :=
    fun before => ⟨[.slept client.policy.pollInterval], rfl, rfl, rfl⟩
  have yieldsState : client.Yields
      (do return decide ((← client.serverState) = runningState))
      fun trace outcome => ∃ answer state,
        trace = [.exchanged stateOperation answer] ∧
          StateRead answer state ∧
          outcome = state.map fun text => decide (text = runningState) := by
    refine client.yields_serverState.andThen ?_ ?_
    · rintro state early ⟨answer, rfl, isRead⟩
      exact .ofPure ⟨answer, _, rfl, isRead, rfl⟩
    · rintro error early ⟨answer, rfl, isRead⟩
      exact ⟨answer, _, rfl, isRead, rfl⟩
  refine yieldsWait.andThen ?_ ?_
  · rintro - early ⟨rfl, -⟩
    refine yieldsState.recover ?_ ?_
    · rintro isRunning trace ⟨answer, state, rfl, isRead, isState⟩
      refine ⟨answer, rfl, ?_⟩
      cases isRead with
      | @read text reads =>
          cases isState
          dsimp only
          by_cases isRunning : text = runningState
          · rw [decide_eq_true isRunning]
            exact .running (isRunning ▸ reads)
          · rw [decide_eq_false isRunning]
            exact .waiting (fun alsoReads => isRunning (reads.unique alsoReads))
              reads.not_refuses
      | refused => cases isState
      | unread => cases isState
    · rintro error early ⟨answer, state, rfl, isRead, isState⟩
      cases isRead with
      | read => cases isState
      | refused decoded refuses =>
          cases isState
          exact .ofThrow ⟨answer, rfl, .refused decoded refuses⟩
      | unread noState leavesOpen passes =>
          -- An answer that says nothing only means "not yet".
          cases isState
          rw [if_pos passes]
          exact .ofPure ⟨answer, rfl, .waiting (noState _) leavesOpen⟩
  · rintro error early ⟨-, isOk⟩
    cases isOk

/-- The steps of polls: each waits before it reads. -/
def polls (answers : List Answer) : List SessionStep :=
  answers.flatMap fun answer =>
    [.waited client.policy.pollInterval, .exchanged stateOperation answer]

/-- A polling with a number of polls left: it ends with the first answer that
settles something, or with the polls. -/
inductive Polling : Nat → List Answer → Except SessionError Unit → Prop where
  | exhausted : Polling 0 [] (.error (.reloadTimeout client.policy.timeout))
  | running {left : Nat} {answer : Answer}
      (reads : Reads runningState answer) : Polling (left + 1) [answer] (.ok ())
  | refused {left : Nat} {answer : Answer} {response : Response}
      (decoded : decode answer = .ok response) (refuses : Refuses answer) :
      Polling (left + 1) [answer] (.error (failed stateOperation response))
  | waiting {left : Nat} {answer : Answer} {answers : List Answer}
      {outcome : Except SessionError Unit}
      (notRunning : ¬ Reads runningState answer)
      (leavesOpen : ¬ Refuses answer)
      (later : Polling left answers outcome) :
      Polling (left + 1) (answer :: answers) outcome

/-- The waiting for a server that reloads is a polling. -/
theorem yields_awaitRunning (left : Nat) :
    client.Yields (client.awaitRunning left) fun trace outcome =>
      ∃ answers, trace = client.polls answers ∧
        client.Polling left answers outcome := by
  induction left with
  | zero => exact .ofThrow ⟨[], rfl, .exhausted⟩
  | succ left inductionHypothesis =>
      refine client.yields_poll.andThen ?_ ?_
      · rintro isRunning early ⟨answer, rfl, polled⟩
        cases polled with
        | running reads => exact .ofPure ⟨[answer], rfl, .running reads⟩
        | waiting notRunning leavesOpen =>
            refine inductionHypothesis.mono ?_
            rintro trace outcome ⟨answers, rfl, later⟩
            exact ⟨answer :: answers, rfl,
              .waiting notRunning leavesOpen later⟩
      · rintro error early ⟨answer, rfl, polled⟩
        cases polled with
        | refused decoded refuses =>
            exact ⟨[answer], rfl, .refused decoded refuses⟩

/-- There are at most as many polls as were left. -/
theorem Polling.length_le {left : Nat} {answers : List Answer}
    {outcome : Except SessionError Unit}
    (polling : client.Polling left answers outcome) :
    answers.length ≤ left := by
  induction polling with
  | exhausted => exact Nat.le_refl 0
  | running | refused => simp
  | waiting _ _ _ inductionHypothesis =>
      exact Nat.succ_le_succ inductionHypothesis

/-- A polling succeeds where its last answer is that the server runs. -/
theorem Polling.eq_ok_iff {left : Nat} {answers : List Answer}
    {outcome : Except SessionError Unit}
    (polling : client.Polling left answers outcome) :
    outcome = .ok () ↔
      ∃ last, answers.getLast? = some last ∧ Reads runningState last := by
  induction polling with
  | exhausted => simp
  | running reads => simp [reads]
  | refused decoded refuses =>
      have notRunning : ¬ Reads runningState _ := fun reads =>
        reads.not_refuses refuses
      simp [notRunning]
  | @waiting left answer answers outcome notRunning leavesOpen later
      inductionHypothesis =>
      rw [inductionHypothesis]
      cases answers with
      | nil => simp [notRunning]
      | cons next others => simp [List.getLast?_cons_cons]

/-- What the answer to a reload settles: the server takes it, or the connection
is lost as it goes down; or it refuses, or its answer cannot be read. -/
inductive Started (answer : Answer) : Except SessionError Unit → Prop where
  | taken (succeeds : Succeeds answer) : Started answer (.ok ())
  | lost {cause : TransportError} (isLost : answer = .error cause) :
      Started answer (.ok ())
  | refused {response : Response} (decoded : decode answer = .ok response)
      (refuses : Refuses answer) :
      Started answer (.error (failed .reload response))
  | unreadable {detail : String}
      (undecoded : decode answer = .error (.protocol detail)) :
      Started answer (.error (.protocol detail))

/-- Only a transport error leaves no response to be read. -/
theorem eq_error_of_decode_eq_transport {answer : Answer}
    {cause : TransportError}
    (undecoded : decode answer = .error (.transport cause)) :
    answer = .error cause := by
  unfold decode at undecoded
  split at undecoded
  · cases undecoded
    rfl
  · split at undecoded <;> cases undecoded

/-- What comes back for a reload: a response, or nothing where the connection
is lost; a body that cannot be read is an error. -/
inductive Received (answer : Answer) :
    Except SessionError (Option Response) → Prop where
  | response {response : Response} (decoded : decode answer = .ok response) :
      Received answer (.ok (some response))
  | lost {cause : TransportError} (isLost : answer = .error cause) :
      Received answer (.ok none)
  | unreadable {detail : String}
      (undecoded : decode answer = .error (.protocol detail)) :
      Received answer (.error (.protocol detail))

theorem yields_startReload :
    client.Yields client.startReload fun trace outcome =>
      ∃ answer, trace = [.exchanged .reload answer] ∧
        Started answer outcome := by
  have yieldsSome : client.Yields
      (do return some (← client.execute .reload))
      fun trace outcome => ∃ answer,
        trace = [.exchanged .reload answer] ∧
          outcome = (decode answer).map some := by
    refine (client.yields_execute .reload).andThen ?_ ?_
    · rintro response early ⟨answer, rfl, decoded⟩
      exact .ofPure ⟨answer, rfl, congrArg (Except.map some) decoded⟩
    · rintro error early ⟨answer, rfl, undecoded⟩
      exact ⟨answer, rfl, congrArg (Except.map some) undecoded⟩
  refine (yieldsSome.recover ?_ ?_ : client.Yields _ fun trace outcome =>
    ∃ answer, trace = [.exchanged .reload answer] ∧
      Received answer outcome).andThen ?_ ?_
  · rintro value trace ⟨answer, rfl, isValue⟩
    cases decoded : decode answer with
    | error error => rw [decoded] at isValue; cases isValue
    | ok response =>
        rw [decoded] at isValue
        cases isValue
        exact ⟨answer, rfl, .response decoded⟩
  · rintro error early ⟨answer, rfl, isError⟩
    cases undecoded : decode answer with
    | ok response => rw [undecoded] at isError; cases isError
    | error cause =>
        rw [undecoded] at isError
        cases isError
        have passes := isPassing_of_decode_eq_error undecoded
        cases error with
        | transport lost =>
            exact .ofPure ⟨answer, rfl,
              .lost (eq_error_of_decode_eq_transport undecoded)⟩
        | protocol detail => exact .ofThrow ⟨answer, rfl, .unreadable undecoded⟩
        | _ => cases passes
  · rintro response early ⟨answer, rfl, received⟩
    cases received with
    | lost isLost => exact .ofPure ⟨answer, rfl, .lost isLost⟩
    | @response taken decoded =>
        dsimp only
        cases succeeds : taken.isSuccess with
        | true =>
            have isTaken : Succeeds answer :=
              (says_iff_of_decoded decoded _).mpr succeeds
            exact .ofPure ⟨answer, rfl, .taken isTaken⟩
        | false =>
            have refuses : Refuses answer :=
              (says_iff_of_decoded decoded _).mpr succeeds
            exact .ofThrow ⟨answer, rfl, .refused decoded refuses⟩
  · rintro error early ⟨answer, rfl, received⟩
    cases received with
    | unreadable undecoded => exact ⟨answer, rfl, .unreadable undecoded⟩

/-- A reload asks for it, and polls unless that failed. -/
theorem yields_reload :
    client.Yields client.reload fun trace outcome =>
      ∃ answer answers,
        trace = .exchanged .reload answer :: client.polls answers ∧
          (Started answer (.ok ()) ∧
              client.Polling client.policy.maxPolls answers outcome ∨
            answers = [] ∧ ∃ error, Started answer (.error error) ∧
              outcome = .error error) := by
  refine client.yields_startReload.andThen ?_ ?_
  · rintro ⟨⟩ early ⟨answer, rfl, started⟩
    refine (client.yields_awaitRunning client.policy.maxPolls).mono ?_
    rintro late outcome ⟨answers, rfl, polling⟩
    exact ⟨answer, answers, rfl, Or.inl ⟨started, polling⟩⟩
  · rintro error early ⟨answer, rfl, started⟩
    exact ⟨answer, [], rfl, Or.inr ⟨rfl, error, started, rfl⟩⟩

end Laws

end ManagementClient

end Provision
