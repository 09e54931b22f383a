import Provision.Proofs.Session.Reloading

/-!
Contract: how long a reload waits in all.

Every poll waits for the whole interval.  How many polls a policy allows is
counted in whole milliseconds, so what an interval has beyond them is left out
of the count.  The waits can exceed the timeout by what was left out, but never
reach twice the timeout.

Owns:
- spans that are added up, and what a span has beyond whole milliseconds;
- how far the polls of a policy go beyond its timeout;
- the waits of a reload, and when they fit into the timeout for every server.

Does not own: how a reload ends.
-/

namespace Provision

/-! ## Spans -/

namespace Duration

/-- The span of several spans together. -/
def total : List Duration → Duration
  | [] => ⟨0⟩
  | span :: spans => ⟨span.nanoseconds + (total spans).nanoseconds⟩

/-- The nanoseconds beyond the whole milliseconds of a span. -/
def beyondMilliseconds (span : Duration) : Nat :=
  span.nanoseconds % 1000000

theorem total_replicate
    (count : Nat)
    (span : Duration) :
    (total (List.replicate count span)).nanoseconds =
      count * span.nanoseconds := by
  induction count with
  | zero => rw [List.replicate_zero, total, Nat.zero_mul]
  | succ count inductionHypothesis =>
      rw [List.replicate_succ, total, inductionHypothesis, Nat.succ_mul,
        Nat.add_comm]

theorem nanoseconds_eq (span : Duration) :
    span.nanoseconds =
      span.milliseconds * 1000000 + span.beyondMilliseconds := by
  rw [milliseconds, beyondMilliseconds, Nat.div_add_mod']

theorem milliseconds_mul_le (span : Duration) :
    span.milliseconds * 1000000 ≤ span.nanoseconds :=
  Nat.div_mul_le_self _ _

theorem beyondMilliseconds_lt (span : Duration) :
    span.beyondMilliseconds < 1000000 :=
  Nat.mod_lt _ (by decide)

end Duration

/-! ## The polls of a policy -/

namespace ReloadPolicy

/-- The server is polled after some time, and a first time within the
timeout. -/
structure PollsInTime (policy : ReloadPolicy) : Prop where
  isPositive : 0 < policy.pollInterval.nanoseconds
  isWithin : policy.pollInterval.nanoseconds ≤ policy.timeout.nanoseconds

variable {policy : ReloadPolicy}

/-- There is one poll only, or no more than the whole milliseconds allow. -/
theorem maxPolls_eq_one_or_le (policy : ReloadPolicy) :
    policy.maxPolls = 1 ∨
      policy.maxPolls ≤ policy.timeout.milliseconds /
        max 1 policy.pollInterval.milliseconds := by
  unfold maxPolls
  omega

/-- The whole milliseconds of all polls fit into the timeout. -/
theorem PollsInTime.whole_le
    (inTime : policy.PollsInTime) :
    policy.maxPolls * (policy.pollInterval.milliseconds * 1000000) ≤
      policy.timeout.nanoseconds := by
  rcases maxPolls_eq_one_or_le policy with isOne | isCounted
  · rw [isOne, Nat.one_mul]
    exact Nat.le_trans policy.pollInterval.milliseconds_mul_le inTime.isWithin
  · calc policy.maxPolls * (policy.pollInterval.milliseconds * 1000000)
        = policy.maxPolls * policy.pollInterval.milliseconds * 1000000 := by
          rw [Nat.mul_assoc]
      _ ≤ policy.timeout.milliseconds /
            max 1 policy.pollInterval.milliseconds *
              max 1 policy.pollInterval.milliseconds * 1000000 :=
          Nat.mul_le_mul_right _
            (Nat.mul_le_mul isCounted (Nat.le_max_right 1 _))
      _ ≤ policy.timeout.milliseconds * 1000000 :=
          Nat.mul_le_mul_right _ (Nat.div_mul_le_self _ _)
      _ ≤ policy.timeout.nanoseconds := policy.timeout.milliseconds_mul_le

/-- Polls at intervals of less than a millisecond fit into the timeout, as
each of them is counted for a whole one. -/
theorem PollsInTime.le_of_short
    (inTime : policy.PollsInTime)
    (isShort : policy.pollInterval.milliseconds = 0) :
    policy.maxPolls * policy.pollInterval.nanoseconds ≤
      policy.timeout.nanoseconds := by
  rcases maxPolls_eq_one_or_le policy with isOne | isCounted
  · rw [isOne, Nat.one_mul]
    exact inTime.isWithin
  · have isBelow := policy.pollInterval.beyondMilliseconds_lt
    have wholeInterval := policy.pollInterval.nanoseconds_eq
    rw [isShort, Nat.max_eq_left (Nat.zero_le 1), Nat.div_one] at isCounted
    calc policy.maxPolls * policy.pollInterval.nanoseconds
        ≤ policy.timeout.milliseconds * 1000000 :=
          Nat.mul_le_mul isCounted (by omega)
      _ ≤ policy.timeout.nanoseconds := policy.timeout.milliseconds_mul_le

/-- All polls together go beyond the timeout by what was left out of the
count. -/
theorem PollsInTime.le_add
    (inTime : policy.PollsInTime)
    {polls : Nat}
    (isAllowed : polls ≤ policy.maxPolls) :
    polls * policy.pollInterval.nanoseconds ≤
      policy.timeout.nanoseconds +
        polls * policy.pollInterval.beyondMilliseconds := by
  rw [policy.pollInterval.nanoseconds_eq, Nat.mul_add]
  have isWhole :
      polls * (policy.pollInterval.milliseconds * 1000000) ≤
        policy.timeout.nanoseconds :=
    Nat.le_trans (Nat.mul_le_mul_right _ isAllowed) inTime.whole_le
  omega

/-- What is left out of the count of an interval is less than what is
counted, so the polls stay below twice the timeout. -/
theorem PollsInTime.lt_twice
    (inTime : policy.PollsInTime) :
    policy.maxPolls * policy.pollInterval.nanoseconds <
      2 * policy.timeout.nanoseconds := by
  by_cases isShort : policy.pollInterval.milliseconds = 0
  · have fits := inTime.le_of_short isShort
    have isPositive := inTime.isPositive
    have isWithin := inTime.isWithin
    omega
  · have isBelow := policy.pollInterval.beyondMilliseconds_lt
    have wholeInterval := policy.pollInterval.nanoseconds_eq
    have isSmall : policy.pollInterval.nanoseconds <
        2 * (policy.pollInterval.milliseconds * 1000000) := by omega
    have isSome : 0 < policy.maxPolls := Nat.le_max_left 1 _
    calc policy.maxPolls * policy.pollInterval.nanoseconds
        < policy.maxPolls *
            (2 * (policy.pollInterval.milliseconds * 1000000)) :=
          Nat.mul_lt_mul_of_pos_left isSmall isSome
      _ = 2 * (policy.maxPolls *
            (policy.pollInterval.milliseconds * 1000000)) :=
          Nat.mul_left_comm _ _ _
      _ ≤ 2 * policy.timeout.nanoseconds :=
          Nat.mul_le_mul_left 2 inTime.whole_le

/-- Nothing is left out of the count of an interval of whole milliseconds,
and too much is counted for one below them. -/
theorem PollsInTime.le_of_whole_or_short
    (inTime : policy.PollsInTime)
    (isExact : policy.pollInterval.beyondMilliseconds = 0 ∨
      policy.pollInterval.milliseconds = 0) :
    policy.maxPolls * policy.pollInterval.nanoseconds ≤
      policy.timeout.nanoseconds := by
  rcases isExact with isWhole | isShort
  · have fits := inTime.le_add (Nat.le_refl policy.maxPolls)
    rwa [isWhole, Nat.mul_zero, Nat.add_zero] at fits
  · exact inTime.le_of_short isShort

end ReloadPolicy

/-! ## The waits of a reload -/

namespace Journal

theorem sleeps_append (early late : Journal) :
    Journal.sleeps (early ++ late) = early.sleeps ++ late.sleeps :=
  List.filterMap_append

end Journal

namespace ManagementClient

variable {client : ManagementClient} {before after : Journal}
  {outcome : Except SessionError Unit}

/-- The waits of a reload, in order. -/
def reloadWaits (client : ManagementClient) (before : Journal) :
    List Duration :=
  (client.reload.runFrom before).2.sleeps.drop before.sleeps.length

theorem sleeps_pollsMade
    (client : ManagementClient)
    (count : Nat) :
    Journal.sleeps (client.pollsMade count) =
      List.replicate count client.policy.pollInterval := by
  induction count with
  | zero => rfl
  | succ count inductionHypothesis =>
      have oneMore : Journal.sleeps client.pollEvents =
          [client.policy.pollInterval] := rfl
      rw [pollsMade_succ, Journal.sleeps_append, inductionHypothesis, oneMore,
        List.replicate_succ']

theorem sleeps_reloadAsked
    (client : ManagementClient)
    (before : Journal) :
    (client.reloadAsked before).sleeps = before.sleeps := by
  rw [reloadAsked, Journal.sleeps_append]
  exact List.append_nil _

/-- However a reload ends, it has made as many polls as it was allowed or
fewer. -/
theorem Reloads.exists_pollsMade
    (reloads : client.Reloads before outcome after) :
    ∃ polls ≤ client.policy.maxPolls,
      after = client.reloadAsked before ++ client.pollsMade polls := by
  cases reloads with
  | refused => exact ⟨0, Nat.zero_le _, (List.append_nil _).symm⟩
  | unreadable => exact ⟨0, Nat.zero_le _, (List.append_nil _).symm⟩
  | running _ _ isWithin => exact ⟨_, isWithin, rfl⟩
  | failed _ _ isWithin => exact ⟨_, isWithin, rfl⟩
  | timedOut => exact ⟨_, Nat.le_refl _, rfl⟩

/-- A reload that left a number of polls behind waited in these. -/
theorem sleeps_reload
    {polls : Nat}
    (ran : client.reload.runFrom before =
      (outcome, client.reloadAsked before ++ client.pollsMade polls)) :
    (client.reload.runFrom before).2.sleeps =
        before.sleeps ++ client.reloadWaits before ∧
      client.reloadWaits before =
        List.replicate polls client.policy.pollInterval := by
  rw [reloadWaits, ran, Journal.sleeps_append, sleeps_reloadAsked,
    sleeps_pollsMade, List.drop_left]
  exact ⟨rfl, rfl⟩

/-- A reload waits for one interval in each of its polls. -/
theorem exists_reloadWaits_eq
    (client : ManagementClient)
    (before : Journal) :
    ∃ polls ≤ client.policy.maxPolls,
      (client.reload.runFrom before).2.sleeps =
          before.sleeps ++ client.reloadWaits before ∧
        client.reloadWaits before =
          List.replicate polls client.policy.pollInterval := by
  obtain ⟨outcome, after, reloads⟩ := exists_reloads client before
  obtain ⟨polls, isAllowed, rfl⟩ := reloads.exists_pollsMade
  exact ⟨polls, isAllowed, sleeps_reload reloads.runFrom_eq⟩

/-- The way to a server that is never reached. -/
def silentTransport : Transport :=
  fun _ => .error .timeout

/-- A server that is never reached decides nothing, so that all polls are
made. -/
theorem reloadWaits_of_silent
    (isSilent : client.transport = silentTransport)
    (before : Journal) :
    client.reloadWaits before =
      List.replicate client.policy.maxPolls client.policy.pollInterval := by
  have isLost : ∀ requests, client.transport requests = .error .timeout := by
    intro requests
    rw [isSilent]
    rfl
  have undecided : client.Undecided (client.reloadAsked before).requests
      client.policy.maxPolls := by
    intro number isPositive isWithin decides
    rw [pollAnswer, isLost] at decides
    rcases decides with ⟨response, decoded, -⟩ | ⟨response, decoded, -⟩
    · cases decoded
    · cases decoded
  have timedOut := Reloads.timedOut (.inr ⟨_, isLost _⟩) undecided
  exact (sleeps_reload timedOut.runFrom_eq).2

/-- **The waits of a reload fit into the timeout, counted in whole
milliseconds.**

A reload waits for one interval in each poll.  All waits together go beyond
the timeout at most by what each interval has beyond whole milliseconds, and
stay below twice the timeout; they fit where the interval is one of whole
milliseconds or below a millisecond.  They fit for every server exactly where
those of all polls that the policy allows do. -/
theorem reload_waits_in_milliseconds
    (client : ManagementClient)
    (inTime : client.policy.PollsInTime) :
    (∀ before, ∃ polls ≤ client.policy.maxPolls,
      (client.reload.runFrom before).2.sleeps =
          before.sleeps ++ client.reloadWaits before ∧
        client.reloadWaits before =
          List.replicate polls client.policy.pollInterval ∧
        (Duration.total (client.reloadWaits before)).nanoseconds ≤
          client.policy.timeout.nanoseconds +
            polls * client.policy.pollInterval.beyondMilliseconds ∧
        (Duration.total (client.reloadWaits before)).nanoseconds <
          2 * client.policy.timeout.nanoseconds ∧
        (client.policy.pollInterval.beyondMilliseconds = 0 ∨
            client.policy.pollInterval.milliseconds = 0 →
          (Duration.total (client.reloadWaits before)).nanoseconds ≤
            client.policy.timeout.nanoseconds)) ∧
    ((∀ transport before,
        (Duration.total
            ({ client with transport }.reloadWaits before)).nanoseconds ≤
          client.policy.timeout.nanoseconds) ↔
      client.policy.maxPolls * client.policy.pollInterval.nanoseconds ≤
        client.policy.timeout.nanoseconds) := by
  refine ⟨fun before => ?_, fun fits => ?_, fun fits transport before => ?_⟩
  · obtain ⟨polls, isAllowed, areAdded, areWaits⟩ :=
      exists_reloadWaits_eq client before
    have isFewer : polls * client.policy.pollInterval.nanoseconds ≤
        client.policy.maxPolls * client.policy.pollInterval.nanoseconds :=
      Nat.mul_le_mul_right _ isAllowed
    refine ⟨polls, isAllowed, areAdded, areWaits, ?_⟩
    rw [areWaits, Duration.total_replicate]
    exact ⟨inTime.le_add isAllowed,
      Nat.lt_of_le_of_lt isFewer inTime.lt_twice,
      fun isExact =>
        Nat.le_trans isFewer (inTime.le_of_whole_or_short isExact)⟩
  · have allFit := fits silentTransport []
    rwa [reloadWaits_of_silent rfl, Duration.total_replicate] at allFit
  · obtain ⟨polls, isAllowed, -, areWaits⟩ :=
      exists_reloadWaits_eq { client with transport } before
    rw [areWaits, Duration.total_replicate]
    exact Nat.le_trans (Nat.mul_le_mul_right _ isAllowed) fits

/-! ## An interval of almost two milliseconds -/

/-- A client that polls after almost two milliseconds, within two. -/
def hastyClient : ManagementClient where
  transport := silentTransport
  url :=
    { scheme := .http
      user := ⟨"", ""⟩
      host := .name "localhost"
      port := some 9990
      path := ["management"]
      query := none
      fragment := none }
  headers := []
  policy := { timeout := ⟨2000000⟩, pollInterval := ⟨1999999⟩ }

theorem reload_waits_in_milliseconds_sample :
    hastyClient.policy.PollsInTime ∧
    (Duration.total (hastyClient.reloadWaits [])).nanoseconds = 3999998 ∧
    ¬ ∀ transport before,
      (Duration.total
          ({ hastyClient with transport }.reloadWaits before)).nanoseconds ≤
        2000000 := by
  have inTime : hastyClient.policy.PollsInTime := ⟨by decide, by decide⟩
  obtain ⟨-, fitsIff⟩ := reload_waits_in_milliseconds hastyClient inTime
  refine ⟨inTime, ?_, fun fits => ?_⟩
  · rw [reloadWaits_of_silent rfl, Duration.total_replicate]
    rfl
  · have isBeyond := fitsIff.mp fits
    revert isBeyond
    decide

/-- Not every reload that polls in time waits within its timeout. -/
theorem not_every_reload_waits_within_timeout :
    ¬ ∀ (client : ManagementClient) (before : Journal),
      0 < client.policy.pollInterval.nanoseconds →
      client.policy.pollInterval.nanoseconds ≤
        client.policy.timeout.nanoseconds →
      (Duration.total (client.reloadWaits before)).nanoseconds ≤
        client.policy.timeout.nanoseconds := by
  intro areWithin
  have isWithin := areWithin hastyClient [] (by decide) (by decide)
  rw [reloadWaits_of_silent rfl, Duration.total_replicate] at isWithin
  revert isWithin
  decide

end ManagementClient

end Provision
