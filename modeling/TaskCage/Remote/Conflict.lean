import TaskCage.Remote.Dispatcher

/-!
# Conflicts of repeated submissions

The dispatcher compares the canonical texts of two submissions.  Canonical
numbers have 53 significant bits, so two submissions that differ beyond them
are taken for the same one.
-/

namespace TaskCage
namespace Remote

open Profile

/-- The answer reports that the key was used for another payload. -/
def IsConflict (response : RemoteResponse) : Prop :=
  ∃ requestId message retryable,
    response = .error requestId .idempotencyConflict message retryable

theorem not_isConflict_withRequestId {response : RemoteResponse}
    {taskId : String} (named : responseTaskId response = some taskId)
    (requestId : String) : ¬ IsConflict (withRequestId response requestId) := by
  rintro ⟨_, _, _, conflict⟩
  cases response with
  | profileAccepted | profileResult => cases conflict
  | taskCancelled | error => cases named

section Repeated

variable {desk : Desk} {principal token requestId taskId : String}
variable {payload recorded : RemoteProfileRequestPayload}
variable {record : SubmissionRecord} {outcome : Outcome} {checked now : ℕ}

/-- A repeated submission conflicts when the two differ after rounding. -/
theorem isConflict_submit_iff
    (held : desk.books.submissions.lookup
      (toLex (principal, payload.clientRequestId)) = some record)
    (written : record.canonicalPayload = canonicalPayload recorded)
    (named : responseTaskId record.response = some taskId)
    (retained : (desk.isRetained principal record.taskId).1 = true) :
    IsConflict (desk.submit principal token requestId payload outcome checked
        now).1 ↔
      payload.toJson.rounded ≠ recorded.toJson.rounded := by
  have texts := canonicalPayload_eq_iff payload recorded
  rw [Desk.submit_of_isRetained held retained, SubmissionRecord.answer, written]
  split
  · rename_i different
    exact iff_of_true ⟨_, _, _, rfl⟩ fun same => different (texts.mpr same).symm
  · rename_i same
    have same := texts.mp (not_not.mp same).symm
    exact iff_of_false (not_isConflict_withRequestId named requestId)
      (not_not.mpr same)

/-- Conflicts are exact for the pairs of submissions that rounding does not
identify. -/
theorem conflict_exact_iff
    (held : desk.books.submissions.lookup
      (toLex (principal, payload.clientRequestId)) = some record)
    (written : record.canonicalPayload = canonicalPayload recorded)
    (named : responseTaskId record.response = some taskId)
    (retained : (desk.isRetained principal record.taskId).1 = true) :
    (IsConflict (desk.submit principal token requestId payload outcome
        checked now).1 ↔ payload ≠ recorded) ↔
      (payload.toJson.rounded = recorded.toJson.rounded →
        payload = recorded) := by
  rw [isConflict_submit_iff held written named retained]
  constructor
  · intro exact same
    by_contra different
    exact exact.mpr different same
  · intro rounding
    exact ⟨fun different same => different (congrArg _ (congrArg _ same)),
      fun different same => different (rounding same)⟩

end Repeated

/-! Two submissions whose only input differs in the 54th bit. -/

/-- The identifier of the submissions. -/
def sharedRequest : String :=
  "01234567-89ab-4def-8123-456789abcdef"

/-- A submission with one number. -/
def countPayload (value : ℤ) : RemoteProfileRequestPayload where
  clientRequestId := sharedRequest
  profile := ⟨"count", "1.0.0"⟩
  inputs := ⟨[("limit", .int64 value)], List.pairwise_singleton _ _⟩
  resourceOverrides := none

/-- The task of the first submission. -/
def countAccepted : ProfileAcceptedPayload where
  taskId := "task"
  profile := ⟨"count", "1.0.0"⟩
  budget := .smallest

/-- The first submission was accepted. -/
def countDesk : Desk :=
  (Desk.empty.submit "client" "token" "first" (countPayload (2 ^ 53))
    (.accepted countAccepted "" "") 0 0).2

/-- What was recorded of it. -/
def countRecord : SubmissionRecord where
  canonicalPayload := canonicalPayload (countPayload (2 ^ 53))
  response := .profileAccepted "first" countAccepted
  taskId := "task"
  lastChecked := 0

theorem lookup_countDesk :
    countDesk.books.submissions.lookup (toLex ("client", sharedRequest)) =
      some countRecord :=
  (OrderedTable.lookup_insert_eq_ite _ _ _ _).trans (if_pos rfl)

theorem isRetained_countDesk :
    (countDesk.isRetained "client" "task").1 = true := by
  decide

theorem rounded_countPayload :
    (countPayload (2 ^ 53 + 1)).toJson.rounded =
      (countPayload (2 ^ 53)).toJson.rounded := by
  have equal : Json.nearestInt (2 ^ 53 + 1) = Json.nearestInt (2 ^ 53) := by
    decide
  change Json.object [_, ("inputs", .object [("limit", .object [_,
    ("value", .number (Json.nearestInt (2 ^ 53 + 1)))])]), _] = _
  rw [equal]
  rfl

theorem conflict_exact_countDesk :
    (IsConflict (countDesk.submit "client" "token" "second"
        (countPayload (2 ^ 53 + 1)) (.accepted countAccepted "" "") 1 1).1 ↔
      countPayload (2 ^ 53 + 1) ≠ countPayload (2 ^ 53)) ↔
      ((countPayload (2 ^ 53 + 1)).toJson.rounded =
          (countPayload (2 ^ 53)).toJson.rounded →
        countPayload (2 ^ 53 + 1) = countPayload (2 ^ 53)) :=
  conflict_exact_iff lookup_countDesk rfl rfl isRetained_countDesk

/-- The second submission is valid and not the first one, and it is answered
with the task of the first. -/
theorem collapsed_submission :
    (countPayload (2 ^ 53)).validateEnvelope = true ∧
      (countPayload (2 ^ 53 + 1)).validateEnvelope = true ∧
      countPayload (2 ^ 53 + 1) ≠ countPayload (2 ^ 53) ∧
      (countDesk.submit "client" "token" "second"
        (countPayload (2 ^ 53 + 1)) (.accepted countAccepted "" "") 1 1).1 =
      .profileAccepted "second" countAccepted := by
  have different : countPayload (2 ^ 53 + 1) ≠ countPayload (2 ^ 53) := by
    intro same
    have entries := congrArg
      (fun payload : RemoteProfileRequestPayload => payload.inputs.entries)
      same
    simp [countPayload] at entries
  have retained : (countDesk.isRetained "client" countRecord.taskId).1 =
      true :=
    isRetained_countDesk
  have same : countRecord.canonicalPayload =
      canonicalPayload (countPayload (2 ^ 53 + 1)) :=
    ((canonicalPayload_eq_iff _ _).mpr rounded_countPayload).symm
  refine ⟨by decide +kernel, by decide +kernel, different, ?_⟩
  rw [Desk.submit_of_isRetained lookup_countDesk retained,
    SubmissionRecord.answer, if_neg (not_not.mpr same)]
  rfl

end Remote
end TaskCage
