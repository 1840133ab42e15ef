import ExampleSuite.Outcome
import Mathlib.Tactic.Common

/-!
What a tally says about the outcomes that it has recorded.
-/

namespace ExampleSuite

def Outcome.isPassed : Outcome → Bool
  | .passed => true
  | _ => false

def Outcome.isSkipped : Outcome → Bool
  | .skipped _ => true
  | _ => false

namespace Summary

/-- The tally with some outcomes recorded, one after the other. -/
def recordAll (y : Summary) (rs : List (Candidate × Outcome)) : Summary :=
  rs.foldl (fun y r => y.record r.1 r.2) y

lemma recordAll_cons (y : Summary) (r : Candidate × Outcome) (rs : List (Candidate × Outcome)) :
    y.recordAll (r :: rs) = (y.record r.1 r.2).recordAll rs := rfl

lemma recordAll_append (y : Summary) (rs qs : List (Candidate × Outcome)) :
    y.recordAll (rs ++ qs) = (y.recordAll rs).recordAll qs := List.foldl_append

/-- The paths of the failures among outcomes, in order. -/
def failures (rs : List (Candidate × Outcome)) : List Path :=
  (rs.filter (·.2.isFailure)).map (·.1.path)

/-- The counters count the outcomes of each kind, and the paths of the failures are kept. -/
theorem recordAll_eq (y : Summary) (rs : List (Candidate × Outcome)) :
    y.recordAll rs = {
      passed := y.passed + rs.countP (·.2.isPassed)
      failed := y.failed + rs.countP (·.2.isFailure)
      skipped := y.skipped + rs.countP (·.2.isSkipped)
      failing := y.failing ++ failures rs } := by
  induction rs generalizing y with
  | nil => simp [recordAll, failures]
  | cons r rs ih =>
    obtain ⟨c, o⟩ := r
    rw [recordAll_cons, ih]
    cases o <;>
      simp [record, failures, Outcome.isPassed, Outcome.isFailure, Outcome.isSkipped] <;> omega

/-- Two tallies taken together, the failures of the first before those of the second. -/
def merge (y z : Summary) : Summary where
  passed := y.passed + z.passed
  failed := y.failed + z.failed
  skipped := y.skipped + z.skipped
  failing := y.failing ++ z.failing

/-- What is recorded later could as well be recorded on its own. -/
lemma recordAll_eq_merge (y : Summary) (rs : List (Candidate × Outcome)) :
    y.recordAll rs = y.merge (empty.recordAll rs) := by
  rw [recordAll_eq, recordAll_eq]
  simp [merge, empty]

/-- There are as many paths of failures as failures are counted. -/
lemma length_failures (rs : List (Candidate × Outcome)) :
    (failures rs).length = rs.countP (·.2.isFailure) := by
  rw [failures, List.length_map, List.countP_eq_length_filter]

/-- Each outcome is counted once. -/
lemma total_recordAll (y : Summary) (rs : List (Candidate × Outcome)) :
    (y.recordAll rs).total = y.total + rs.length := by
  induction rs generalizing y with
  | nil => rfl
  | cons r rs ih =>
    rw [recordAll_cons, ih, total_record, List.length_cons]
    omega

/-- The exit status of a tally is `0` if and only if no outcome is a failure. -/
lemma exitStatus_recordAll (rs : List (Candidate × Outcome)) :
    (empty.recordAll rs).exitStatus = 0 ↔ ∀ r ∈ rs, r.2.isFailure = false := by
  have hcount : (empty.recordAll rs).failed = rs.countP (·.2.isFailure) := by
    rw [recordAll_eq]
    exact Nat.zero_add _
  rw [exitStatus, hasFailures, hcount]
  simp only [decide_eq_true_eq, ite_eq_right_iff, Nat.one_ne_zero, imp_false, Nat.not_lt,
    Nat.le_zero, List.countP_eq_zero, Bool.not_eq_true]

end Summary

end ExampleSuite
