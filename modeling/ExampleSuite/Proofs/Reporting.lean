import ExampleSuite.Proofs.Printing
import ExampleSuite.Proofs.Tally

/-!
A log that is written step by step to an output that may fill up.

The steps count outcomes and print parts of the log, in any order. A part that does not fit is cut
off where the output is full, at any byte of it, and the steps after it are taken as well. So at
each moment the output holds as much as fits of what an output with room for all would hold, and
what has been counted is the same.
-/

namespace ExampleSuite

variable {σ : Type}

/-- After the first `n` bytes of what has been given, more fits if and only if nothing was cut off
before it and it fits itself. -/
lemma Sink.takes_first_iff {n : Nat} {bs cs : Bytes} (hcs : cs ≠ []) :
    Sink.Takes ⟨bs.take n, some n⟩ cs ↔ (bs ++ cs).length ≤ n := by
  have hpos : 0 < cs.length := List.length_pos_iff.mpr hcs
  simp only [Takes, fits, decide_eq_true_eq, List.length_append, List.length_take]
  omega

/-- The session with room for the first `n` bytes of its output. -/
def Session.within (n : Nat) (s : Session σ) : Session σ :=
  { s with out := ⟨s.out.written.take n, some n⟩ }

namespace Report

lemma render_ne_nil {st : Style} {ps : List Piece} {t : String} (h : .text t ∈ ps)
    (ht : Bytes.ofString t ≠ []) : render st ps ≠ [] :=
  fun hnil => ht (List.flatMap_eq_nil_iff.mp hnil _ h)

/-- What is done with a log. -/
inductive Step where
  | banner
  | outcome (c : Candidate) (o : Outcome)
  /-- Counts an outcome and prints nothing. -/
  | record (c : Candidate) (o : Outcome)
  /-- Prints the summary of what has been counted so far. -/
  | summary
  deriving DecidableEq, Repr

namespace Step

def perform (st : Style) : Step → Act σ Unit
  | .banner => Harness.print st Report.banner
  | .outcome c o => Harness.print st (Report.outcome c o)
  | .record c o => Harness.count c o
  | .summary => do Harness.print st (Report.summary (← get).tally)

def prints : Step → Bool
  | .record _ _ => false
  | _ => true

/-- The part of the log that a step prints, if `y` has been counted. -/
def parts (y : Summary) : Step → List Piece
  | .banner => Report.banner
  | .outcome c o => Report.outcome c o
  | .record _ _ => []
  | .summary => Report.summary y

/-- What a step counts. -/
def counts : Step → List (Candidate × Outcome)
  | .record c o => [(c, o)]
  | _ => []

variable (st : Style) {s : Session σ} (x : Step)

/-- Each part of the log has some text in it. -/
lemma render_parts_ne_nil {x : Step} (h : x.prints) (y : Summary) :
    render st (x.parts y) ≠ [] := by
  cases x with
  | banner => exact render_ne_nil (t := "\n") (by simp [parts, Report.banner]) (by decide)
  | outcome c o => exact render_ne_nil (t := ": ") (by simp [parts, Report.outcome]) (by decide)
  | record c o => cases h
  | summary => exact render_ne_nil (t := "\n") (by simp [parts, Report.summary]) (by decide)

lemma after_perform (hout : s.out.Takes []) :
    after (x.perform st) s =
      { s with
        out := s.out.put (render st (x.parts s.tally)), tally := s.tally.recordAll x.counts } := by
  cases x with
  | banner => exact Harness.after_print st _ hout
  | outcome c o => exact Harness.after_print st _ hout
  | summary => exact (after_bind_ok (answer_get s)).trans (Harness.after_print st _ hout)
  | record c o =>
    have hput : s.out.put (render st []) = s.out := Sink.put_nil hout
    rw [parts, hput]
    rfl

/-- A step fails if and only if the part of the log that it prints does not fit. -/
lemma answer_perform (hout : s.out.Takes []) :
    answer (x.perform st) s =
      if s.out.Takes (render st (x.parts s.tally)) then .ok () else .error (.output .sinkFull) := by
  cases x with
  | banner => exact Harness.answer_print st _ hout
  | outcome c o => exact Harness.answer_print st _ hout
  | record c o => exact (if_pos hout).symm
  | summary => exact (answer_bind_ok (answer_get s)).trans (Harness.answer_print st _ hout)

end Step

/-! ### One step after the other -/

/-- The session after some steps, whether they fail or not. -/
def leave (st : Style) (xs : List Step) (s : Session σ) : Session σ :=
  xs.foldl (fun s x => after (x.perform st) s) s

/-- The outcomes that are counted, in order. -/
def recorded (xs : List Step) : List (Candidate × Outcome) := xs.flatMap Step.counts

/-- All that some steps print, if `y` has been counted before them. -/
def log (st : Style) (y : Summary) : List Step → Bytes
  | [] => []
  | x :: xs => render st (x.parts y) ++ log st (y.recordAll x.counts) xs

variable (st : Style) (y : Summary) (x : Step) (xs ys : List Step) {s : Session σ}

@[simp] lemma recorded_cons : recorded (x :: xs) = x.counts ++ recorded xs := List.flatMap_cons

lemma log_append :
    log st y (xs ++ ys) = log st y xs ++ log st (y.recordAll (recorded xs)) ys := by
  induction xs generalizing y with
  | nil => rfl
  | cons x xs ih =>
    rw [List.cons_append, log, ih, log, recorded_cons, Summary.recordAll_append, List.append_assoc]

/-- Whatever fits, each step adds its part to what has been given to the output. -/
lemma leave_eq (hout : s.out.Takes []) :
    leave st xs s =
      { s with
        out := s.out.put (log st s.tally xs), tally := s.tally.recordAll (recorded xs) } := by
  induction xs generalizing s with
  | nil =>
    show s = { s with out := s.out.put [], tally := s.tally }
    rw [Sink.put_nil hout]
  | cons x xs ih =>
    show leave st xs (after (x.perform st) s) = _
    rw [Step.after_perform st x hout, ih (Sink.takes_nil_put _ _)]
    simp only [Sink.put_put, log, recorded_cons, Summary.recordAll_append]

/-! ### From the start of a session -/

variable (w : σ) (n : Nat)

lemma leave_start (limit : Option Nat) :
    leave st xs (.start w limit) =
      ⟨w, ⟨Sink.upTo limit (log st .empty xs), limit⟩, [], Summary.empty.recordAll (recorded xs)⟩ :=
  leave_eq st xs (Sink.takes_empty limit)

lemma takes_nil_leave_start (limit : Option Nat) :
    (leave st xs (.start w limit)).out.Takes [] := by
  rw [leave_eq st xs (Sink.takes_empty limit)]
  exact Sink.takes_nil_put _ _

lemma log_concat :
    log st .empty (xs ++ [x]) =
      log st .empty xs ++ render st (x.parts (Summary.empty.recordAll (recorded xs))) := by
  rw [log_append, log, log, List.append_nil]

/-- A part of the log is printed if and only if all of the log up to its end fits. -/
lemma answer_printing {x : Step} (hx : x.prints) :
    answer (x.perform st) (leave st xs (.start w (some n))) =
      if (log st .empty (xs ++ [x])).length ≤ n then .ok () else .error (.output .sinkFull) := by
  rw [Step.answer_perform st x (takes_nil_leave_start st xs w (some n)), leave_start, log_concat]
  exact if_congr (Sink.takes_first_iff (Step.render_parts_ne_nil st hx _)) rfl rfl

lemma answer_recording {x : Step} (hx : x.prints = false) (limit : Option Nat) :
    answer (x.perform st) (leave st xs (.start w limit)) = .ok () := by
  cases x with
  | record c o => rfl
  | _ => cases hx

/-- With room for `n` bytes each step counts as with room for all, and the output holds the first
`n` bytes of the whole log. A part of the log is printed if and only if the log up to its end has
at most `n` bytes. After one that is not, none is. -/
theorem steps_fill :
    (leave st xs (.start w none)).out.written = log st .empty xs ∧
    (leave st xs (.start w none)).tally = Summary.empty.recordAll (recorded xs) ∧
    leave st xs (.start w (some n)) = (leave st xs (.start w none)).within n ∧
    answer (x.perform st) (leave st xs (.start w none)) = .ok () ∧
    (x.prints = false → answer (x.perform st) (leave st xs (.start w (some n))) = .ok ()) ∧
    (x.prints → answer (x.perform st) (leave st xs (.start w (some n))) =
      if (leave st (xs ++ [x]) (.start w none)).out.written.length ≤ n then .ok ()
      else .error (.output .sinkFull)) ∧
    ∀ z : Step, z.prints → n < (leave st xs (.start w none)).out.written.length →
      answer (z.perform st) (leave st (xs ++ ys) (.start w (some n))) =
        .error (.output .sinkFull) := by
  have written (xs : List Step) : (leave st xs (.start w none)).out.written = log st .empty xs := by
    rw [leave_start]
    rfl
  refine ⟨written xs, by rw [leave_start], by rw [leave_start, leave_start]; rfl, ?_,
    fun hx => answer_recording st xs w hx _, fun hx => ?_, fun z hz full => ?_⟩
  · rw [Step.answer_perform st x (takes_nil_leave_start st xs w none), leave_start]
    exact if_pos (Sink.takes_of_unlimited rfl _)
  · rw [written, answer_printing st xs w n hx]
  · rw [written] at full
    have longer : ¬ (log st .empty (xs ++ ys ++ [z])).length ≤ n := by
      rw [List.append_assoc, log_append, List.length_append]
      omega
    rw [answer_printing st (xs ++ ys) w n hz, if_neg longer]

/-- An output that is full two bytes into the cross of the first marker. -/
theorem cross_cut :
    let c : Candidate := ⟨Bytes.ofString "a"⟩
    let xs : List Step := [.banner, .outcome c .timedOut]
    let room : Session Unit := .start () (some 38)
    Step.prints (.record c .timedOut) = false ∧
    answer (Step.perform .plain (.record c .timedOut)) (leave .plain xs room) = .ok () ∧
    Step.prints (.outcome c .timedOut) ∧
    answer (Step.perform .plain (.outcome c .timedOut)) (leave .plain [.banner] room) =
      .error (.output .sinkFull) ∧
    38 < (leave .plain xs (Session.start () none)).out.written.length ∧
    answer (Step.perform .plain .summary) (leave .plain (xs ++ [.record c .timedOut]) room) =
      .error (.output .sinkFull) := by
  intro c xs room
  obtain ⟨-, -, -, -, recording, -, later⟩ :=
    steps_fill .plain (.record c .timedOut) xs [.record c .timedOut] () 38
  obtain ⟨-, -, -, -, -, printing, -⟩ :=
    steps_fill .plain (.outcome c .timedOut) [.banner] [] () 38
  have beyond : 38 < (leave .plain xs (Session.start () none)).out.written.length := by
    decide +kernel
  exact ⟨rfl, recording rfl, rfl, (printing rfl).trans (if_neg (by decide +kernel)), beyond,
    later .summary rfl beyond⟩

end Report

end ExampleSuite
