import ExampleSuite.Proofs.Script

/-!
The verdict on a child and the order in which things are seen of it.

The watch over a child waits for its exit and for the end of both its outputs under one timer. So
a child that exits in time gets the verdict of its exit only if both its outputs are closed in
time as well. One that leaves something behind that holds an output open counts as overrun.
-/

namespace ExampleSuite

/-- Both outputs of the child have been closed. -/
def OutputsClosed (es : List Sight) : Prop :=
  (∃ n, Sight.outClosed n ∈ es) ∧ ∃ n, Sight.errClosed n ∈ es

/-- What the end of a child means: it has passed if it exits with `0`, and has failed with its code
if that is another, or with the negated number of the signal that killed it. -/
inductive Status.Means : Status → Outcome → Prop where
  | passed : Means (.code 0) .passed
  | failed {n : Nat} (nonzero : n ≠ 0) : Means (.code n) (.failed n)
  | killed (n : Nat) : Means (.signal n) (.failed (-n))

lemma Status.means (s : Status) : s.Means s.outcome := by
  rcases s with (_ | n) | n
  · exact .passed
  · exact .failed n.succ_ne_zero
  · exact .killed n

lemma Status.Means.outcome {s : Status} {o : Outcome} (h : s.Means o) : o = s.outcome := by
  cases h with
  | passed => rfl
  | @failed n nonzero =>
    obtain ⟨m, rfl⟩ := Nat.exists_eq_succ_of_ne_zero nonzero
    rfl
  | killed n => rfl

lemma Status.outcome_ne_timedOut (s : Status) : s.outcome ≠ .timedOut := by
  intro h
  have means := s.means
  rw [h] at means
  cases means

/-! ### What the sights say -/

section sights

variable {es : List Sight}

lemma Watch.mem_sights {w : Watch} {x : Sight} (h : x ∈ w.sights) :
    (∃ y, .ofEnd y = x ∧ w.status = some y) ∨ (∃ n, x = .outClosed n ∧ w.out = some n) ∨
      ∃ n, x = .errClosed n ∧ w.err = some n := by
  simp only [Watch.sights, List.mem_append, List.mem_map, Option.mem_toList] at h
  rcases h with (⟨s, hs, rfl⟩ | ⟨n, hn, rfl⟩) | ⟨n, hn, rfl⟩
  · exact .inl ⟨s, rfl, hs⟩
  · exact .inr (.inl ⟨n, rfl, hn⟩)
  · exact .inr (.inr ⟨n, rfl, hn⟩)

/-- Something is missing: the exit, or the end of an output. -/
lemma Unfinished.not_all (h : Unfinished es) : ¬ (SeenEnd es ∧ OutputsClosed es) := by
  rintro ⟨⟨s, hs⟩, ⟨o, ho⟩, e, he⟩
  obtain ⟨⟨status, out, err⟩, hc, hp⟩ := h
  have hs : ∃ y, status = some y := by
    rcases Watch.mem_sights (hp.mem_iff.mp hs) with ⟨y, -, hy⟩ | ⟨n, hn, -⟩ | ⟨n, hn, -⟩
    · exact ⟨y, hy⟩
    · cases hn
    · cases hn
  obtain ⟨y, rfl⟩ := hs
  have ho := Watch.mem_sights (hp.mem_iff.mp ho)
  have he := Watch.mem_sights (hp.mem_iff.mp he)
  simp_all [Watch.complete?]

lemma Unfinished.not_stopped (h : Unfinished es) :
    Sight.elapsed ∉ es ∧ Sight.interrupted ∉ es := by
  obtain ⟨w, -, hp⟩ := h
  rw [hp.mem_iff, hp.mem_iff]
  simp [Watch.sights]

/-- The four ways in which the watch over a child can end, by what has been seen of it. -/
inductive Seen (c : Candidate) (es : List Sight) : Except Failure Outcome → Prop where
  | all {s : Status} {o : Outcome} (end_ : ∀ st, .exited st ∈ es ↔ st = s) (means : s.Means o)
      (closed : OutputsClosed es) (inTime : .elapsed ∉ es) (free : .interrupted ∉ es) :
      Seen c es (.ok o)
  | lost {cause : Cause} (gone : .lost cause ∈ es) (unseen : ¬ SeenEnd es)
      (closed : OutputsClosed es) (inTime : .elapsed ∉ es) (free : .interrupted ∉ es) :
      Seen c es (.error (.wait c.path cause))
  | late (up : .elapsed ∈ es) (free : .interrupted ∉ es)
      (missing : ¬ (SeenEnd es ∧ OutputsClosed es)) : Seen c es (.ok .timedOut)
  | cut (inTime : .elapsed ∉ es) (stop : .interrupted ∈ es)
      (missing : ¬ (SeenEnd es ∧ OutputsClosed es)) : Seen c es (.error .interrupted)

lemma Unfinished.snoc (h : Unfinished es) {x : Sight} (hx : x = .elapsed ∨ x = .interrupted) :
    ¬ (SeenEnd (es ++ [x]) ∧ OutputsClosed (es ++ [x])) := by
  rintro ⟨hs, ho, he⟩
  refine h.not_all ⟨?_, ?_, ?_⟩
  · rcases hx with rfl | rfl <;> simpa [SeenEnd] using hs
  · rcases hx with rfl | rfl <;> simpa using ho
  · rcases hx with rfl | rfl <;> simpa using he

lemma Supervised.seen {c : Candidate} {ks : List Call} {r : Except Failure Outcome}
    (h : Supervised c ks r) : Seen c (sights ks) r := by
  cases h with
  | @ended es s o e all =>
    rw [sights_map_saw]
    have hmem (x : Sight) : x ∈ es ↔ x ∈ [.exited s, .outClosed o, .errClosed e] := all.mem_iff
    refine .all (fun st => ?_) s.means ⟨⟨o, ?_⟩, e, ?_⟩ ?_ ?_ <;> simp [hmem]
  | @lost es cause o e all =>
    rw [sights_map_saw]
    have hmem (x : Sight) : x ∈ es ↔ x ∈ [.lost cause, .outClosed o, .errClosed e] := all.mem_iff
    refine .lost ?_ ?_ ⟨⟨o, ?_⟩, e, ?_⟩ ?_ ?_ <;> simp [SeenEnd, hmem]
  | @stopped es x ks _ left short gone =>
    rw [sights_append, sights_map_saw, sights_saw, gone.sights]
    obtain ⟨hup, hstop⟩ := left.not_stopped
    cases short with
    | elapsed => exact .late (by simp) (by simp [hstop]) (left.snoc (.inl rfl))
    | interrupted => exact .cut (by simp [hup]) (by simp) (left.snoc (.inr rfl))

end sights

namespace Execution

variable {σ : Type} {h : Host σ} {sane waited : σ → Prop}

/-- A child that has been seen to exit gets the verdict of its exit if and only if both its
outputs have been closed before its time was up and before an interrupt. So the rule that the exit
decides, and that only a child that was still running has overrun, holds of an execution if and
only if no output of an exited child stays open for so long. The verdict of an exit is what the exit
means. -/
theorem execute_verdict (H : h.Reaps sane waited) (i : Interpreter) (c : Candidate)
    (s : Session σ) (hs : sane s.world) :
    let es := sights (s.asked (execute h.logged i c))
    let r := answer (execute h i c) s
    (∀ st, .exited st ∈ es → st.Means st.outcome ∧ (r = .ok st.outcome ↔ OutputsClosed es)) ∧
    (r = .ok .timedOut ↔ .elapsed ∈ es) ∧
    (r = .error .interrupted ↔ .interrupted ∈ es) ∧
    ((∀ st, .exited st ∈ es → r = .ok st.outcome ∧ r ≠ .ok .timedOut) ↔
      (SeenEnd es → OutputsClosed es)) := by
  intro es r
  have hx : Executed i c (s.asked (execute h.logged i c)) r := execute_executed H i c s hs
  have hes : es = sights (s.asked (execute h.logged i c)) := rfl
  clear_value es r
  generalize s.asked (execute h.logged i c) = ks at hx hes
  cases hx with
  | refused cause =>
    obtain rfl : es = [] := hes
    simp
  | @started pid ks _ rest =>
    have hseen : Seen c es r := by
      have hr := rest.seen
      rwa [show sights ks = es from hes.symm] at hr
    cases hseen with
    | @all st o end_ means closed inTime free =>
      obtain rfl : o = st.outcome := means.outcome
      have hne : (Except.ok st.outcome : Except Failure Outcome) ≠ .ok .timedOut :=
        fun he => st.outcome_ne_timedOut (Except.ok.inj he)
      refine ⟨fun st' hst => ?_, iff_of_false hne inTime, iff_of_false (by simp) free,
        iff_of_true (fun st' hst => ?_) fun _ => closed⟩
      · obtain rfl := (end_ st').mp hst
        exact ⟨means, iff_of_true rfl closed⟩
      · obtain rfl := (end_ st').mp hst
        exact ⟨rfl, hne⟩
    | lost gone unseen closed inTime free =>
      exact ⟨fun st hst => absurd ⟨st, hst⟩ unseen, iff_of_false (by simp) inTime,
        iff_of_false (by simp) free,
        iff_of_true (fun st hst => absurd ⟨st, hst⟩ unseen) fun hend => absurd hend unseen⟩
    | late up free missing =>
      refine ⟨fun st hst => ⟨st.means, iff_of_false ?_ fun ho => missing ⟨⟨st, hst⟩, ho⟩⟩,
        iff_of_true rfl up, iff_of_false (by simp) free, fun hall hend => ?_,
        fun hclosed st hst => ?_⟩
      · exact fun he => st.outcome_ne_timedOut (Except.ok.inj he).symm
      · obtain ⟨st, hst⟩ := hend
        exact absurd rfl (hall st hst).2
      · exact absurd ⟨⟨st, hst⟩, hclosed ⟨st, hst⟩⟩ missing
    | cut inTime stop missing =>
      refine ⟨fun st hst => ⟨st.means, iff_of_false (by simp) fun ho => missing ⟨⟨st, hst⟩, ho⟩⟩,
        iff_of_false (by simp) inTime, iff_of_true rfl stop, fun hall hend => ?_,
        fun hclosed st hst => ?_⟩
      · obtain ⟨st, hst⟩ := hend
        cases (hall st hst).1
      · exact absurd ⟨⟨st, hst⟩, hclosed ⟨st, hst⟩⟩ missing

/-- A child that exits with `0` at once and leaves something behind that holds its output open. -/
def held : Script := .ready .empty fun _ => .ok ⟨[.exited (.code 0), .errClosed 0, .elapsed], false⟩

/-- The exit has been seen in time, and the verdict is not that of the exit. -/
theorem held_overruns :
    let s := Session.start held none
    Sight.exited (.code 0) ∈ sights (s.asked (execute (Script.host []).logged ⟨[], 1⟩ ⟨[]⟩)) ∧
      answer (execute (Script.host []) ⟨[], 1⟩ ⟨[]⟩) s = .ok .timedOut ∧
      Outcome.timedOut ≠ (Status.code 0).outcome := by
  refine ⟨by decide +kernel, ?_, by decide⟩
  rw [answer_eq_ok]
  decide +kernel

/-- The verdict on such a child is not that of its exit because an output was still open. -/
theorem held_open :
    let s := Session.start held none
    (Script.host []).Reaps (fun _ => True) Script.Waited ∧
      ¬ OutputsClosed (sights (s.asked (execute (Script.host []).logged ⟨[], 1⟩ ⟨[]⟩))) := by
  intro s
  obtain ⟨hv, -⟩ := execute_verdict (Script.host_reaps []) ⟨[], 1⟩ ⟨[]⟩ s trivial
  have hx : Sight.exited (.code 0) ∈
      sights (s.asked (execute (Script.host []).logged ⟨[], 1⟩ ⟨[]⟩)) := by decide +kernel
  have hr : answer (execute (Script.host []) ⟨[], 1⟩ ⟨[]⟩) s = .ok .timedOut := by
    rw [answer_eq_ok]
    decide +kernel
  refine ⟨Script.host_reaps [], fun ho => ?_⟩
  have hp := (hv _ hx).2.mpr ho
  rw [hr] at hp
  cases hp

end Execution

end ExampleSuite
