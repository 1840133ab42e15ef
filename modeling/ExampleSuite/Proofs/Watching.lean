import ExampleSuite.Proofs.Calls

/-!
What an execution asks of the system, and what it ends with.

A system has to keep what it promises about children: one that has not been waited for can be
killed and waited for, and one that has been waited for can be asked how it ended. Against such
a system an execution goes one of five ways. The program is refused; the child is seen to exit
and to close both outputs; it is lost, because waiting for it has failed, once both outputs are
closed; or its time is up or an interrupt comes before that, and the child is killed and waited for
unless it has been waited for already.
-/

namespace ExampleSuite

variable {σ : Type} {sane waited : σ → Prop}

/-- What a system promises about its children in the states `sane`, which it does not leave:
`waited` says that the child started last has been waited for. -/
structure Host.Reaps (h : Host σ) (sane waited : σ → Prop) : Prop extends h.Closed sane where
  fresh : ∀ {p c : Path} {n pid : Nat} {a}, sane a → (h.start p c n a).2 = .ok pid →
    ¬ waited (h.start p c n a).1
  exited : ∀ {w : Watch} {s new a}, sane a → (h.next w a).2 = .exited s new →
    waited (h.next w a).1
  unmoved : ∀ {w : Watch} {a}, sane a → (∀ s new, (h.next w a).2 ≠ .exited s new) →
    (waited (h.next w a).1 ↔ waited a)
  killed : ∀ {a}, sane a → ¬ waited a → (h.kill a).2 = .ok ()
  kept : ∀ {a}, sane a → waited a → waited (h.kill a).1
  polled : ∀ {a}, sane a → waited a → ∃ s, (h.poll a).2 = .ok (some s)

/-- The promises hold on fewer states, if these are not left either. -/
lemma Host.Reaps.of_closed {h : Host σ} {P : σ → Prop} (H : h.Reaps sane waited)
    (C : h.Closed P) (hP : ∀ a, P a → sane a) : h.Reaps P waited where
  toClosed := C
  fresh ha := H.fresh (hP _ ha)
  exited ha := H.exited (hP _ ha)
  unmoved ha := H.unmoved (hP _ ha)
  killed ha := H.killed (hP _ ha)
  kept ha := H.kept (hP _ ha)
  polled ha := H.polled (hP _ ha)

/-! ### What a step leaves alone -/

/-- The path of the example that a verdict is told about. -/
def Log.Event.considered : Log.Event → Option Path
  | .nameListed p | .patternFound p _ | .running p => some p
  | _ => none

/-- The paths of the examples that have been judged by the rules, in order. -/
def considered (told : List Log.Event) : List Path := told.filterMap (·.considered)

/-- Only the log has grown, and examples have been judged. -/
structure Moved (s t : Session (Logged σ)) (ms : List (Moment σ)) (ps : List Path) : Prop where
  log : t.log = s.log ++ ms
  out : t.out = s.out
  tally : t.tally = s.tally
  judged : considered t.told = considered s.told ++ ps

namespace Moved

variable {s t u : Session (Logged σ)} {ms ns : List (Moment σ)} {ps qs : List Path}

lemma refl (s : Session (Logged σ)) : Moved s s [] [] := ⟨by simp, rfl, rfl, by simp⟩

lemma calls (h : Moved s t ms ps) : t.calls = s.calls ++ ms.map (·.call) := by
  rw [Session.calls, h.log, List.map_append]
  rfl

lemma trans (h : Moved s t ms ps) (h' : Moved t u ns qs) : Moved s u (ms ++ ns) (ps ++ qs) where
  log := by rw [h'.log, h.log, List.append_assoc]
  out := h'.out.trans h.out
  tally := h'.tally.trans h.tally
  judged := by rw [h'.judged, h.judged, List.append_assoc]

lemma tell (s : Session (Logged σ)) (e : Log.Event) :
    Moved s (after (Act.tell e) s) [] e.considered.toList where
  log := (List.append_nil _).symm
  out := rfl
  tally := rfl
  judged := by
    show considered (s.told ++ [e]) = _
    cases he : e.considered <;> simp [considered, he]

lemma note {α : Type} (s : Session (Logged σ)) (call : α → Call) (f : σ → σ × α) :
    Moved s (after (Act.act (Host.note call f)) s) [⟨call (f s.world.1).2, (f s.world.1).1⟩] [] :=
  ⟨rfl, rfl, rfl, (List.append_nil _).symm⟩

end Moved

/-! ### The watch over a child -/

def Sight.ofEnd : End → Sight
  | .exited s => .exited s
  | .lost cause => .lost cause

section

variable (x : End)

@[simp] lemma Sight.ofEnd_ne_outClosed (n : Nat) : ofEnd x ≠ .outClosed n := by cases x <;> nofun
@[simp] lemma Sight.ofEnd_ne_errClosed (n : Nat) : ofEnd x ≠ .errClosed n := by cases x <;> nofun
@[simp] lemma Sight.ofEnd_ne_elapsed : ofEnd x ≠ .elapsed := by cases x <;> nofun
@[simp] lemma Sight.ofEnd_ne_interrupted : ofEnd x ≠ .interrupted := by cases x <;> nofun

end

/-- What has been seen of a child. -/
def Watch.sights (w : Watch) : List Sight :=
  w.status.toList.map .ofEnd ++ w.out.toList.map .outClosed ++ w.err.toList.map .errClosed

lemma Watch.sights_of_complete {w : Watch} {x : End} {o e : Nat}
    (h : w.complete? = some (x, o, e)) : w.sights = [.ofEnd x, .outClosed o, .errClosed e] := by
  obtain ⟨status, out, err⟩ := w
  cases status <;> cases out <;> cases err <;> simp_all [Watch.complete?, Watch.sights]

/-- What is seen of a child is added to what has been seen of it. -/
lemma Watch.sights_seen {w : Watch} {seen : List Sight} (hseen : seen.Perm w.sights) :
    (∀ x, w.status = none → (seen ++ [Sight.ofEnd x]).Perm { w with status := some x }.sights) ∧
    (∀ n, w.out = none → (seen ++ [Sight.outClosed n]).Perm { w with out := some n }.sights) ∧
    (∀ n, w.err = none → (seen ++ [Sight.errClosed n]).Perm { w with err := some n }.sights) := by
  obtain ⟨status, out, err⟩ := w
  refine ⟨fun x hs => ?_, fun n ho => ?_, fun n he => ?_⟩
  · obtain rfl : status = none := hs
    exact (hseen.append_right _).trans List.perm_append_comm
  · obtain rfl : out = none := ho
    refine (hseen.append_right _).trans ?_
    have hn := List.perm_append_singleton (Sight.outClosed n) (err.toList.map .errClosed)
    simpa [Watch.sights] using hn.append_left (status.toList.map Sight.ofEnd)
  · obtain rfl : err = none := he
    simpa [Watch.sights] using hseen.append_right [Sight.errClosed n]

/-- Sights of a child that leave something to be seen. -/
def Unfinished (es : List Sight) : Prop := ∃ w : Watch, w.complete? = none ∧ es.Perm w.sights

/-- What is seen of a child until the watch over it ends. -/
inductive Watched : List Sight → Execution.Wake → Prop where
  | done {es : List Sight} {x : End} {o e : Nat}
      (all : es.Perm [.ofEnd x, .outClosed o, .errClosed e]) : Watched es (.done x o e)
  | elapsed {es : List Sight} (left : Unfinished es) : Watched (es ++ [.elapsed]) .elapsed
  | interrupted {es : List Sight} (left : Unfinished es) :
      Watched (es ++ [.interrupted]) .interrupted

/-- It has been seen how the child ended. -/
def SeenEnd (es : List Sight) : Prop := ∃ st, Sight.exited st ∈ es

lemma seenEnd_append {es es' : List Sight} : SeenEnd (es ++ es') ↔ SeenEnd es ∨ SeenEnd es' := by
  simp [SeenEnd, exists_or]

@[simp] lemma not_seenEnd_nil : ¬ SeenEnd [] := by simp [SeenEnd]

@[simp] lemma seenEnd_singleton {x : Sight} : SeenEnd [x] ↔ ∃ st, x = .exited st := by
  simp [SeenEnd, eq_comm]

/-- A watch over a child of which `seen` has been seen leads from `s` to `t`, sees `es` and ends
with `wake`. -/
structure Seeing (waited : σ → Prop) (seen : List Sight) (s t : Session (Logged σ))
    (es : List Sight) (wake : Execution.Wake) : Prop where
  moved : ∃ ms, Moved s t ms [] ∧ ms.map (·.call) = es.map .saw
  all : Watched (seen ++ es) wake
  known : waited t.world.1 ↔ SeenEnd (seen ++ es)

lemma Seeing.cons {seen es : List Sight} {s t u : Session (Logged σ)} {wake : Execution.Wake}
    {x : Sight} {a : σ} (hm : Moved s t [⟨.saw x, a⟩] [])
    (h : Seeing waited (seen ++ [x]) t u es wake) : Seeing waited seen s u (x :: es) wake where
  moved := by
    obtain ⟨ms, hms, hc⟩ := h.moved
    exact ⟨_, hm.trans hms, by simp [hc]⟩
  all := by simpa using h.all
  known := by simpa using h.known

namespace Execution

open Act

variable {h : Host σ} (H : h.Reaps sane waited)
include H

/-- The last thing seen tells whether the child has been waited for, if it is the exit. -/
lemma waited_next {w : Watch} {seen : List Sight} {a : σ} (ha : sane a)
    (hw : waited a ↔ SeenEnd seen) :
    waited (h.next w a).1 ↔ SeenEnd (seen ++ [(h.next w a).2.sight]) := by
  rw [seenEnd_append, seenEnd_singleton]
  by_cases hx : ∃ s new, (h.next w a).2 = .exited s new
  · obtain ⟨s, new, hx⟩ := hx
    exact iff_of_true (H.exited ha hx) (.inr ⟨s, by rw [hx]; rfl⟩)
  · have hne : ∀ s new, (h.next w a).2 ≠ .exited s new := fun s new he => hx ⟨s, new, he⟩
    rw [H.unmoved ha hne, hw]
    refine ⟨.inl, fun hor => hor.resolve_right ?_⟩
    rintro ⟨s, hs⟩
    cases hev : (h.next w a).2 with
    | exited s new => exact hne s new hev
    | _ => rw [hev] at hs; cases hs

lemma watch_logged (w : Watch) (seen : List Sight) (hseen : seen.Perm w.sights)
    (s : Session (Logged σ)) (hs : sane s.world.1) (hw : waited s.world.1 ↔ SeenEnd seen) :
    ∃ es wake, answer (watch h.logged w) s = .ok wake ∧
      Seeing waited seen s (after (watch h.logged w) s) es wake := by
  fun_induction watch h.logged w generalizing seen s with
  | case1 w st o e hc =>
    refine ⟨[], _, rfl, ⟨[], .refl s, rfl⟩, ?_, by simpa using hw⟩
    rw [List.append_nil]
    exact .done (Watch.sights_of_complete hc ▸ hseen)
  | case2 w hc ih1 ih2 ih3 ih4 =>
    have hm := Moved.note s (fun e : Event w => .saw e.sight) (h.next w)
    have ht : sane (after (act (h.logged.next w)) s).world.1 := H.next w hs
    have hw' := waited_next H (w := w) hs hw
    obtain ⟨hx, ho, he⟩ := Watch.sights_seen hseen
    rw [answer_act_bind, after_act_bind, Host.next_logged]
    cases hev : (h.next w s.world.1).2 with
    | exited st new =>
      rw [hev] at hm hw'
      obtain ⟨es, wake, ha, hes⟩ := ih1 st new _ (hx (.exited st) new) _ ht hw'
      exact ⟨_, wake, ha, hes.cons hm⟩
    | lost cause new =>
      rw [hev] at hm hw'
      obtain ⟨es, wake, ha, hes⟩ := ih2 cause new _ (hx (.lost cause) new) _ ht hw'
      exact ⟨_, wake, ha, hes.cons hm⟩
    | outClosed n new =>
      rw [hev] at hm hw'
      obtain ⟨es, wake, ha, hes⟩ := ih3 n new _ (ho n new) _ ht hw'
      exact ⟨_, wake, ha, hes.cons hm⟩
    | errClosed n new =>
      rw [hev] at hm hw'
      obtain ⟨es, wake, ha, hes⟩ := ih4 n new _ (he n new) _ ht hw'
      exact ⟨_, wake, ha, hes.cons hm⟩
    | elapsed =>
      rw [hev] at hm hw'
      exact ⟨_, _, rfl, ⟨_, hm, rfl⟩, .elapsed ⟨w, hc, hseen⟩, hw'⟩
    | interrupted =>
      rw [hev] at hm hw'
      exact ⟨_, _, rfl, ⟨_, hm, rfl⟩, .interrupted ⟨w, hc, hseen⟩, hw'⟩

end Execution

/-! ### An execution -/

/-- How a child is got rid of, of which it is or is not `known` how it ended. -/
inductive Terminated (known : Prop) : List Call → Prop where
  | killed : Terminated known [.killed (.ok ())]
  | gone (cause : Cause) (s : Status) (before : known) :
      Terminated known [.killed (.error cause), .polled (.ok (some s))]

/-- A sight that ends the watch over a child before all has been seen, and what that means. -/
inductive CutShort : Sight → Except Failure Outcome → Prop where
  | elapsed : CutShort .elapsed (.ok .timedOut)
  | interrupted : CutShort .interrupted (.error .interrupted)

/-- What is asked of the system about a child that has been started, and what that ends with. -/
inductive Supervised (c : Candidate) : List Call → Except Failure Outcome → Prop where
  | ended {es : List Sight} {s : Status} {o e : Nat}
      (all : es.Perm [.exited s, .outClosed o, .errClosed e]) :
      Supervised c (es.map .saw) (.ok s.outcome)
  | lost {es : List Sight} {cause : Cause} {o e : Nat}
      (all : es.Perm [.lost cause, .outClosed o, .errClosed e]) :
      Supervised c (es.map .saw) (.error (.wait c.path cause))
  | stopped {es : List Sight} {x : Sight} {ks : List Call} {r : Except Failure Outcome}
      (left : Unfinished es) (short : CutShort x r) (gone : Terminated (SeenEnd es) ks) :
      Supervised c (es.map .saw ++ .saw x :: ks) r

/-- What an execution asks of the system, and what it ends with. -/
inductive Executed (i : Interpreter) (c : Candidate) :
    List Call → Except Failure Outcome → Prop where
  | refused (cause : Cause) :
      Executed i c [.started i.program c.path i.budget (.error cause)]
        (.error (.spawn i.program cause))
  | started (pid : Nat) {ks : List Call} {r : Except Failure Outcome} (rest : Supervised c ks r) :
      Executed i c (.started i.program c.path i.budget (.ok pid) :: ks) r

lemma Terminated.mono {known known' : Prop} {ks : List Call} (h : Terminated known ks)
    (hk : known → known') : Terminated known' ks := by
  cases h with
  | killed => exact .killed
  | gone cause s before => exact .gone cause s (hk before)

lemma Terminated.sights {known : Prop} {ks : List Call} (h : Terminated known ks) :
    sights ks = [] := by
  cases h <;> rfl

namespace Execution

open Act

variable {h : Host σ} (H : h.Reaps sane waited)
include H

/-- Killing a child never fails: if the system refuses, it can say how the child ended. -/
lemma terminate_logged (c : Candidate) (s : Session (Logged σ)) (hs : sane s.world.1) :
    answer (terminate h.logged c) s = .ok () ∧
      ∃ ms, Moved s (after (terminate h.logged c) s) ms [] ∧
        Terminated (waited s.world.1) (ms.map (·.call)) := by
  have hm := Moved.note s Call.killed h.kill
  unfold terminate
  rw [answer_act_bind, after_act_bind, Host.kill_logged]
  cases hk : (h.kill s.world.1).2 with
  | ok u =>
    rw [hk] at hm
    exact ⟨rfl, _, hm, .killed⟩
  | error cause =>
    rw [hk] at hm
    have hw : waited s.world.1 := by
      by_contra hn
      rw [H.killed hs hn] at hk
      cases hk
    set t := after (act h.logged.kill) s
    obtain ⟨st, hp⟩ : ∃ st, (h.poll t.world.1).2 = .ok (some st) :=
      H.polled (H.kill hs) (H.kept hs hw)
    have hm' := Moved.note t Call.polled h.poll
    rw [hp] at hm'
    dsimp only
    rw [answer_act_bind, after_act_bind, Host.poll_logged, hp]
    exact ⟨rfl, _, hm.trans hm', .gone cause st hw⟩

/-- A child whose watch was cut short is told about and killed. -/
lemma terminate_told (e : Log.Event) (c : Candidate) {es : List Sight} {x : Sight}
    (hx : ∀ st, x ≠ .exited st) (t : Session (Logged σ)) (ht : sane t.world.1)
    (hw : waited t.world.1 ↔ SeenEnd (es ++ [x])) :
    answer (terminate h.logged c) (after (tell e) t) = .ok () ∧
      ∃ ms, Moved t (after (terminate h.logged c) (after (tell e) t)) ms e.considered.toList ∧
        Terminated (SeenEnd es) (ms.map (·.call)) := by
  obtain ⟨ha, ms, hm, hgone⟩ := terminate_logged H c (after (tell e) t) ht
  refine ⟨ha, ms, by simpa using (Moved.tell t e).trans hm, hgone.mono fun hwt => ?_⟩
  rcases seenEnd_append.mp (hw.mp hwt) with hes | hend
  · exact hes
  · obtain ⟨st, rfl⟩ := seenEnd_singleton.mp hend
    exact absurd rfl (hx st)

lemma supervise_logged (i : Interpreter) (c : Candidate) (s : Session (Logged σ))
    (hs : sane s.world.1) (hw : ¬ waited s.world.1) :
    ∃ ms, Moved s (after (supervise h.logged i c) s) ms [] ∧
      Supervised c (ms.map (·.call)) (answer (supervise h.logged i c) s) := by
  obtain ⟨es, wake, ha, ⟨ms, hm, hms⟩, hall, hkn⟩ :=
    watch_logged H .start [] (.refl _) s hs (by simpa using hw)
  have ht : sane (after (watch h.logged .start) s).world.1 :=
    Alike.closed (watch_alike H.toClosed.logged.agree.respects .start) hs
  unfold supervise
  rw [answer_bind_ok ha, after_bind_ok ha]
  set t := after (watch h.logged .start) s
  rw [List.nil_append] at hall hkn
  cases hall with
  | @done _ x o e all =>
    have hd := hm.trans (.tell t (.drained o e))
    cases x with
    | exited s => exact ⟨_, hd, by simpa [hms] using .ended all⟩
    | lost cause => exact ⟨_, hd, by simpa [hms] using .lost all⟩
  | elapsed left =>
    dsimp only
    obtain ⟨hk, ns, hns, hgone⟩ := terminate_told H
      (.overran c.path (i.budget % 0x10000000000000000)) c (by simp) t ht hkn
    rw [answer_tell_bind, after_tell_bind, answer_bind_ok hk, after_bind_ok hk]
    refine ⟨_, hm.trans hns, ?_⟩
    simpa [hms] using Supervised.stopped left .elapsed hgone
  | interrupted left =>
    dsimp only
    obtain ⟨hk, ns, hns, hgone⟩ := terminate_told H (.stopped c.path) c (by simp) t ht hkn
    rw [answer_tell_bind, after_tell_bind, answer_bind_ok hk, after_bind_ok hk]
    refine ⟨_, hm.trans hns, ?_⟩
    simpa [hms] using Supervised.stopped left .interrupted hgone

theorem execute_logged (i : Interpreter) (c : Candidate) (s : Session (Logged σ))
    (hs : sane s.world.1) :
    ∃ ms, Moved s (after (execute h.logged i c) s) ms [] ∧
      Executed i c (ms.map (·.call)) (answer (execute h.logged i c) s) := by
  have hm := Moved.note s (Call.started i.program c.path i.budget)
    (h.start i.program c.path i.budget)
  have ht : sane (after (act (h.logged.start i.program c.path i.budget)) s).world.1 :=
    H.start _ _ _ hs
  unfold execute
  rw [answer_act_bind, after_act_bind, Host.start_logged]
  set t := after (act (h.logged.start i.program c.path i.budget)) s
  cases hr : (h.start i.program c.path i.budget s.world.1).2 with
  | error cause =>
    rw [hr] at hm
    exact ⟨_, hm, .refused cause⟩
  | ok pid =>
    rw [hr] at hm
    dsimp only
    rw [answer_tell_bind, after_tell_bind]
    obtain ⟨ms, hms, hsup⟩ :=
      supervise_logged H i c (after (tell (.started pid c.path)) t) ht (H.fresh hs hr)
    exact ⟨_, (hm.trans (.tell t _)).trans hms, .started pid hsup⟩

/-- An execution, with its calls and its answer. -/
theorem execute_executed (i : Interpreter) (c : Candidate) (s : Session σ) (hs : sane s.world) :
    Executed i c (s.asked (execute h.logged i c)) (answer (execute h i c) s) := by
  obtain ⟨ms, hm, hx⟩ := execute_logged H i c s.logged hs
  obtain ⟨ha, -⟩ := execute_alike (Host.logged_agree h).respects i c s.logged s s.logged_agree
  have hc : s.asked (execute h.logged i c) = ms.map (·.call) := by
    rw [Session.asked, hm.calls]
    rfl
  rwa [hc, ← ha]

end Execution

end ExampleSuite
