import ExampleSuite.Proofs.Runs
import ExampleSuite.Proofs.Verdict
import Mathlib.Data.List.Basic

/-!
Children that are waited for.

A child is reaped once it has been waited for: its exit has been seen, it has been killed, or it
has been asked how it ended. A ledger of the children is read off the calls of a run. At no moment
it holds more than one child that is not reaped, and at the end of a run it holds none, unless the
run ends because waiting for the last child has failed.
-/

namespace ExampleSuite

/-- A child that has been started. -/
structure Child where
  pid : Nat
  reaped : Bool
  deriving DecidableEq, Repr

/-- The child that a call has brought up. -/
def Call.born : Call → Option Nat
  | .started _ _ _ (.ok pid) => some pid
  | _ => none

/-- The child started last has been waited for. -/
def Call.reaps : Call → Bool
  | .saw (.exited _) | .killed (.ok ()) | .polled (.ok (some _)) => true
  | _ => false

namespace Ledger

/-- The children after one more call, the last one in front. -/
def note (l : List Child) (k : Call) : List Child :=
  match k.born with
  | some pid => ⟨pid, false⟩ :: l
  | none => if k.reaps then l.modifyHead fun c => { c with reaped := true } else l

/-- The children after some calls. -/
def run (l : List Child) (ks : List Call) : List Child := ks.foldl note l

def unreaped (l : List Child) : List Child := l.filter fun c => !c.reaped

@[simp] lemma run_nil (l : List Child) : run l [] = l := rfl

@[simp] lemma run_cons (l : List Child) (k : Call) (ks : List Call) :
    run l (k :: ks) = run (note l k) ks := rfl

lemma run_append (l : List Child) (ks ls : List Call) : run l (ks ++ ls) = run (run l ks) ls :=
  List.foldl_append

lemma length_unreaped_cons {l : List Child} (h : unreaped l = []) (c : Child) :
    (unreaped (c :: l)).length ≤ 1 := by
  rw [unreaped, List.filter_cons]
  split
  · rw [show l.filter _ = [] from h]
    exact Nat.le_refl 1
  · rw [show l.filter _ = [] from h]
    exact Nat.zero_le 1

/-- While no child is started, the calls are about the one in front. -/
lemma run_of_unborn {ks : List Call} (h : ∀ k ∈ ks, k.born = none) (c : Child) (l : List Child) :
    run (c :: l) ks = { c with reaped := c.reaped || ks.any Call.reaps } :: l := by
  induction ks generalizing c with
  | nil => simp
  | cons k ks ih =>
    have hk : note (c :: l) k = { c with reaped := c.reaped || k.reaps } :: l := by
      rw [note, h k List.mem_cons_self]
      cases k.reaps <;> simp
    rw [run_cons, hk, ih fun k' hk' => h k' (List.mem_cons_of_mem k hk'), List.any_cons,
      Bool.or_assoc]

/-- What follows is that the child is killed and waited for, or that it turns out that it has been
waited for before. -/
inductive Down (l : List Child) : List Call → Prop where
  | killed (rest : List Call) : Down l (.killed (.ok ()) :: rest)
  | gone (cause : Cause) (s : Status) (rest : List Call) (before : unreaped l = []) :
      Down l (.killed (.error cause) :: .polled (.ok (some s)) :: rest)

lemma Down.append {l : List Child} {ks : List Call} (h : Down l ks) (ls : List Call) :
    Down l (ks ++ ls) := by
  cases h with
  | killed rest => exact .killed _
  | gone cause s rest before => exact .gone cause s _ before

/-- From the children `l` on there is never more than one that is not reaped, and one whose time is
up or that is interrupted is got rid of at once. -/
structure Orderly (l : List Child) (ks : List Call) : Prop where
  one : ∀ pre, pre <+: ks → (unreaped (run l pre)).length ≤ 1
  down : ∀ pre x post, ks = pre ++ .saw x :: post → x = .elapsed ∨ x = .interrupted →
    Down (run l pre) post

/-- Besides, in the end there is none that is not reaped. -/
structure Tidy (l : List Child) (ks : List Call) : Prop extends Orderly l ks where
  none : unreaped (run l ks) = []

variable {l : List Child} {ks ls : List Call}

lemma Tidy.nil (h : unreaped l = []) : Tidy l [] where
  one pre hpre := by
    rw [List.prefix_nil.mp hpre, run_nil, h]
    exact Nat.zero_le 1
  none := h
  down pre x post he := by simp at he

/-- A call that neither starts a child nor says anything about one. -/
lemma Tidy.of_silent (h : unreaped l = []) {k : Call} (hb : k.born = Option.none)
    (hr : k.reaps = false) (hs : ∀ x, k ≠ .saw x) : Tidy l [k] := by
  have hk : note l k = l := by rw [note, hb, hr]; rfl
  refine ⟨⟨fun pre hpre => ?_, fun pre x post he _ => ?_⟩, by rw [run_cons, hk, run_nil, h]⟩
  · rcases List.prefix_cons_iff.mp hpre with rfl | ⟨t, rfl, ht⟩
    · rw [run_nil, h]
      exact Nat.zero_le 1
    · rw [List.prefix_nil.mp ht, run_cons, hk, run_nil, h]
      exact Nat.zero_le 1
  · have hmem : Call.saw x ∈ [k] := he ▸ List.mem_append_right pre List.mem_cons_self
    exact absurd (List.mem_singleton.mp hmem).symm (hs x)

lemma Orderly.append (h : Orderly l ks) (h' : Orderly (run l ks) ls) : Orderly l (ks ++ ls) where
  one pre hpre := by
    obtain ⟨t, ht⟩ := hpre
    rcases List.append_eq_append_iff.mp ht with ⟨a, rfl, rfl⟩ | ⟨b, rfl, rfl⟩
    · exact h.one pre (List.prefix_append pre a)
    · rw [run_append]
      exact h'.one b (List.prefix_append b t)
  down pre x post he hx := by
    rcases List.append_eq_append_iff.mp he with ⟨b, rfl, hb⟩ | ⟨a, rfl, ha⟩
    · rw [run_append]
      exact h'.down b x post hb hx
    · rcases a with _ | ⟨y, a⟩
      · simpa using h'.down [] x post ha.symm hx
      · obtain ⟨rfl, rfl⟩ := List.cons_eq_cons.mp ha
        exact (h.down pre x a rfl hx).append ls

lemma Tidy.append (h : Orderly l ks) (h' : Tidy (run l ks) ls) : Tidy l (ks ++ ls) where
  toOrderly := Orderly.append h h'.toOrderly
  none := by rw [run_append, h'.none]

end Ledger

/-! ### One child -/

open Ledger

lemma Supervised.unborn {c : Candidate} {ks : List Call} {r : Except Failure Outcome}
    (h : Supervised c ks r) : ∀ k ∈ ks, k.born = none := by
  cases h with
  | ended all => simp [Call.born]
  | lost all => simp [Call.born]
  | stopped left short gone => cases gone <;> simp +contextual [Call.born, or_imp]

lemma Terminated.reaps {known : Prop} {ks : List Call} (h : Terminated known ks) :
    ks.any Call.reaps := by
  cases h <;> simp [Call.reaps]

lemma SeenEnd.reaps {es : List Sight} (h : SeenEnd es) : (es.map Call.saw).any Call.reaps := by
  obtain ⟨s, hs⟩ := h
  exact List.any_eq_true.mpr ⟨.saw (.exited s), List.mem_map_of_mem hs, rfl⟩

/-- However the watch over a child ends, the child has been waited for, unless it is lost. -/
lemma Supervised.reaps {c : Candidate} {ks : List Call} {r : Except Failure Outcome}
    (h : Supervised c ks r) (kept : ∀ p cause, r ≠ .error (.wait p cause)) :
    ks.any Call.reaps := by
  cases h with
  | @ended es s o e all => exact SeenEnd.reaps ⟨s, all.mem_iff.mpr List.mem_cons_self⟩
  | lost all => exact absurd rfl (kept _ _)
  | stopped left short gone => simp [gone.reaps]

/-- A child that is got rid of is killed, unless it is known how it ended. -/
lemma Terminated.down {es : List Sight} {ks : List Call} (h : Terminated (SeenEnd es) ks)
    (c : Child) {l : List Child} (hl : unreaped l = []) :
    Down (run (c :: l) (es.map .saw)) ks := by
  cases h with
  | killed => exact .killed []
  | gone cause s before =>
    refine .gone cause s [] ?_
    rw [run_of_unborn (by simp [Call.born]), before.reaps, Bool.or_true]
    simpa [unreaped] using hl

lemma Supervised.down {a : Candidate} {ks : List Call} {r : Except Failure Outcome}
    (h : Supervised a ks r) (c : Child) {l : List Child} (hl : unreaped l = [])
    {pre post : List Call} {x : Sight} (he : ks = pre ++ .saw x :: post)
    (hx : x = .elapsed ∨ x = .interrupted) : Down (run (c :: l) pre) post := by
  have absent {es : List Sight} (hes : Sight.elapsed ∉ es ∧ Sight.interrupted ∉ es) :
      Call.saw x ∉ es.map .saw := by
    intro hm
    obtain ⟨y, hy, hxy⟩ := List.mem_map.mp hm
    obtain rfl := Call.saw.inj hxy
    rcases hx with rfl | rfl
    · exact hes.1 hy
    · exact hes.2 hy
  have here : Call.saw x ∈ ks := he ▸ List.mem_append_right pre List.mem_cons_self
  cases h with
  | @ended es s o e all => exact absurd here (absent (by simp [all.mem_iff]))
  | @lost es cause o e all => exact absurd here (absent (by simp [all.mem_iff]))
  | @stopped es y ks _ left short gone =>
    have silent : Call.saw x ∉ ks := by cases gone <;> simp
    obtain ⟨rfl, -, rfl⟩ :=
      (List.append_cons_inj_of_notMem (absent left.not_stopped) silent).mp he
    exact gone.down c hl

namespace Executed

variable {i : Interpreter} {c : Candidate} {ks : List Call} {r : Except Failure Outcome}
  (h : Executed i c ks r) {l : List Child} (hl : unreaped l = [])
include h hl

lemma orderly : Orderly l ks := by
  cases h with
  | refused cause =>
    have silent : Tidy l [.started i.program c.path i.budget (.error cause)] :=
      .of_silent hl rfl rfl nofun
    exact silent.toOrderly
  | @started pid ks _ rest =>
    refine ⟨fun pre hpre => ?_, fun pre x post he hx => ?_⟩
    · rcases List.prefix_cons_iff.mp hpre with rfl | ⟨t, rfl, ht⟩
      · rw [run_nil, hl]
        exact Nat.zero_le 1
      · show (unreaped (run (⟨pid, false⟩ :: l) t)).length ≤ 1
        rw [run_of_unborn fun k hk => rest.unborn k (ht.subset hk)]
        exact length_unreaped_cons hl _
    · rcases pre with _ | ⟨k, pre⟩
      · cases he
      · obtain ⟨rfl, rfl⟩ := List.cons_eq_cons.mp he
        exact rest.down ⟨pid, false⟩ hl rfl hx

lemma tidy (kept : ∀ p cause, r ≠ .error (.wait p cause)) : Tidy l ks := by
  refine ⟨h.orderly hl, ?_⟩
  cases h with
  | refused cause => exact hl
  | @started pid ks _ rest =>
    show unreaped (run (⟨pid, false⟩ :: l) ks) = []
    rw [run_of_unborn rest.unborn, rest.reaps kept]
    exact hl

end Executed

/-- An execution that ends with an overrun or an interrupt has killed its child and waited for it, or
has found that it had been waited for already. -/
lemma Executed.down {i : Interpreter} {c : Candidate} {ks : List Call}
    {r : Except Failure Outcome} (h : Executed i c ks r)
    (hr : r = .ok .timedOut ∨ r = .error .interrupted) :
    ∃ before last, ks = before ++ last ∧
      Terminated (unreaped (Ledger.run [] before) = []) last ∧
      unreaped (Ledger.run [] (before ++ last)) = [] := by
  cases h with
  | refused cause => rcases hr with hr | hr <;> cases hr
  | @started pid ks _ rest =>
    cases rest with
    | @ended es s o e all =>
      rcases hr with hr | hr
      · exact absurd (Except.ok.inj hr) s.outcome_ne_timedOut
      · cases hr
    | lost all => rcases hr with hr | hr <;> cases hr
    | @stopped es x ks _ left short gone =>
      have born : Ledger.run [] (.started i.program c.path i.budget (.ok pid) ::
          (es.map .saw ++ [.saw x])) =
            [⟨pid, (es.map Call.saw ++ [Call.saw x]).any Call.reaps⟩] := by
        rw [Ledger.run_cons, show Ledger.note [] _ = [⟨pid, false⟩] from rfl,
          Ledger.run_of_unborn (by simp [Call.born, or_imp, forall_and])]
        rfl
      refine ⟨.started i.program c.path i.budget (.ok pid) :: (es.map .saw ++ [.saw x]), ks,
        by simp, gone.mono fun hend => ?_, ?_⟩
      · rw [born, List.any_append, hend.reaps]
        rfl
      · rw [Ledger.run_append, born, Ledger.run_of_unborn ?_, gone.reaps, Bool.or_true]
        · rfl
        · cases gone <;> simp +contextual [Call.born, or_imp]

/-! ### Whole runs -/

variable {σ : Type} {h : Host σ} {sane waited : σ → Prop}

/-- A run ends with a child that could not be waited for only if that was what was seen of it. -/
lemma Ran.lost {st : Report.Style} {cfg : Config} {s t : Session (Logged σ)} {p : Path}
    {cause : Cause} (hr : Ran h sane st cfg s t (.error (.wait p cause))) :
    .saw (.lost cause) ∈ t.calls := by
  generalize hf : (Except.error (.wait p cause) : Except Failure Summary) = r at hr
  cases hr with
  | refused why calls out judged =>
    obtain rfl := Except.error.inj hf
    rcases why with hv | hc
    · unfold Interpreter.verify at hv
      split at hv
      · cases hv
      · split at hv <;> cases hv
    · unfold Corpus.at? at hc
      split at hc
      · split at hc <;> cases hc
      · cases hc
  | mute full calls out judged => cases hf
  | halted began went halted found =>
    obtain rfl := Except.error.inj hf
    obtain ⟨ks, hstop, hks⟩ := halted.stopped
    generalize t.out = out at hstop
    cases hstop with
    | failed verdict =>
      rcases verdict.failure with ⟨_, he⟩ | he | ⟨_, he, hk⟩
      · cases he
      · cases he
      · obtain ⟨-, rfl⟩ := Failure.wait.inj he
        exact hks ▸ List.mem_append_right _ hk
  | unsummed began went found full printed => cases hf
  | finished began went found takes printed => cases hf

namespace Harness

open Execution

/-- The ledger of a run is in order, and tidy if no child is lost in the end. -/
lemma run_ledger (H : h.Reaps sane waited) (st : Report.Style) (cfg : Config) {w : σ}
    (limit : Option Nat) (hw : sane w) :
    let s := Session.start w limit
    let ks := s.asked (run h.logged st cfg)
    ∀ l, unreaped l = [] → Orderly l ks ∧
      ((∀ p cause, answer (run h st cfg) s ≠ .error (.wait p cause)) → Tidy l ks) := by
  refine run_asked H (Q := fun ks => ∀ l, unreaped l = [] → Tidy l ks)
    (P := fun ks r => ∀ l, unreaped l = [] → Orderly l ks ∧
      ((∀ p cause, r ≠ .error (.wait p cause)) → Tidy l ks))
    (fun l hl => .nil hl) (fun hks hls l hl => ?_) (fun l hl => .of_silent hl rfl rfl nofun)
    (fun b l hl => .of_silent hl rfl rfl nofun) (fun c ks o hp l hl => ?_)
    (fun r hks l hl => ⟨(hks l hl).toOrderly, fun _ => hks l hl⟩)
    (fun c ls e hks hp l hl => ?_) hw (Sink.takes_empty limit)
  · exact .append (hks l hl).toOrderly (hls _ (hks l hl).none)
  · cases hp with
    | skipped verdict => exact .nil hl
    | executed verdict run => exact run.tidy hl nofun
  · cases hp with
    | executed verdict run =>
      have before := hks l hl
      refine ⟨.append before.toOrderly (run.orderly before.none), fun kept => ?_⟩
      refine .append before.toOrderly (run.tidy before.none fun p cause he => kept p cause ?_)
      exact congrArg Except.error (Except.error.inj he)

/-- At no moment of a run more than one child is not reaped, and at its end none is, whatever the run
ends with, unless it ends because a child could not be waited for. That never comes of killing one:
it has been seen of the child itself. An execution that ends with an overrun or an interrupt has
killed its child and waited for it, or has found that it had been waited for already. -/
theorem run_reaps (H : h.Reaps sane waited) (st : Report.Style) (cfg : Config) (w : σ)
    (limit : Option Nat) (hw : sane w) :
    let s := Session.start w limit
    let ks := s.asked (run h.logged st cfg)
    let r := answer (run h st cfg) s
    Ledger.Orderly [] ks ∧
    ((∀ p cause, r ≠ .error (.wait p cause)) → Ledger.Tidy [] ks) ∧
    (∀ p cause, r = .error (.wait p cause) → .saw (.lost cause) ∈ ks) ∧
    ∀ i c (u : Session σ), sane u.world →
      answer (execute h i c) u = .ok .timedOut ∨ answer (execute h i c) u = .error .interrupted →
      ∃ ks last, u.asked (execute h.logged i c) = ks ++ last ∧
        Terminated (Ledger.unreaped (Ledger.run [] ks) = []) last ∧
        Ledger.unreaped (Ledger.run [] (ks ++ last)) = [] := by
  intro s ks r
  obtain ⟨orderly, tidy⟩ := run_ledger H st cfg limit hw [] rfl
  refine ⟨orderly, tidy, fun p cause ha => ?_, fun i c u hu ha => ?_⟩
  · obtain ⟨t, hr, hlog, -⟩ := run_ran H st cfg s hw (Sink.takes_empty limit)
    have hcalls : t.calls = ks := congrArg (List.map Moment.call) hlog
    rw [show answer (run h st cfg) s = _ from ha] at hr
    exact hcalls ▸ hr.lost
  · exact (execute_executed H i c u hu).down ha

/-- The only example exits and leaves something behind that holds its output open until its time
is up. It has been waited for by then, and killing it fails. -/
theorem held_reaps :
    let s := Session.start (.ready Script.disk₁ fun _ =>
      .ok ⟨[.exited (.code 0), .errClosed 0, .elapsed], false⟩) none
    Ledger.Tidy [] (s.asked (run (Script.host []).logged .plain Script.config₁)) ∧
      Call.polled (.ok (some (.code 0))) ∈
        s.asked (run (Script.host []).logged .plain Script.config₁) := by
  intro s
  obtain ⟨-, tidy, -⟩ := run_reaps (Script.host_reaps []) .plain Script.config₁ s.world none trivial
  refine ⟨tidy fun p cause he => ?_, by decide +kernel⟩
  have completed : answer (run (Script.host []) .plain Script.config₁) s =
      .ok ⟨0, 1, 0, [Bytes.ofString "examples/a.franz"]⟩ := by
    rw [answer_eq_ok]
    decide +kernel
  cases completed.symm.trans he

end Harness

end ExampleSuite
