import ExampleSuite.Proofs.Completion
import ExampleSuite.Proofs.Rules
import ExampleSuite.Proofs.Script
import Mathlib.Data.List.Basic

/-!
What becomes of a run when rules are added.

Rules that are added leave out more examples and let none in. So a run with the rules added deals
with the same examples, each that it executes is executed without them too, and comes to the same
there. The log changes only in the lines of the examples on which the rules decide otherwise, and in
the summary.
-/

namespace ExampleSuite

/-! ### Children whose fate is settled -/

/-- An example that comes to an outcome comes to the one settled for its path. -/
def Host.Settled {σ : Type} (h : Host σ) (sane : σ → Prop) (i : Interpreter)
    (fate : Path → Outcome) : Prop :=
  ∀ c (s : Session σ) o, sane s.world → answer (Execution.execute h i c) s = .ok o → o = fate c.path

namespace Script

variable (cwd : Place) (disk : Disk) (scene : Path → Scene)

/-- What an example comes to in a script in which every child can be started. -/
def fate (i : Interpreter) (p : Path) : Outcome :=
  match answer (Execution.execute (host cwd) i ⟨p⟩)
    (.start (.ready disk fun c => .ok (scene c)) none) with
  | .ok o => o
  | .error _ => .passed

/-- What is done with a child depends on the state of the script alone. -/
lemma respects_world : Host.Respects (fun s t => s.world = t.world) (host cwd) (host cwd) :=
  (host cwd).respects_of_world id (fun _ _ _ _ => rfl) fun _ _ _ hst => hst

/-- A script without interrupts in which every child can be started settles the fates of all. -/
lemma quiet_settled (i : Interpreter) :
    (host cwd).Settled (Quiet disk scene) i (fate cwd disk scene i) := by
  intro c s o hs ho
  set r : Session Script := .start (.ready disk fun c => .ok (scene c)) none
  have begun {t : Session Script} (ht : Quiet disk scene t.world) :
      (host cwd).start i.program c.path i.budget t.world =
        (⟨disk, fun c => .ok (scene c), scene c.path, none, false⟩, .ok 1) := by
    show start c.path t.world = _
    rw [start, ht.scene, ← ht.disk, ← ht.pending]
  have hr : Quiet disk scene r.world := quiet_ready disk scene
  have same : answer (Execution.execute (host cwd) i c) s =
      answer (Execution.execute (host cwd) i c) r := by
    unfold Execution.execute
    rw [Act.answer_act_bind, Act.answer_act_bind, begun hs, begun hr]
    refine (Execution.supervise_alike (respects_world cwd) i c _ _ ?_).1
    exact (congrArg Prod.fst (begun hs)).trans (congrArg Prod.fst (begun hr)).symm
  rw [fate, ← same, ho]

end Script

namespace Config

variable (cfg : Config) (fate : Path → Outcome) (c : Candidate)

/-- What an example comes to under the rules. -/
def outcome : Outcome :=
  match cfg.rules.evaluate c with
  | .skip r => .skipped r
  | .proceed => fate c.path

def line (st : Report.Style) : Bytes := Report.render st (Report.outcome c (cfg.outcome fate c))

/-- The configuration with rules added. -/
def extend (adds : List Addition) : Config :=
  { cfg with rules := adds.foldl Exclusions.extend cfg.rules }

variable {cfg fate c}

lemma outcome_congr {cfg' : Config} (same : cfg'.rules.evaluate c = cfg.rules.evaluate c) :
    cfg'.outcome fate c = cfg.outcome fate c := by
  rw [outcome, outcome, same]

lemma line_congr {cfg' : Config} (same : cfg'.rules.evaluate c = cfg.rules.evaluate c)
    (st : Report.Style) : cfg'.line fate c st = cfg.line fate c st := by
  rw [line, line, outcome_congr same]

/-- With rules added an example is skipped, or it comes to what it came to before. -/
lemma outcome_extend (cfg : Config) (fate : Path → Outcome) (c : Candidate)
    (adds : List Addition) :
    (∃ r, (cfg.extend adds).outcome fate c = .skipped r) ∨
      (cfg.extend adds).outcome fate c = cfg.outcome fate c := by
  cases hv : (cfg.extend adds).rules.evaluate c with
  | skip r => exact .inl ⟨r, by rw [outcome, hv]⟩
  | proceed => exact .inr (outcome_congr (hv.trans ((cfg.rules.within_foldl adds).proceed hv).symm))

/-- An example that is skipped is skipped with rules added. -/
lemma isSkipped_extend (adds : List Addition) (h : (cfg.outcome fate c).isSkipped) :
    ((cfg.extend adds).outcome fate c).isSkipped := by
  rcases outcome_extend cfg fate c adds with ⟨r, hr⟩ | same
  · rw [hr]
    rfl
  · rwa [same]

/-- What an example comes to with rules added, if it is not skipped, it came to before. -/
lemma of_extend {p : Outcome → Bool} (hp : ∀ r, p (.skipped r) = false) (adds : List Addition)
    (h : p ((cfg.extend adds).outcome fate c)) : p (cfg.outcome fate c) := by
  rcases outcome_extend cfg fate c adds with ⟨r, hr⟩ | same
  · rw [hr, hp] at h
    cases h
  · rwa [← same]

end Config

/-! ### Runs with settled fates -/

variable {σ : Type} {h : Host σ} {sane waited : σ → Prop} {fate : Path → Outcome}

lemma Turn.Earned.outcome_eq {cfg : Config} {x : Turn}
    (settled : h.Settled sane cfg.interpreter fate) (earned : x.Earned h sane cfg) :
    x.outcome = cfg.outcome fate x.candidate := by
  obtain ⟨s, hs, hx⟩ := earned
  unfold Harness.process at hx
  rw [Config.outcome]
  cases hv : cfg.rules.evaluate x.candidate with
  | skip r =>
    obtain ⟨e, he, -⟩ := Log.ofVerdict_skip hv
    rw [he, hv] at hx
    exact (Except.ok.inj hx).symm
  | proceed =>
    rw [Log.ofVerdict_proceed hv, hv] at hx
    exact settled x.candidate (after (Act.tell (.running x.candidate.path)) s) _ hs hx

/-- The run has dealt with some examples, in order, each came to what is settled for it, and the
log and the summary tell of that. -/
structure Accounts (h : Host σ) (fate : Path → Outcome) (st : Report.Style) (cfg : Config)
    (s : Session σ) (cs : List Candidate) (sum : Summary) : Prop where
  judged : considered (after (Harness.run h st cfg) s).told = cs.map (·.path)
  executed : started (s.asked (Harness.run h.logged st cfg)) =
    (cs.filter (cfg.rules.evaluate · = .proceed)).map (·.path)
  written : (after (Harness.run h st cfg) s).out.written = Report.render st Report.banner ++
    cs.flatMap (cfg.line fate · st) ++ Report.render st (Report.summary sum)
  counted : sum = Summary.empty.recordAll (cs.map fun c => (c, cfg.outcome fate c))

lemma Finished.accounts {st : Report.Style} {cfg : Config} {s : Session σ} {ts : List Turn}
    {sum : Summary} (f : Finished h sane st cfg s ts sum)
    (settled : h.Settled sane cfg.interpreter fate) :
    Accounts h fate st cfg s (ts.map (·.candidate)) sum where
  judged := by rw [f.judged, List.map_map]; rfl
  executed := by rw [f.executed, List.filter_map, List.map_map]; rfl
  written := by
    rw [f.written, wholeLog, List.flatMap_map]
    congr 2
    refine List.flatMap_congr fun x hx => ?_
    rw [Turn.line, Config.line, (f.earned x hx).outcome_eq settled]
  counted := by
    rw [f.counted, List.map_map]
    congr 1
    refine List.map_congr_left fun x hx => ?_
    rw [Turn.result, (f.earned x hx).outcome_eq settled]
    rfl

namespace Accounts

variable {st : Report.Style} {cfg : Config} {s : Session σ} {cs : List Candidate} {sum : Summary}

lemma total (a : Accounts h fate st cfg s cs sum) : sum.total = cs.length := by
  rw [a.counted, Summary.total_recordAll, List.length_map]
  exact Nat.zero_add _

lemma summary_eq (a : Accounts h fate st cfg s cs sum) : sum = {
    passed := cs.countP (cfg.outcome fate · |>.isPassed)
    failed := cs.countP (cfg.outcome fate · |>.isFailure)
    skipped := cs.countP (cfg.outcome fate · |>.isSkipped)
    failing := (cs.filter (cfg.outcome fate · |>.isFailure)).map (·.path) } := by
  rw [a.counted, Summary.recordAll_eq]
  simp [Summary.empty, Summary.failures, List.countP_map, List.filter_map, Function.comp_def]

lemma exitStatus_eq_zero_iff (a : Accounts h fate st cfg s cs sum) :
    sum.exitStatus = 0 ↔ ∀ c ∈ cs, (cfg.outcome fate c).isFailure = false := by
  rw [a.counted, Summary.exitStatus_recordAll]
  simp

end Accounts

namespace Harness

/-- Two runs over a tree that stays as it is below the root, the second with rules added, that both
end with a summary. They deal with the same examples, and the second executes some of those that the
first executes. It counts no more that passed or failed and no fewer that were skipped. The lines of
the examples on which the rules decide alike are the same in both logs. -/
theorem run_narrows (H : h.Reaps sane waited) (st : Report.Style) (cfg : Config)
    (settled : h.Settled sane cfg.interpreter fate) (adds : List Addition) {w w' : σ} (hw : sane w)
    (hw' : sane w') {limit limit' : Option Nat} {T : Tree}
    (still : h.Still cfg.root T ((Session.start w limit).passed (run h.logged st cfg)))
    (still' : h.Still cfg.root T
      ((Session.start w' limit').passed (run h.logged st (cfg.extend adds))))
    {sum sum' : Summary} (completed : answer (run h st cfg) (.start w limit) = .ok sum)
    (completed' : answer (run h st (cfg.extend adds)) (.start w' limit') = .ok sum') :
    let cfg' := cfg.extend adds
    let s := Session.start w limit
    let s' := Session.start w' limit'
    let cs := cfg.examples T h.cwd
    let alike := cs.filter fun c => cfg'.rules.evaluate c = cfg.rules.evaluate c
    Accounts h fate st cfg s cs sum ∧ Accounts h fate st cfg' s' cs sum' ∧
      sum'.total = sum.total ∧
      (started (s'.asked (run h.logged st cfg'))).Sublist
        (started (s.asked (run h.logged st cfg))) ∧
      sum'.failing.Sublist sum.failing ∧
      sum'.passed ≤ sum.passed ∧ sum'.failed ≤ sum.failed ∧ sum.skipped ≤ sum'.skipped ∧
      alike.map (cfg'.line fate · st) = alike.map (cfg.line fate · st) ∧
      (sum.exitStatus = 0 → sum'.exitStatus = 0) := by
  intro cfg' s s' cs alike
  obtain ⟨ts, f⟩ := run_finished H hw completed
  obtain ⟨ts', f'⟩ := run_finished H hw' completed'
  have a : Accounts h fate st cfg s (cfg.examples T h.cwd) sum :=
    f.found T still ▸ f.accounts settled
  have a' : Accounts h fate st cfg' s' (cfg'.examples T h.cwd) sum' :=
    f'.found T still' ▸ f'.accounts settled
  have proceeds (c : Candidate) (hc : cfg'.rules.evaluate c = .proceed) :
      cfg.rules.evaluate c = .proceed := (cfg.rules.within_foldl adds).proceed hc
  have passes (c : Candidate) : (cfg'.outcome fate c).isPassed → (cfg.outcome fate c).isPassed :=
    Config.of_extend (fun _ => rfl) adds
  have fails (c : Candidate) : (cfg'.outcome fate c).isFailure → (cfg.outcome fate c).isFailure :=
    Config.of_extend (fun _ => rfl) adds
  refine ⟨a, a', a'.total.trans a.total.symm, ?_, ?_, ?_, ?_, ?_, ?_, fun hzero => ?_⟩
  · rw [a.executed, a'.executed]
    refine (List.monotone_filter_right cs fun c hc => ?_).map _
    simpa using proceeds c (by simpa using hc)
  · rw [a.summary_eq, a'.summary_eq]
    exact (List.monotone_filter_right cs fails).map _
  · rw [a.summary_eq, a'.summary_eq]
    exact List.countP_mono_left fun c _ => passes c
  · rw [a.summary_eq, a'.summary_eq]
    exact List.countP_mono_left fun c _ => fails c
  · rw [a.summary_eq, a'.summary_eq]
    exact List.countP_mono_left fun c _ => Config.isSkipped_extend adds
  · refine List.map_congr_left fun c hc => ?_
    exact Config.line_congr (by simpa using (List.mem_filter.mp hc).2) st
  · refine a'.exitStatus_eq_zero_iff.mpr fun c hc => ?_
    have hpass := a.exitStatus_eq_zero_iff.mp hzero c hc
    exact Bool.eq_false_iff.mpr fun hf => Bool.false_ne_true (hpass.symm.trans (fails c hf))

/-- A child that fails. -/
def failing : Scene := ⟨[.exited (.code 3), .outClosed 0, .errClosed 0], false⟩

/-- The only example fails, and with its name added it is left out. -/
theorem failing_narrows :
    let adds : List Addition := [.patterns ["b"], .files ["b.franz", "a.franz"]]
    let s := Session.start (.ready Script.disk₁ fun _ => .ok failing) none
    let sum : Summary := ⟨0, 1, 0, [Bytes.ofString "examples/a.franz"]⟩
    let sum' : Summary := ⟨0, 0, 1, []⟩
    answer (run (Script.host []) .plain Script.config₁) s = .ok sum ∧
      answer (run (Script.host []) .plain (Script.config₁.extend adds)) s = .ok sum' ∧
      (started (s.asked (run (Script.host []).logged .plain (Script.config₁.extend adds)))).Sublist
        (started (s.asked (run (Script.host []).logged .plain Script.config₁))) := by
  intro adds s sum sum'
  have completed : answer (run (Script.host []) .plain Script.config₁) s = .ok sum := by
    rw [answer_eq_ok]
    decide +kernel
  have completed' :
      answer (run (Script.host []) .plain (Script.config₁.extend adds)) s = .ok sum' := by
    rw [answer_eq_ok]
    decide +kernel
  have calm (_ : Path) : Script.Calm failing := ⟨by simp [failing], by simp [failing], rfl⟩
  have ready := Script.quiet_ready Script.disk₁ fun _ => failing
  obtain ⟨-, -, -, hran, -⟩ := run_narrows (Script.quiet_reaps [] calm) .plain Script.config₁
    (Script.quiet_settled [] Script.disk₁ (fun _ => failing) Script.config₁.interpreter) adds
    ready ready (Script.quiet_undisturbed [] calm .plain Script.config₁ none).still
    (Script.quiet_undisturbed [] calm .plain (Script.config₁.extend adds) none).still
    completed completed'
  exact ⟨completed, completed', hran⟩

end Harness

end ExampleSuite
