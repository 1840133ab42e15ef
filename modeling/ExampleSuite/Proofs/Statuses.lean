import ExampleSuite.Program
import ExampleSuite.Proofs.Abort
import ExampleSuite.Proofs.Completion
import ExampleSuite.Proofs.Listing

/-!
What the exit status of the program says.

Arguments that are refused and faults of the configuration end the program before anything is
printed or started, and the first fault is the one that is told. Beyond them the status says how the
run ended: with a summary, by an interrupt, or because an interpreter could not be started or could
not be waited for.
-/

namespace ExampleSuite

variable {σ : Type} {sane waited : σ → Prop}

/-! ### Faults of a configuration -/

namespace Options

/-- The rules of a file, with what is told of them. -/
def fileRules (d : Disk) (cwd : Place) (p : Path) : Except Failure (Exclusions × List Log.Event) :=
  match d.readText cwd p with
  | .error cause => .error (.ruleFile p cause)
  | .ok text =>
    match RuleFile.parse text with
    | .error e => .error (.ruleFileFormat p e)
    | .ok x => .ok (x, [.rulesLoaded p x.files.length x.patterns.length])

/-- The rules that the options add to. -/
def baseRules (d : Disk) (cwd : Place) :
    Option Path → Except Failure (Exclusions × List Log.Event)
  | none => .ok (.builtin, [])
  | some p => fileRules d cwd p

/-- What is to be run, if the options add to the given rules. -/
def settled (o : Options) (x : Exclusions) : Config where
  root := o.examples
  extension := o.extension
  interpreter := ⟨o.interpreter, o.timeout * 1000⟩
  rules := (x.addFiles o.skips).addPatterns o.patterns

lemma load_run (disk : σ → Disk) (cwd : Place) (p : Path) (s : Session σ) :
    (RuleFile.load disk cwd p).run s =
      match fileRules (disk s.world) cwd p with
      | .error f => .error f s
      | .ok (x, es) => .ok x { s with told := s.told ++ es } := by
  unfold RuleFile.load fileRules
  rw [Act.run_look_bind]
  cases (disk s.world).readText cwd p with
  | error c => rfl
  | ok text =>
    dsimp only
    cases RuleFile.parse text <;> rfl

lemma config_run (o : Options) (disk : σ → Disk) (cwd : Place) (s : Session σ) :
    (o.config disk cwd).run s =
      match baseRules (disk s.world) cwd o.rules with
      | .error f => .error f s
      | .ok (x, es) => .ok (o.settled x) { s with told := s.told ++ es } := by
  unfold config
  cases o.rules with
  | none =>
    show EStateM.Result.ok (o.settled .builtin) s = .ok _ { s with told := s.told ++ [] }
    rw [List.append_nil]
  | some p =>
    dsimp only [baseRules]
    rw [EStateM.run_bind, load_run]
    cases fileRules (disk s.world) cwd p <;> rfl

end Options

/-! ### How a run ends -/

/-- The call found an interrupt. -/
def Call.interrupts : Call → Bool
  | .saw .interrupted | .checked true => true
  | _ => false

/-- The call failed to start an interpreter. -/
def Call.refuses : Call → Bool
  | .started _ _ _ (.error _) => true
  | _ => false

lemma Call.calm_iff {k : Call} : k.Calm ↔ k.interrupts = false ∧ k.refuses = false := by
  rcases k with _ | ⟨_, _, _, _ | _⟩ | (_ | _ | _ | _ | _ | _) | _ | _ | (_ | _) <;>
    simp [Calm, interrupts, refuses]

/-- The last child is lost: once both its outputs have been closed, it turns out that waiting for it
has failed. -/
inductive LosesChild : List Call → Prop where
  | mk {ls : List Call} {p : Path} {c : Candidate} {n pid : Nat} {es : List Sight} {cause : Cause}
      (free : ∀ k ∈ ls, k.interrupts = false) (seen : Seen c es (.error (.wait c.path cause))) :
      LosesChild (ls ++ .started p c.path n (.ok pid) :: es.map .saw)

/-- How a run ends that has passed its checks: after the turns `ts` and the calls `ks`. -/
inductive Concluded (ts : List Turn) (ks : List Call) : Except Failure Summary → Prop where
  | completed {sum : Summary} (calls : ks = .listened :: ts.flatMap Turn.calls)
      (calm : ∀ k ∈ ks, k.Calm)
      (status : sum.exitStatus = 0 ↔ ∀ x ∈ ts, x.outcome.isFailure = false) :
      Concluded ts ks (.ok sum)
  | interrupted (found : ∃ k ∈ ks, k.interrupts) (started : ∀ k ∈ ks, k.refuses = false) :
      Concluded ts ks (.error .interrupted)
  | refused {p : Path} {cause : Cause} (failed : ∃ k ∈ ks, k.refuses)
      (free : ∀ k ∈ ks, k.interrupts = false) : Concluded ts ks (.error (.spawn p cause))
  | lost {p : Path} {cause : Cause} (gone : LosesChild ks) :
      Concluded ts ks (.error (.wait p cause))

lemma Concluded.calls {ts : List Turn} {ks : List Call} {r : Except Failure Summary}
    (h : Concluded ts ks r) {sum : Summary} (ok : r = .ok sum) :
    ks = .listened :: ts.flatMap Turn.calls := by
  cases h with
  | completed calls calm status => exact calls
  | _ => cases ok

/-- A child that is watched has been started. -/
lemma Supervised.not_refused {c : Candidate} {ks : List Call} {r : Except Failure Outcome}
    (h : Supervised c ks r) : ∀ k ∈ ks, k.refuses = false := by
  intro k hk
  cases k with
  | started p c n r => exact absurd hk h.not_started
  | _ => rfl

/-- A child that ends a run does so because it is lost or because an interrupt comes. -/
lemma Supervised.concluded {c : Candidate} {p : Path} {n pid : Nat} {ts : List Turn}
    {ks ls : List Call} {e : Failure} (h : Supervised c ks (.error e))
    (free : ∀ k ∈ ls, k.interrupts = false) (started : ∀ k ∈ ls, k.refuses = false) :
    Concluded ts (ls ++ .started p c.path n (.ok pid) :: ks) (.error e) := by
  have seen := h.seen
  have rest := h.not_refused
  cases h with
  | lost all => exact .lost ⟨free, sights_map_saw _ ▸ seen⟩
  | stopped left short gone =>
    cases short
    refine .interrupted ⟨.saw .interrupted, by simp, rfl⟩ ?_
    exact List.forall_mem_append.mpr ⟨started, List.forall_mem_cons.mpr ⟨rfl, rest⟩⟩

/-- A turn that stopped a run with room for all output has found an interrupt, or has failed to
start the interpreter or to wait for it. -/
lemma Stopped.concluded {cfg : Config} {st : Report.Style} {out out' : Sink} {c : Candidate}
    {ts : List Turn} {ks ls : List Call} {e : Failure} (unlimited : out.limit = none)
    (h : Stopped cfg st out c ks out' e) (calm : ∀ k ∈ ls, k.Calm) :
    Concluded ts (ls ++ ks) (.error e) := by
  have free (k : Call) (hk : k ∈ ls) : k.interrupts = false := (Call.calm_iff.mp (calm k hk)).1
  have started (k : Call) (hk : k ∈ ls) : k.refuses = false := (Call.calm_iff.mp (calm k hk)).2
  cases h with
  | failed verdict =>
    cases verdict with
    | executed rule run =>
      cases run with
      | refused cause =>
        refine .refused ⟨_, List.mem_append_right _ (List.mem_singleton_self _), rfl⟩ ?_
        exact List.forall_mem_append.mpr ⟨free, by simp [Call.interrupts]⟩
      | started pid rest => exact rest.concluded free started
  | unwritten verdict full => exact absurd (Sink.takes_of_unlimited unlimited _) full
  | interrupted verdict takes =>
    refine .interrupted ⟨.checked true, by simp, rfl⟩ ?_
    rw [List.forall_mem_append, List.forall_mem_append]
    exact ⟨started, fun k hk => (Call.calm_iff.mp (verdict.calm k hk)).2, by simp [Call.refuses]⟩

/-- A run that passes its checks and has room for all its output deals with some examples, one after
the other, with all of them if it completes, and ends in one of four ways. -/
lemma Ran.concluded {h : Host σ} {st : Report.Style} {cfg : Config} {s t : Session (Logged σ)}
    {r : Except Failure Summary} (hr : Ran h sane st cfg s t r) (unlimited : s.out.limit = none)
    (fresh : s.calls = [])
    (verified : cfg.interpreter.verify (h.disk s.world.1).tree h.cwd = .ok ()) {corpus : Corpus}
    (opened : Corpus.at? (h.disk s.world.1).tree h.cwd cfg.root cfg.extension = .ok corpus) :
    ∃ ts : List Turn, (∀ x ∈ ts, x.Fair cfg) ∧ .listened :: ts.flatMap Turn.calls <+: t.calls ∧
      (∀ T sum, h.Still cfg.root T t.log → r = .ok sum →
        ts.map (·.candidate) = cfg.examples T h.cwd) ∧
      Concluded ts t.calls r := by
  have turns {u v : Session (Logged σ)} {ts : List Turn} (began : Began st s u)
      (went : Went cfg st u v ts) : v.calls = .listened :: ts.flatMap Turn.calls := by
    rw [began.calls_turns went, fresh, List.nil_append]
  cases hr with
  | refused why calls out judged =>
    rcases why with hv | hc
    · rw [verified] at hv
      cases hv
    · rw [opened] at hc
      cases hc
  | mute full calls out judged => exact absurd (Sink.takes_of_unlimited unlimited _) full
  | @halted u v ts c e began went halted found =>
    obtain ⟨ks, hstop, hks⟩ := halted.stopped
    rw [turns began went] at hks
    rw [hks]
    exact ⟨ts, fun x hx => (went.processed x hx).fair, List.prefix_append _ _, nofun,
      hstop.concluded ((began.limit went).trans unlimited) (Turn.calm_all went.processed)⟩
  | unsummed began went found full printed =>
    exact absurd (Sink.takes_of_unlimited ((began.limit went).trans unlimited) _) full
  | @finished u v ts began went found takes printed =>
    have hcalls : t.calls = .listened :: ts.flatMap Turn.calls :=
      printed.calls.trans (turns began went)
    refine ⟨ts, fun x hx => (went.processed x hx).fair, hcalls ▸ List.prefix_refl _,
      fun T _ hT _ => found T hT, .completed hcalls (hcalls ▸ Turn.calm_all went.processed) ?_⟩
    rw [began.tally_turns went, exitStatus_turns]

namespace Program

variable {h : Host σ} {x : Outlet} {o : Options} {s : Session σ}

/-- The exit status for what a run ends with. -/
def status : Except Failure Summary → Nat
  | .ok sum => sum.exitStatus
  | .error f => f.exitStatus

/-- What is shown of a failure at the end. -/
def shown (look : Diagnostic.Look) : Except Failure Summary → List String
  | .ok _ => []
  | .error f => Diagnostic.lines look f

/-- The variables of an empty environment. -/
def bare : Env := .ofVariables fun _ => none

/-- Arguments that ask for an interpreter that is looked up by its name. -/
def byName : List Bytes := [Bytes.ofString "--interpreter", Bytes.ofString "franz"]

/-- What these arguments ask for. -/
def left : Options where
  examples := Config.defaultRoot
  interpreter := Bytes.ofString "franz"
  extension := Config.defaultExtension
  timeout := Config.defaultTimeout
  skips := ["e.franz"]
  patterns := ["s/f"]
  rules := none
  color := .auto
  verbose := 0

/-- An example whose directory must not be listed. -/
def barred : Disk where
  tree := Script.disk₁.tree.bar [Bytes.ofString "examples"]
  files := #[]

/-- A child that cannot be waited for. -/
def gone : Scene := ⟨[.lost (.other "no child processes"), .outClosed 0, .errClosed 0], false⟩

end Program

end ExampleSuite
