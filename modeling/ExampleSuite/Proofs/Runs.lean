import ExampleSuite.Proofs.Script
import ExampleSuite.Proofs.Turns

/-!
Whole runs.

A run is refused before anything is printed, or fails to print its banner, or is stopped in the
turn of an example, or goes through all examples and ends with a summary that is printed or does
not fit.
-/

namespace ExampleSuite

variable {σ : Type} {sane waited : σ → Prop}

/-- At all moments a walk from the root would see the same as in the tree `T`. -/
def Host.Still (h : Host σ) (root : Path) (T : Tree) (ms : List (Moment σ)) : Prop :=
  ∀ m ∈ ms, T.AlikeBelow h.cwd root (h.disk m.state).tree

lemma Host.Still.of_subset {h : Host σ} {root : Path} {T : Tree} {ms ns : List (Moment σ)}
    (still : h.Still root T ns) (sub : ms ⊆ ns) : h.Still root T ms := fun m hm => still m (sub hm)

/-- The examples of a run over a tree that stays as it is. -/
def Config.examples (cfg : Config) (t : Tree) (cwd : Place) : List Candidate :=
  (⟨cfg.root, cfg.extension⟩ : Corpus).examples t cwd

lemma Corpus.eq_of_at? {t : Tree} {cwd : Place} {root : Path} {extension : String} {c : Corpus}
    (h : Corpus.at? t cwd root extension = .ok c) : c = ⟨root, extension⟩ := by
  unfold Corpus.at? at h
  split at h
  · split at h <;> cases h
    rfl
  · cases h

/-- A part of the log has been printed, as far as it fits, and nothing else has happened. -/
structure Printed (st : Report.Style) (ps : List Report.Piece) (s t : Session (Logged σ)) :
    Prop where
  log : t.log = s.log
  out : t.out = s.out.put (Report.render st ps)
  judged : considered t.told = considered s.told

lemma Printed.calls {st : Report.Style} {ps : List Report.Piece} {s t : Session (Logged σ)}
    (h : Printed st ps s t) : t.calls = s.calls := congrArg (List.map Moment.call) h.log

/-- All checks have been passed, the banner has been printed, and the turns can begin. -/
structure Began (st : Report.Style) (s t : Session (Logged σ)) : Prop where
  calls : t.calls = s.calls ++ [.listened]
  out : t.out = s.out.put (Report.render st Report.banner)
  takes : s.out.Takes (Report.render st Report.banner)
  tally : t.tally = .empty
  judged : considered t.told = considered s.told
  current : Host.Current t.world

namespace Began

variable {cfg : Config} {st : Report.Style} {s u v : Session (Logged σ)} {ts : List Turn}

lemma limit (began : Began st s u) (went : Went cfg st u v ts) : v.out.limit = s.out.limit := by
  rw [went.limit, began.out, Sink.limit_put]

lemma calls_turns (began : Began st s u) (went : Went cfg st u v ts) :
    v.calls = s.calls ++ .listened :: ts.flatMap Turn.calls := by
  rw [went.calls, began.calls, List.append_assoc]
  rfl

lemma out_turns (began : Began st s u) (went : Went cfg st u v ts) :
    v.out = s.out.put (Report.render st Report.banner ++ ts.flatMap (Turn.line st)) := by
  rw [went.out, began.out, Sink.put_put]

/-- The banner and the lines of the turns fit. -/
lemma takes_turns (began : Began st s u) (went : Went cfg st u v ts) :
    s.out.Takes (Report.render st Report.banner ++ ts.flatMap (Turn.line st)) := by
  rw [Sink.takes_append]
  exact ⟨began.takes, began.out ▸ went.takes⟩

lemma tally_turns (began : Began st s u) (went : Went cfg st u v ts) :
    v.tally = Summary.empty.recordAll (ts.map Turn.result) := by
  rw [went.tally, began.tally]

lemma judged_turns (began : Began st s u) (went : Went cfg st u v ts) :
    considered v.told = considered s.told ++ ts.map (·.candidate.path) := by
  rw [went.judged, began.judged]

end Began

/-- How a run leads from `s` to `t`, and what it ends with. -/
inductive Ran (h : Host σ) (sane : σ → Prop) (st : Report.Style) (cfg : Config)
    (s t : Session (Logged σ)) : Except Failure Summary → Prop where
  | refused {e : Failure}
      (why : cfg.interpreter.verify (h.disk s.world.1).tree h.cwd = .error e ∨
        Corpus.at? (h.disk s.world.1).tree h.cwd cfg.root cfg.extension = .error e)
      (calls : t.calls = s.calls) (out : t.out = s.out)
      (judged : considered t.told = considered s.told) : Ran h sane st cfg s t (.error e)
  | mute (full : ¬ s.out.Takes (Report.render st Report.banner))
      (calls : t.calls = s.calls ++ [.listened])
      (out : t.out = s.out.put (Report.render st Report.banner))
      (judged : considered t.told = considered s.told) :
      Ran h sane st cfg s t (.error (.output .sinkFull))
  | halted {u v : Session (Logged σ)} {ts : List Turn} {c : Candidate} {e : Failure}
      (began : Began st s u) (went : Went cfg st u v ts) (halted : Halted cfg st v t c e)
      (found : ∀ T, h.Still cfg.root T t.log →
        ts.map (·.candidate) ++ [c] <+: cfg.examples T h.cwd) :
      Ran h sane st cfg s t (.error e)
  | unsummed {u v : Session (Logged σ)} {ts : List Turn}
      (began : Began st s u) (went : Went cfg st u v ts)
      (found : ∀ T, h.Still cfg.root T t.log → ts.map (·.candidate) = cfg.examples T h.cwd)
      (full : ¬ v.out.Takes (Report.render st (Report.summary v.tally)))
      (printed : Printed st (Report.summary v.tally) v t) :
      Ran h sane st cfg s t (.error (.output .sinkFull))
  | finished {u v : Session (Logged σ)} {ts : List Turn}
      (began : Began st s u) (went : Went cfg st u v ts)
      (found : ∀ T, h.Still cfg.root T t.log → ts.map (·.candidate) = cfg.examples T h.cwd)
      (takes : v.out.Takes (Report.render st (Report.summary v.tally)))
      (printed : Printed st (Report.summary v.tally) v t)
      (earned : ∀ x ∈ ts, x.Earned h sane cfg) :
      Ran h sane st cfg s t (.ok v.tally)

namespace Harness

open Act

/-- The part of a run after the banner, with an empty tally. -/
def summed (h : Host σ) (st : Report.Style) (cfg : Config) : Act σ Summary := do
  (walk h st cfg).run cfg.root
  let sum := (← get).tally
  tell (.finished sum.passed sum.failed sum.skipped sum.total)
  print st (Report.summary sum)
  return sum

/-- The part of a run after the checks. -/
def announced (h : Host σ) (st : Report.Style) (cfg : Config) : Act σ Summary := do
  act fun s => (h.listen s, ())
  print st Report.banner
  modify fun s => { s with tally := .empty }
  summed h st cfg

/-! ### The checks -/

lemma openCorpus_run (disk : σ → Disk) (cwd : Place) (root : Path) (extension : String)
    (s : Session σ) : (openCorpus disk cwd root extension).run s =
      match Corpus.at? (disk s.world).tree cwd root extension with
      | .error e => .error e s
      | .ok c => .ok c (after (tell (.opened root extension)) s) := by
  show (Act.ofExcept (Corpus.at? (disk s.world).tree cwd root extension) >>=
    fun c => tell (.opened root extension) >>= fun _ => pure c).run s = _
  cases Corpus.at? (disk s.world).tree cwd root extension <;> rfl

section

variable (h : Host σ) (st : Report.Style) {cfg : Config} {s : Session σ} {e : Failure}

lemma run_of_unverified (refused : cfg.interpreter.verify (h.disk s.world).tree h.cwd = .error e) :
    answer (run h st cfg) s = .error e ∧ after (run h st cfg) s = s := by
  unfold run
  rw [answer_look_bind, after_look_bind, refused]
  exact ⟨rfl, rfl⟩

variable (verified : cfg.interpreter.verify (h.disk s.world).tree h.cwd = .ok ())
include verified

lemma run_verified : (run h st cfg).run s =
    (openCorpus h.disk h.cwd cfg.root cfg.extension >>= fun _ => announced h st cfg).run s := by
  unfold run
  rw [run_look_bind, verified]
  show (openCorpus h.disk h.cwd cfg.root cfg.extension >>= _).run s = _
  rw [EStateM.run_bind, EStateM.run_bind, openCorpus_run]
  cases hc : Corpus.at? (h.disk s.world).tree h.cwd cfg.root cfg.extension with
  | error e => rfl
  | ok c =>
    obtain rfl := Corpus.eq_of_at? hc
    rfl

lemma run_of_unopened
    (missing : Corpus.at? (h.disk s.world).tree h.cwd cfg.root cfg.extension = .error e) :
    answer (run h st cfg) s = .error e ∧ after (run h st cfg) s = s := by
  have hrun := run_verified h st verified
  rw [EStateM.run_bind, openCorpus_run, missing] at hrun
  exact ⟨by rw [answer, hrun], by rw [after, hrun]⟩

/-- A run that passes the checks goes on to announce itself. -/
lemma run_of_opened {c : Corpus}
    (opened : Corpus.at? (h.disk s.world).tree h.cwd cfg.root cfg.extension = .ok c) :
    let u := after (tell (.opened cfg.root cfg.extension)) s
    answer (run h st cfg) s = answer (announced h st cfg) u ∧
      after (run h st cfg) s = after (announced h st cfg) u := by
  have hrun := run_verified h st verified
  rw [EStateM.run_bind, openCorpus_run, opened] at hrun
  exact ⟨by rw [answer, hrun]; rfl, by rw [after, hrun]; rfl⟩

end

/-! ### The banner and the summary -/

section

variable {h : Host σ} (st : Report.Style) (cfg : Config) {s : Session σ} (hout : s.out.Takes [])

/-- The session after the banner, as far as it fits, with the tally given. -/
def bannered (h : Host σ) (st : Report.Style) (s : Session σ) (y : Summary) : Session σ where
  world := h.listen s.world
  out := s.out.put (Report.render st Report.banner)
  told := s.told
  tally := y

include hout in
lemma announced_of_takes (takes : s.out.Takes (Report.render st Report.banner)) :
    answer (announced h st cfg) s = answer (summed h st cfg) (bannered h st s .empty) ∧
      after (announced h st cfg) s = after (summed h st cfg) (bannered h st s .empty) := by
  set u := after (act fun a => (h.listen a, ())) s
  have hprint : answer (print st Report.banner) u = .ok () :=
    answer_print_of_takes (s := u) st _ hout takes
  have hafter : after (print st Report.banner) u = bannered h st s s.tally :=
    after_print (s := u) st _ hout
  unfold announced
  rw [answer_act_bind, after_act_bind, answer_bind_ok hprint, after_bind_ok hprint, hafter]
  exact ⟨rfl, rfl⟩

include hout in
lemma announced_of_not_takes (full : ¬ s.out.Takes (Report.render st Report.banner)) :
    answer (announced h st cfg) s = .error (.output .sinkFull) ∧
      after (announced h st cfg) s = bannered h st s s.tally := by
  set u := after (act fun a => (h.listen a, ())) s
  have hprint : answer (print st Report.banner) u = .error (.output .sinkFull) :=
    answer_print_of_not_takes (s := u) st _ hout full
  have hafter : after (print st Report.banner) u = bannered h st s s.tally :=
    after_print (s := u) st _ hout
  unfold announced
  rw [answer_act_bind, after_act_bind, answer_bind_error hprint, after_bind_error hprint, hafter]
  exact ⟨rfl, rfl⟩

omit hout in
/-- After its walk a run asks nothing more of the system. -/
lemma summed_world : (after (summed h st cfg) s).world =
    (after ((walk h st cfg).run cfg.root) s).world := by
  unfold summed
  cases ha : answer ((walk h st cfg).run cfg.root) s with
  | error e => rw [after_bind_error ha]
  | ok u =>
    rw [after_bind_ok ha, after_bind_ok (answer_get _), after_get]
    dsimp only
    rw [after_tell_bind, after_bind]
    split <;> exact world_print st _

/-- After its walk a run prints its summary, as far as it fits. -/
lemma summed_of_walk {u : Session σ} (walk_ok : answer ((walk h st cfg).run cfg.root) s = .ok ())
    (walk_after : after ((walk h st cfg).run cfg.root) s = u) (huo : u.out.Takes []) :
    answer (summed h st cfg) s =
        (if u.out.Takes (Report.render st (Report.summary u.tally)) then .ok u.tally
          else .error (.output .sinkFull) : Except Failure Summary) ∧
      after (summed h st cfg) s = {
        world := u.world
        out := u.out.put (Report.render st (Report.summary u.tally))
        told := u.told ++ [.finished u.tally.passed u.tally.failed u.tally.skipped u.tally.total]
        tally := u.tally } := by
  set v := after (tell (.finished u.tally.passed u.tally.failed u.tally.skipped u.tally.total)) u
  have hafter := after_print (s := v) st (Report.summary u.tally) huo
  unfold summed
  rw [answer_bind_ok walk_ok, after_bind_ok walk_ok, walk_after, answer_bind_ok (answer_get u),
    after_bind_ok (answer_get u), after_get]
  dsimp only
  rw [answer_tell_bind, after_tell_bind]
  by_cases hf : u.out.Takes (Report.render st (Report.summary u.tally))
  · have hprint := answer_print_of_takes (s := v) st (Report.summary u.tally) huo hf
    rw [if_pos hf, answer_bind_ok hprint, after_bind_ok hprint, hafter]
    exact ⟨rfl, rfl⟩
  · have hprint := answer_print_of_not_takes (s := v) st (Report.summary u.tally) huo hf
    rw [if_neg hf, answer_bind_error hprint, after_bind_error hprint, hafter]
    exact ⟨rfl, rfl⟩

end

/-! ### The turns -/

/-- A walk over a tree that stays as it is below the root goes through the finds in it. -/
lemma walk_still {h : Host σ} {T : Tree} (st : Report.Style) (cfg : Config)
    {s : Session (Logged σ)} (current : Host.Current s.world)
    (still : h.Still cfg.root T (after ((walk h.logged st cfg).run cfg.root) s).log) :
    ((walk h.logged st cfg).run cfg.root).run s =
      (forM (Find.all T h.cwd (Bytes.ofString cfg.extension) cfg.root)
        (walk h.logged st cfg).handle).run s := by
  refine Walk.run_follows (P := fun u => Host.Current u.world)
    (Q := fun u => h.Still cfg.root T u.log)
    ⟨handle_closed h.logged_current st cfg, fun f u hu => ?_, fun u ⟨m, hm, hu⟩ hT => ?_⟩
    s current still
  · have grown : u.log <+: (after ((walk h.logged st cfg).handle f) u).log :=
      handle_closed (h.logged_grows u.log) st cfg f u (List.prefix_refl _)
    exact hu.of_subset grown.subset
  · have halike := hT m hm
    rwa [hu] at halike

/-- Whether or not its tree stays as it is, a walk goes through some finds. If it does they are
those of the tree. -/
lemma walk_finds (h : Host σ) (st : Report.Style) (cfg : Config) {s : Session (Logged σ)}
    (current : Host.Current s.world) :
    ∃ fs, ((walk h.logged st cfg).run cfg.root).run s =
        (forM fs (walk h.logged st cfg).handle).run s ∧
      ∀ T, h.Still cfg.root T (after ((walk h.logged st cfg).run cfg.root) s).log →
        examplesOf fs = cfg.examples T h.cwd := by
  by_cases hstill :
      ∃ T, h.Still cfg.root T (after ((walk h.logged st cfg).run cfg.root) s).log
  · obtain ⟨T, hT⟩ := hstill
    refine ⟨_, walk_still st cfg current hT, fun U hU => ?_⟩
    -- both trees are like the one that the walk begins with
    obtain ⟨m, hm, hs⟩ := current
    have grown : s.log <+: (after ((walk h.logged st cfg).run cfg.root) s).log :=
      Walk.run_keeps (handle_closed (h.logged_grows s.log) st cfg) cfg.root (List.prefix_refl _)
    have hTm := hT m (grown.subset hm)
    have hUm := hU m (grown.subset hm)
    rw [← Corpus.examples_alike (c := ⟨cfg.root, cfg.extension⟩) hTm,
      Corpus.examples_alike (c := ⟨cfg.root, cfg.extension⟩) hUm, Config.examples,
      Corpus.examples_eq]
  · obtain ⟨fs, hfs⟩ := (walk h.logged st cfg).run_goes cfg.root s
    exact ⟨fs, hfs, fun T hT => absurd ⟨T, hT⟩ hstill⟩

variable {h : Host σ} (H : h.Reaps sane waited)
include H

theorem walk_logged (st : Report.Style) (cfg : Config) (s : Session (Logged σ))
    (hs : sane s.world.1) (current : Host.Current s.world) (hout : s.out.Takes []) :
    ∃ ts : List Turn,
      (answer ((walk h.logged st cfg).run cfg.root) s = .ok () ∧
        Went cfg st s (after ((walk h.logged st cfg).run cfg.root) s) ts ∧
        (∀ T, h.Still cfg.root T (after ((walk h.logged st cfg).run cfg.root) s).log →
          ts.map (·.candidate) = cfg.examples T h.cwd) ∧
        ∀ x ∈ ts, x.Earned h sane cfg) ∨
      (∃ u c e, answer ((walk h.logged st cfg).run cfg.root) s = .error e ∧
        Went cfg st s u ts ∧
        Halted cfg st u (after ((walk h.logged st cfg).run cfg.root) s) c e ∧
        ∀ T, h.Still cfg.root T (after ((walk h.logged st cfg).run cfg.root) s).log →
          ts.map (·.candidate) ++ [c] <+: cfg.examples T h.cwd) := by
  obtain ⟨fs, hf, hfound⟩ := walk_finds h st cfg current
  rw [answer_congr hf]
  rw [after_congr hf] at hfound ⊢
  obtain ⟨ts, ⟨ha, hw, hts, hte⟩ | ⟨u, c, e, ha, hw, hh, hts⟩⟩ :=
    finds_logged H st cfg fs s hs hout
  · exact ⟨ts, .inl ⟨ha, hw, fun T hT => hts.trans (hfound T hT), hte⟩⟩
  · exact ⟨ts, .inr ⟨u, c, e, ha, hw, hh, fun T hT => hfound T hT ▸ hts⟩⟩

lemma summed_logged (st : Report.Style) (cfg : Config) {s u : Session (Logged σ)}
    (began : Began st s u) (hs : sane u.world.1) :
    Ran h sane st cfg s (after (summed h.logged st cfg) u) (answer (summed h.logged st cfg) u) := by
  obtain ⟨ts, ⟨ha, hw, hts, hte⟩ | ⟨v, c, e, ha, hw, hh, hts⟩⟩ :=
    walk_logged H st cfg u hs began.current (began.out ▸ Sink.takes_nil_put _ _)
  · set v := after ((walk h.logged st cfg).run cfg.root) u with hv
    obtain ⟨hra, hrt⟩ := summed_of_walk st cfg ha hv.symm hw.out_takes
    have printed : Printed st (Report.summary v.tally) v (after (summed h.logged st cfg) u) := by
      rw [hrt]
      exact ⟨rfl, rfl, (Moved.tell v (.finished _ _ _ _)).judged.trans (List.append_nil _)⟩
    rw [← printed.log] at hts
    rw [hra]
    by_cases hf : v.out.Takes (Report.render st (Report.summary v.tally))
    · rw [if_pos hf]
      exact .finished began hw hts hf printed hte
    · rw [if_neg hf]
      exact .unsummed began hw hts hf printed
  · unfold summed
    rw [answer_bind_error ha, after_bind_error ha]
    exact .halted began hw hh hts

lemma announced_logged (st : Report.Style) (cfg : Config) {s t : Session (Logged σ)}
    (hm : Moved s t [] []) (hs : sane t.world.1) (hout : s.out.Takes []) :
    Ran h sane st cfg s (after (announced h.logged st cfg) t)
      (answer (announced h.logged st cfg) t) := by
  have hto : t.out.Takes [] := hm.out.symm ▸ hout
  have calls (y : Summary) : (bannered h.logged st t y).calls = s.calls ++ [.listened] :=
    (hm.trans (Moved.note t (fun _ : Unit => Call.listened) fun a => (h.listen a, ()))).calls
  have out (y : Summary) :
      (bannered h.logged st t y).out = s.out.put (Report.render st Report.banner) :=
    congrArg (Sink.put · _) hm.out
  have judged (y : Summary) : considered (bannered h.logged st t y).told = considered s.told :=
    hm.judged.trans (List.append_nil _)
  have current : Host.Current (bannered h.logged st t .empty).world :=
    Host.current_note (fun _ : Unit => Call.listened) (fun a => (h.listen a, ())) t.world
  by_cases hf : s.out.Takes (Report.render st Report.banner)
  · obtain ⟨ha, ht⟩ := announced_of_takes (h := h.logged) st cfg hto (hm.out.symm ▸ hf)
    rw [ha, ht]
    exact summed_logged H st cfg ⟨calls _, out _, hf, rfl, judged _, current⟩ (H.listen hs)
  · obtain ⟨ha, ht⟩ := announced_of_not_takes (h := h.logged) st cfg hto (hm.out.symm ▸ hf)
    rw [ha, ht]
    exact .mute hf (calls _) (out _) (judged _)

theorem run_logged (st : Report.Style) (cfg : Config) (s : Session (Logged σ))
    (hs : sane s.world.1) (hout : s.out.Takes []) :
    Ran h sane st cfg s (after (run h.logged st cfg) s) (answer (run h.logged st cfg) s) := by
  cases hv : cfg.interpreter.verify (h.disk s.world.1).tree h.cwd with
  | error e =>
    obtain ⟨ha, ht⟩ := run_of_unverified h.logged st hv
    rw [ha, ht]
    exact .refused (.inl hv) rfl rfl rfl
  | ok _ =>
    cases hc : Corpus.at? (h.disk s.world.1).tree h.cwd cfg.root cfg.extension with
    | error e =>
      obtain ⟨ha, ht⟩ := run_of_unopened h.logged st hv hc
      rw [ha, ht]
      exact .refused (.inr hc) rfl rfl rfl
    | ok c =>
      obtain ⟨ha, ht⟩ := run_of_opened h.logged st hv hc
      rw [ha, ht]
      exact announced_logged H st cfg (.tell s (.opened cfg.root cfg.extension)) hs hout

/-- A run, with what the system goes through, its output, its events and its answer. -/
theorem run_ran (st : Report.Style) (cfg : Config) (s : Session σ) (hs : sane s.world)
    (hout : s.out.Takes []) :
    ∃ t, Ran h sane st cfg s.logged t (answer (run h st cfg) s) ∧
      t.log = s.passed (run h.logged st cfg) ∧ t.out = (after (run h st cfg) s).out ∧
      t.told = (after (run h st cfg) s).told := by
  obtain ⟨ha, ht⟩ := run_alike (Host.logged_agree h) st cfg s.logged s s.logged_agree
  refine ⟨_, ?_, rfl, ht.out, ht.told⟩
  rw [← ha]
  exact run_logged H st cfg s.logged hs hout

/-- `Q` is to hold of the calls of turns that come to their end, and `P` of all calls up to an end of
a run. Both are known of a run if they are known of an example at a time, if `Q` passes from two lists
of calls to both together, and if `P` holds wherever `Q` holds and goes on after it. -/
theorem run_asked {Q : List Call → Prop} {P : List Call → Except Failure Summary → Prop}
    {st : Report.Style} {cfg : Config} (nil : Q [])
    (append : ∀ {ks ls}, Q ks → Q ls → Q (ks ++ ls)) (listened : Q [.listened])
    (checked : ∀ b, Q [.checked b]) (dealt : ∀ c ks o, Processed cfg c ks (.ok o) → Q ks)
    (still : ∀ {ks} r, Q ks → P ks r)
    (failed : ∀ {ks} c ls e, Q ks → Processed cfg c ls (.error e) → P (ks ++ ls) (.error e))
    {s : Session σ} (hs : sane s.world) (hout : s.out.Takes []) :
    P (s.asked (run h.logged st cfg)) (answer (run h st cfg) s) := by
  have turns {u v : Session (Logged σ)} {ts : List Turn} (began : Began st s.logged u)
      (went : Went cfg st u v ts) : Q v.calls := by
    rw [went.calls, began.calls]
    refine append (append nil listened) ?_
    have hts := went.processed
    clear went began
    induction ts with
    | nil => exact nil
    | cons x ts ih =>
      rw [List.flatMap_cons]
      refine append (append (dealt _ _ _ (hts x List.mem_cons_self)) (checked false)) ?_
      exact ih fun y hy => hts y (List.mem_cons_of_mem x hy)
  obtain ⟨t, hr, hlog, -, -⟩ := run_ran H st cfg s hs hout
  have hc : t.calls = s.asked (run h.logged st cfg) := congrArg (List.map Moment.call) hlog
  rw [← hc]
  generalize answer (run h st cfg) s = r at hr ⊢
  cases hr with
  | refused why calls out judged => exact still _ (calls ▸ nil)
  | mute full calls out judged => exact still _ (calls ▸ listened)
  | halted began went halted found =>
    obtain ⟨ks, hstop, hks⟩ := halted.stopped
    rw [hks]
    have before := turns began went
    generalize t.out = out at hstop
    cases hstop with
    | failed verdict => exact failed _ _ _ before verdict
    | unwritten verdict full => exact still _ (append before (dealt _ _ _ verdict))
    | interrupted verdict takes =>
      exact still _ (append before (append (dealt _ _ _ verdict) (checked true)))
  | unsummed began went found full printed => exact still _ (printed.calls ▸ turns began went)
  | finished began went found takes printed => exact still _ (printed.calls ▸ turns began went)

end Harness

namespace Harness

/-- Nothing comes between a run and its end: every child can be started and none is lost, no
interrupt comes, and below the root the tree stays as it is. -/
structure Undisturbed (h : Host σ) (st : Report.Style) (cfg : Config) (s : Session σ) : Prop where
  calm : ∀ k ∈ s.asked (run h.logged st cfg), k.Calm
  tracked : Tracked (s.asked (run h.logged st cfg))
  still : h.Still cfg.root (h.disk s.world).tree (s.passed (run h.logged st cfg))

end Harness

/-! ### Runs of a quiet script -/

namespace Script

variable {disk : Disk} {scene : Path → Scene} (cwd : Place) (hscene : ∀ c, Calm (scene c))
  (st : Report.Style) (cfg : Config) (limit : Option Nat)
include hscene

/-- Whatever the disk, however the children go, if they go calmly, and whatever the run: nothing
disturbs it. -/
theorem quiet_undisturbed : Harness.Undisturbed (host cwd) st cfg
    (.start (ready disk fun c => .ok (scene c)) limit) := by
  obtain ⟨-, hall⟩ := Alike.closed (Harness.run_alike (quiet_logged cwd hscene).agree st cfg)
    (s := (Session.start (ready disk fun c => .ok (scene c)) limit).logged)
    ⟨quiet_ready disk scene, fun m hm => absurd hm List.not_mem_nil⟩
  refine ⟨fun k hk => ?_, fun cause hk => ?_, fun m hm => ?_⟩
  · obtain ⟨m, hm, rfl⟩ := List.mem_map.mp hk
    exact (hall m hm).1
  · obtain ⟨m, hm, he⟩ := List.mem_map.mp hk
    exact (hall m hm).2.1 cause he
  · have hdisk : (host cwd).disk m.state = disk := (hall m hm).2.2
    rw [hdisk]
    exact .refl disk.tree cwd cfg.root

omit hscene in
lemma mixed_undisturbed (st : Report.Style) (limit : Option Nat) :
    Harness.Undisturbed (host []) st config₆ (.start mixed limit) :=
  quiet_undisturbed [] scene₆_calm st config₆ limit

omit hscene in
lemma mixed_opened : Corpus.at? ((host []).disk mixed).tree (host []).cwd config₆.root
    config₆.extension = .ok ⟨config₆.root, config₆.extension⟩ :=
  Corpus.at?_eq_ok_iff.mpr ⟨by decide +kernel, rfl⟩

end Script

end ExampleSuite
