import ExampleSuite.Harness
import ExampleSuite.Proofs.Answer

/-!
Runs against systems that answer alike.

A run knows the system around it only by its answers. Two systems that answer alike from
related states lead a run to the same end, the same output and the same events, and are left
in related states. A set of states that no call to a system leaves is a special case, and a run
does not leave it either.
-/

namespace ExampleSuite

variable {σ τ α β : Type}

/-- From related states two systems answer alike and come to related states. -/
structure Host.Agree (R : σ → τ → Prop) (h : Host σ) (k : Host τ) : Prop where
  cwd : h.cwd = k.cwd
  disk : ∀ {a b}, R a b → h.disk a = k.disk b
  listen : ∀ {a b}, R a b → R (h.listen a) (k.listen b)
  start : ∀ (p c : Path) (n : Nat) {a b}, R a b →
    (h.start p c n a).2 = (k.start p c n b).2 ∧ R (h.start p c n a).1 (k.start p c n b).1
  next : ∀ (w : Watch) {a b}, R a b →
    (h.next w a).2 = (k.next w b).2 ∧ R (h.next w a).1 (k.next w b).1
  kill : ∀ {a b}, R a b → (h.kill a).2 = (k.kill b).2 ∧ R (h.kill a).1 (k.kill b).1
  poll : ∀ {a b}, R a b → (h.poll a).2 = (k.poll b).2 ∧ R (h.poll a).1 (k.poll b).1
  check : ∀ {a b}, R a b → (h.check a).2 = (k.check b).2 ∧ R (h.check a).1 (k.check b).1

/-- Two sessions that differ in their worlds alone, which are related. -/
structure Session.Agree (R : σ → τ → Prop) (s : Session σ) (t : Session τ) : Prop where
  world : R s.world t.world
  out : s.out = t.out
  told : s.told = t.told
  tally : s.tally = t.tally

variable {R : σ → τ → Prop}

namespace Act

lemma tell_alike (e : Log.Event) : Alike (Session.Agree R) (tell e) (tell e) :=
  fun _ _ ⟨hw, ho, ht, hy⟩ => ⟨rfl, hw, ho, congrArg (· ++ [e]) ht, hy⟩

lemma look_alike {f : σ → α} {g : τ → α} (hf : ∀ {a b}, R a b → f a = g b) :
    Alike (Session.Agree R) (look f) (look g) :=
  fun _ _ h => ⟨congrArg Except.ok (hf h.world), h⟩

lemma act_alike {f : σ → σ × α} {g : τ → τ × α}
    (hf : ∀ {a b}, R a b → (f a).2 = (g b).2 ∧ R (f a).1 (g b).1) :
    Alike (Session.Agree R) (act f) (act g) := by
  intro s t h
  obtain ⟨ha, hr⟩ := hf h.world
  exact ⟨congrArg Except.ok ha, hr, h.out, h.told, h.tally⟩

lemma ofExcept_alike (r : Except Failure α) :
    Alike (Session.Agree R) (ofExcept r) (ofExcept r) := by
  cases r with
  | ok a => exact .pure a
  | error e => exact .throw e

end Act

/-! ### One example -/

/-- Neither telling nor anything that is done with a child leads out of a relation of sessions. -/
structure Host.Respects (S : Session σ → Session τ → Prop) (h : Host σ) (k : Host τ) : Prop where
  tell : ∀ e, Alike S (Act.tell e) (Act.tell e)
  start : ∀ p c n, Alike S (Act.act (h.start p c n)) (Act.act (k.start p c n))
  next : ∀ w, Alike S (Act.act (h.next w)) (Act.act (k.next w))
  kill : Alike S (Act.act h.kill) (Act.act k.kill)
  poll : Alike S (Act.act h.poll) (Act.act k.poll)

lemma Host.Agree.respects {h : Host σ} {k : Host τ} (H : h.Agree R k) :
    Host.Respects (Session.Agree R) h k where
  tell := Act.tell_alike
  start p c n := Act.act_alike (H.start p c n)
  next w := Act.act_alike (H.next w)
  kill := Act.act_alike H.kill
  poll := Act.act_alike H.poll

/-- A system respects a relation of sessions with equal worlds if it does not matter what the world
is and what else has been told. -/
lemma Host.respects_of_world {S : Session σ → Session σ → Prop}
    (world : ∀ {s t}, S s t → s.world = t.world)
    (set : ∀ a {s t}, S s t → S { s with world := a } { t with world := a })
    (tell : ∀ e {s t}, S s t → S (after (Act.tell e) s) (after (Act.tell e) t)) (h : Host σ) :
    Host.Respects S h h := by
  have act {α : Type} (f : σ → σ × α) : Alike (ε := Failure) S (Act.act f) (Act.act f) := by
    intro s t hst
    have hf : f s.world = f t.world := congrArg f (world hst)
    refine ⟨congrArg (fun r : σ × α => Except.ok r.2) hf, ?_⟩
    have ht : after (Act.act f) t = { t with world := (f s.world).1 } := by rw [hf]; rfl
    rw [ht]
    exact set (f s.world).1 hst
  exact ⟨fun e _ _ hst => ⟨rfl, tell e hst⟩, fun _ _ _ => act _, fun _ => act _, act _, act _⟩

namespace Execution

open Act

variable {S : Session σ → Session τ → Prop} {h : Host σ} {k : Host τ} (H : Host.Respects S h k)
include H

lemma watch_alike (w : Watch) : Alike S (watch h w) (watch k w) := by
  fun_induction watch h w with
  | case1 w s o e hw =>
    rw [watch, hw]
    exact .pure _
  | case2 w hw ih1 ih2 ih3 ih4 =>
    rw [watch, hw]
    refine .bind (H.next w) fun ev => ?_
    cases ev with
    | exited s new => exact ih1 s new
    | lost cause new => exact ih2 cause new
    | outClosed n new => exact ih3 n new
    | errClosed n new => exact ih4 n new
    | elapsed => exact .pure _
    | interrupted => exact .pure _

lemma terminate_alike (c : Candidate) :
    Alike S (terminate h c) (terminate k c) := by
  refine .bind H.kill fun r => ?_
  rcases r with cause | ⟨⟩
  · refine .bind H.poll fun r => ?_
    rcases r with _ | _ | _
    · exact .throw _
    · exact .throw _
    · exact .pure _
  · exact .pure _

lemma supervise_alike (i : Interpreter) (c : Candidate) :
    Alike S (supervise h i c) (supervise k i c) := by
  refine .bind (watch_alike H .start) fun wake => ?_
  cases wake with
  | done x o e =>
    refine .bind (H.tell _) fun _ => ?_
    cases x with
    | exited s => exact .pure _
    | lost cause => exact .throw _
  | elapsed =>
    exact .bind (H.tell _) fun _ => .bind (terminate_alike H c) fun _ => .pure _
  | interrupted =>
    exact .bind (H.tell _) fun _ => .bind (terminate_alike H c) fun _ => .throw _

lemma execute_alike (i : Interpreter) (c : Candidate) :
    Alike S (execute h i c) (execute k i c) := by
  refine .bind (H.start _ _ _) fun r => ?_
  cases r with
  | error cause => exact .throw _
  | ok pid => exact .bind (H.tell _) fun _ => supervise_alike H i c

end Execution

/-! ### Walks -/

/-- Two walks that see the same tree from related states and deal alike with what they find. -/
structure Walk.Agree {ε : Type} (R : σ → τ → Prop) (w : Walk σ ε) (v : Walk τ ε) : Prop where
  tree : ∀ {s t}, R s t → w.tree s = v.tree t
  cwd : w.cwd = v.cwd
  extension : w.extension = v.extension
  found : ∀ c, Alike R (w.found c) (v.found c)
  unread : ∀ p e, Alike R (w.unread p e) (v.unread p e)

namespace Walk

variable {ε : Type} {w : Walk σ ε} {v : Walk τ ε} (W : w.Agree R v)
include W

lemma offer_alike (p : Path) : Alike R (w.offer p) (v.offer p) := by
  refine .get fun s t hst => ?_
  rw [W.tree hst, W.cwd, W.extension]
  split
  · exact W.found _
  · exact .pure _

lemma visit_alike (n : Nat) (p : Path) (isDir : Bool) :
    Alike R (w.visit n p isDir) (v.visit n p isDir) := by
  induction n generalizing p isDir with
  | zero =>
    refine .bind (offer_alike W p) fun _ => ?_
    split
    · exact W.unread p _
    · exact .pure _
  | succ n ih =>
    cases isDir with
    | false => exact offer_alike W p
    | true =>
      refine .get fun s t hst => ?_
      rw [W.tree hst, W.cwd]
      refine .bind (offer_alike W p) fun _ => ?_
      split
      · exact W.unread p _
      · exact .forM (fun _ => ih _ _) _

lemma run_alike (root : Path) : Alike R (w.run root) (v.run root) := by
  refine .get fun s t hst => ?_
  rw [W.tree hst, W.cwd]
  dsimp only
  split
  · exact W.unread root _
  · exact visit_alike W _ _ _
  · split
    · exact W.unread root _
    · exact visit_alike W _ _ _
  · exact visit_alike W _ _ _

end Walk

/-! ### Whole runs -/

namespace Harness

open Act

lemma print_alike (st : Report.Style) (ps : List Report.Piece) :
    Alike (Session.Agree R) (print st ps) (print st ps) := by
  refine .get fun s t hst => ?_
  rw [hst.out]
  refine .bind (.set ⟨hst.world, rfl, hst.told, hst.tally⟩) fun _ => ?_
  split
  · exact .throw _
  · exact .pure _

lemma tally_alike (f : Summary → Summary) :
    Alike (Session.Agree R) (ε := Failure)
      (modify fun s => { s with tally := f s.tally } : Act σ Unit)
      (modify fun s => { s with tally := f s.tally } : Act τ Unit) :=
  fun _ _ hst => ⟨rfl, hst.world, hst.out, hst.told, congrArg f hst.tally⟩

variable {h : Host σ} {k : Host τ} (H : h.Agree R k) (st : Report.Style) (cfg : Config)
include H

lemma openCorpus_alike (root : Path) (extension : String) :
    Alike (Session.Agree R) (openCorpus h.disk h.cwd root extension)
      (openCorpus k.disk k.cwd root extension) := by
  refine .bind (look_alike H.disk) fun d => ?_
  rw [H.cwd]
  exact .bind (ofExcept_alike _) fun c => .bind (tell_alike _) fun _ => .pure _

omit H in
lemma process_alike {S : Session σ → Session τ → Prop} (H : Host.Respects S h k)
    (c : Candidate) : Alike S (process h cfg c) (process k cfg c) := by
  unfold process
  cases cfg.rules.evaluate c with
  | skip r =>
    cases Log.ofVerdict cfg.rules c with
    | some e => exact .bind (H.tell e) fun _ => .pure _
    | none => exact .pure _
  | proceed =>
    have executed : Alike S
        (do tell (.running c.path); Execution.execute h cfg.interpreter c)
        (do tell (.running c.path); Execution.execute k cfg.interpreter c) :=
      .bind (H.tell _) fun _ => Execution.execute_alike H _ c
    cases Log.ofVerdict cfg.rules c with
    | some e => exact .bind (H.tell e) fun _ => executed
    | none => exact executed

lemma turn_alike (c : Candidate) :
    Alike (Session.Agree R) (turn h st cfg c) (turn k st cfg c) := by
  refine .bind (process_alike cfg H.respects c) fun o => ?_
  refine .bind (tally_alike (·.record c o)) fun _ => ?_
  refine .bind (print_alike st _) fun _ => ?_
  refine .bind (act_alike H.check) fun b => ?_
  split
  · exact .throw _
  · exact .pure _

lemma walk_agree : (walk h st cfg).Agree (Session.Agree R) (walk k st cfg) where
  tree hst := congrArg Disk.tree (H.disk hst.world)
  cwd := H.cwd
  extension := rfl
  found c := turn_alike H st cfg c
  unread _ _ := tell_alike _

/-- A run depends on the system around it only through the answers that it gets. -/
theorem run_alike : Alike (Session.Agree R) (run h st cfg) (run k st cfg) := by
  refine .bind (look_alike H.disk) fun d => ?_
  refine .bind ?_ fun _ => ?_
  · rw [H.cwd]
    exact ofExcept_alike _
  refine .bind (openCorpus_alike H _ _) fun corpus => ?_
  refine .bind (act_alike fun hab => ⟨rfl, H.listen hab⟩) fun _ => ?_
  refine .bind (print_alike st _) fun _ => ?_
  refine .bind (tally_alike fun _ => .empty) fun _ => ?_
  refine .bind (Walk.run_alike (walk_agree H st cfg) _) fun _ => ?_
  refine .get fun s t hst => ?_
  rw [hst.tally]
  exact .bind (tell_alike _) fun _ => .bind (print_alike st _) fun _ => .pure _

end Harness

/-! ### States that are not left -/

/-- No call to a system leaves the states in `P`. -/
structure Host.Closed (h : Host σ) (P : σ → Prop) : Prop where
  listen : ∀ {a}, P a → P (h.listen a)
  start : ∀ (p c : Path) (n : Nat) {a}, P a → P (h.start p c n a).1
  next : ∀ (w : Watch) {a}, P a → P (h.next w a).1
  kill : ∀ {a}, P a → P (h.kill a).1
  poll : ∀ {a}, P a → P (h.poll a).1
  check : ∀ {a}, P a → P (h.check a).1

variable {h : Host σ} {P : σ → Prop}

lemma Host.Closed.agree (H : h.Closed P) : h.Agree (fun a b => a = b ∧ P a) h where
  cwd := rfl
  disk hab := congrArg h.disk hab.1
  listen hab := ⟨congrArg h.listen hab.1, H.listen hab.2⟩
  start p c n {a b} hab := by obtain ⟨rfl, ha⟩ := hab; exact ⟨rfl, rfl, H.start p c n ha⟩
  next w {a b} hab := by obtain ⟨rfl, ha⟩ := hab; exact ⟨rfl, rfl, H.next w ha⟩
  kill {a b} hab := by obtain ⟨rfl, ha⟩ := hab; exact ⟨rfl, rfl, H.kill ha⟩
  poll {a b} hab := by obtain ⟨rfl, ha⟩ := hab; exact ⟨rfl, rfl, H.poll ha⟩
  check {a b} hab := by obtain ⟨rfl, ha⟩ := hab; exact ⟨rfl, rfl, H.check ha⟩

/-- A step that is alike to itself over the states in `P` does not leave them. -/
lemma Alike.closed {x : Act σ α} (hx : Alike (Session.Agree fun a b => a = b ∧ P a) x x)
    {s : Session σ} (hs : P s.world) : P (after x s).world :=
  (hx s s ⟨⟨rfl, hs⟩, rfl, rfl, rfl⟩).2.world.2

end ExampleSuite
