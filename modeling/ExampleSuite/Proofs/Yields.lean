import ExampleSuite.Proofs.Listing
import ExampleSuite.Proofs.Simulation
import ExampleSuite.Proofs.Walking

/-!
What a walk yields while the tree changes.

Whenever a walk hands on a find, anything may happen to the tree before it goes on. What it yields
is in strict order all the same, since the names of a directory are sorted when it is listed and
all that lies below one name comes before all that lies below the next. Each yield is an example at
its moment, since it is tested then. And an example that is there all the time is yielded, since
each directory on the way to it lists it whenever that happens, if it can be listed all the time.
-/

namespace ExampleSuite

variable {σ ε α : Type}

/-! ### A walk that notes what it hands on -/

/-- A state, and the finds handed on so far, each with the state that it was handed on in. -/
abbrev Trail (σ : Type) := σ × List (Find × σ)

namespace Walk

/-- Hands on a find and notes it. -/
def note (w : Walk σ ε) (f : Find) : EStateM ε (Trail σ) Unit := fun a =>
  match (w.handle f).run a.1 with
  | .ok u s => .ok u (s, a.2 ++ [(f, a.1)])
  | .error e s => .error e (s, a.2 ++ [(f, a.1)])

def logged (w : Walk σ ε) : Walk (Trail σ) ε where
  tree a := w.tree a.1
  cwd := w.cwd
  extension := w.extension
  found c := w.note (.found c)
  unread p e := w.note (.unread p e)

variable {w : Walk σ ε}

lemma run_note (f : Find) (a : Trail σ) :
    (w.note f).run a = match (w.handle f).run a.1 with
      | .ok u s => .ok u (s, a.2 ++ [(f, a.1)])
      | .error e s => .error e (s, a.2 ++ [(f, a.1)]) := rfl

lemma answer_note (f : Find) (a : Trail σ) : answer (w.note f) a = answer (w.handle f) a.1 := by
  rw [answer, run_note, answer]
  cases (w.handle f).run a.1 <;> rfl

lemma after_note (f : Find) (a : Trail σ) :
    after (w.note f) a = (after (w.handle f) a.1, a.2 ++ [(f, a.1)]) := by
  rw [after, run_note, after]
  cases (w.handle f).run a.1 <;> rfl

lemma handle_logged (f : Find) : w.logged.handle f = w.note f := by cases f <;> rfl

/-- A log changes nothing of a walk. -/
theorem logged_agree (w : Walk σ ε) : w.logged.Agree (fun a s => a.1 = s) w where
  tree h := congrArg w.tree h
  cwd := rfl
  extension := rfl
  found c := by
    rintro a s rfl
    exact ⟨answer_note (.found c) a, congrArg Prod.fst (after_note (.found c) a)⟩
  unread p e := by
    rintro a s rfl
    exact ⟨answer_note (.unread p e) a, congrArg Prod.fst (after_note (.unread p e) a)⟩

end Walk

/-- The examples among finds, each with the state that it was handed on in. -/
def yielded (l : List (Find × σ)) : List (Path × σ) :=
  l.filterMap fun x => x.1.candidate?.map fun c => (c.path, x.2)

@[simp] lemma yielded_nil : yielded ([] : List (Find × σ)) = [] := rfl

@[simp] lemma yielded_append (l k : List (Find × σ)) :
    yielded (l ++ k) = yielded l ++ yielded k := List.filterMap_append

/-- The states that a walk has come through, from its start on. -/
def Trail.moments (a : Trail σ) : List σ := a.2.map (·.2) ++ [a.1]

/-! ### Order -/

/-- Paths in strict order, part by part. -/
def Ordered (ys : List (Path × σ)) : Prop :=
  ys.Pairwise fun y z => Path.steps y.1 < Path.steps z.1

/-- A step from `a` on keeps `P` and yields, in order, what has the property `R`. -/
structure Yields (P : σ → Prop) (R : Path × σ → Prop) (x : EStateM ε (Trail σ) Unit)
    (a : Trail σ) : Prop where
  keeps : P (after x a).1
  log : ∃ l, (after x a).2 = a.2 ++ l ∧ Ordered (yielded l) ∧ ∀ y ∈ yielded l, R y

namespace Yields

variable {P : σ → Prop} {R R₁ R₂ : Path × σ → Prop} {x y : EStateM ε (Trail σ) Unit} {a : Trail σ}

lemma get {f : Trail σ → EStateM ε (Trail σ) Unit} (h : Yields P R (f a) a) :
    Yields P R (MonadState.get >>= f) a := ⟨h.keeps, h.log⟩

lemma mono (h : Yields P R₁ x a) (hR : ∀ y, R₁ y → R y) : Yields P R x a where
  keeps := h.keeps
  log := by
    obtain ⟨l, hl, ho, hr⟩ := h.log
    exact ⟨l, hl, ho, fun y hy => hR y (hr y hy)⟩

/-- Only what a step does in this state matters. -/
lemma congr (h : Yields P R x a) (hxy : y.run a = x.run a) : Yields P R y a := by
  obtain ⟨hk, hl⟩ := h
  rw [← after_congr hxy] at hk hl
  exact ⟨hk, hl⟩

lemma nothing (h : P a.1) : Yields P R (pure () : EStateM ε (Trail σ) Unit) a :=
  ⟨h, [], by simp, .nil, by simp⟩

lemma note {w : Walk σ ε} (f : Find) (h : P a.1) (hP : ∀ f s, P s → P (after (w.handle f) s))
    (hR : ∀ y ∈ yielded [(f, a.1)], R y) : Yields P R (w.note f) a := by
  refine ⟨?_, [(f, a.1)], ?_, ?_, hR⟩
  · rw [Walk.after_note]
    exact hP f a.1 h
  · rw [Walk.after_note]
  · cases f <;> simp [Ordered, yielded, Find.candidate?]

lemma bind (hx : Yields P R₁ x a) (hy : ∀ b, P b.1 → Yields P R₂ y b)
    (cross : ∀ y z, R₁ y → R₂ z → Path.steps y.1 < Path.steps z.1) :
    Yields P (fun y => R₁ y ∨ R₂ y) (x >>= fun _ => y) a := by
  obtain ⟨l, hl, ho, hr⟩ := hx.log
  cases ha : answer x a with
  | error e =>
    refine ⟨?_, l, ?_, ho, fun y hy => .inl (hr y hy)⟩
    · rw [after_bind_error ha]
      exact hx.keeps
    · rw [after_bind_error ha, hl]
  | ok u =>
    obtain ⟨hk, k, hkl, hko, hkr⟩ := hy _ hx.keeps
    refine ⟨?_, l ++ k, ?_, ?_, ?_⟩
    · rw [after_bind_ok ha]
      exact hk
    · rw [after_bind_ok ha, hkl, hl, List.append_assoc]
    · rw [yielded_append]
      exact List.pairwise_append.mpr ⟨ho, hko, fun y hy z hz => cross y z (hr y hy) (hkr z hz)⟩
    · rw [yielded_append]
      intro y hy
      exact (List.mem_append.mp hy).imp (hr y) (hkr y)

lemma forM {α : Type} {f : α → EStateM ε (Trail σ) Unit} {Q : α → Path × σ → Prop} {l : List α}
    (hl : l.Pairwise fun i j => ∀ y z, Q i y → Q j z → Path.steps y.1 < Path.steps z.1)
    (hf : ∀ i ∈ l, ∀ b, P b.1 → Yields P (Q i) (f i) b) (h : P a.1) :
    Yields P (fun y => ∃ i ∈ l, Q i y) (l.forM f) a := by
  induction l generalizing a with
  | nil => exact nothing h
  | cons i l ih =>
    obtain ⟨hi, hl⟩ := List.pairwise_cons.mp hl
    have htail (b : Trail σ) (hb : P b.1) : Yields P (fun y => ∃ j ∈ l, Q j y) (l.forM f) b :=
      ih hl (fun j hj => hf j (List.mem_cons_of_mem i hj)) hb
    refine ((hf i List.mem_cons_self a h).bind htail ?_).mono ?_
    · rintro y z hy ⟨j, hj, hz⟩
      exact hi j hj y z hy hz
    · rintro y (hy | ⟨j, hj, hy⟩)
      · exact ⟨i, List.mem_cons_self, hy⟩
      · exact ⟨j, List.mem_cons_of_mem i hj, hy⟩

end Yields

/-! ### What is yielded below a path -/

lemma Tree.isFile_iff {t : Tree} {cwd : Place} {p : Path} :
    t.isFile cwd p ↔ ∃ q id, t.find cwd true p = .ok (q, .file id) := by
  unfold isFile
  rcases t.find cwd true p with e | ⟨q, _ | _ | _ | _⟩ <;> simp

lemma Corpus.isExample_iff {t : Tree} {cwd : Place} {x : Bytes} {p : Path} :
    isExample t cwd x p ↔ t.isFile cwd p ∧ Path.extension p = some x := by
  simp [isExample]

namespace Walk

/-- What a walk yields at a path and below: an example at its moment, which goes on from the path
by names, or the path itself. On the way the path and all directories are in `L`, and those below
the path in `D`. -/
structure Reached (w : Walk σ ε) (D L : Path → Prop) (p : Path) (isDir : Bool) (y : Path × σ) :
    Prop where
  isExample : Corpus.isExample (w.tree y.2) w.cwd w.extension y.1
  below : ∃ ns, (∀ n ∈ ns, Path.IsName n) ∧ y.1 = p.joins ns ∧ (isDir = false → ns = []) ∧
    (∀ ms, ms <+: ns → ms ≠ [] → ms ≠ ns → D (p.joins ms)) ∧
    ∀ ms, ms <+: ns → ms ≠ ns → L (p.joins ms)

variable {w : Walk σ ε} {P : σ → Prop} {D L : Path → Prop} {p : Path} {y z : Path × σ}

/-- A path reaches itself. -/
lemma Reached.self (h : Corpus.isExample (w.tree y.2) w.cwd w.extension y.1 ∧ y.1 = p) (d : Bool) :
    w.Reached D L p d y :=
  ⟨h.1, [], by simp, h.2, fun _ => rfl, fun ms hms hne _ => absurd (List.prefix_nil.mp hms) hne,
    fun ms hms hne => absurd (List.prefix_nil.mp hms) hne⟩

lemma Reached.of_dir {d : Bool} (h : w.Reached D L p d y) : w.Reached D L p true y where
  isExample := h.isExample
  below := by
    obtain ⟨ns, hns, hy, -, way⟩ := h.below
    exact ⟨ns, hns, hy, by simp, way⟩

lemma Reached.lt {n m : Bytes} {d d' : Bool} (hy : w.Reached D L (p.join n) d y)
    (hz : w.Reached D L (p.join m) d' z) (hn : Path.IsName n) (hm : Path.IsName m) (h : n < m) :
    Path.steps y.1 < Path.steps z.1 := by
  obtain ⟨ns, hns, hy, -⟩ := hy.below
  obtain ⟨ms, hms, hz, -⟩ := hz.below
  rw [hy, hz]
  exact Path.steps_joins_lt p (List.forall_mem_cons.mpr ⟨hn, hns⟩)
    (List.forall_mem_cons.mpr ⟨hm, hms⟩) h

lemma Reached.self_lt {n : Bytes} {d : Bool} (hy : w.Reached D L (p.join n) d y)
    (hn : Path.IsName n) : Path.steps p < Path.steps y.1 := by
  obtain ⟨ns, hns, hy, -⟩ := hy.below
  rw [hy]
  exact Path.steps_lt_steps_joins p (List.forall_mem_cons.mpr ⟨hn, hns⟩)

/-- What is reached through a listed name is reached through the directory that lists it. -/
lemma Reached.of_listed (hp : p ≠ []) {s : σ} (hD : ∀ q, (w.tree s).RealDir w.cwd q → D q)
    (hL : ∀ q, (w.tree s).Listed w.cwd q → L q) {es : List (Bytes × Entry)}
    (hes : (w.tree s).list w.cwd p = .ok es) {x : Bytes × Entry} (hx : x ∈ es)
    (hn : Path.IsName x.1) (h : w.Reached D L (p.join x.1) (x.2 == .dir) y) :
    w.Reached D L p true y where
  isExample := h.isExample
  below := by
    obtain ⟨ns, hns, hy, hdir, hD', hL'⟩ := h.below
    refine ⟨x.1 :: ns, List.forall_mem_cons.mpr ⟨hn, hns⟩, hy, by simp, fun ms' hms' hne hns' => ?_,
      fun ms' hms' hns' => ?_⟩
    rotate_left
    · obtain rfl | ⟨ms, rfl, hms⟩ := List.prefix_cons_iff.mp hms'
      · exact hL p (Tree.listed_iff.mpr ⟨es, hes⟩)
      · exact hL' ms hms fun he => hns' (he ▸ rfl)
    obtain rfl | ⟨ms, rfl, hms⟩ := List.prefix_cons_iff.mp hms'
    · exact absurd rfl hne
    rcases ms with _ | ⟨m, ms⟩
    · -- the listed name itself, which is a directory because something is reached through it
      rcases ns with _ | ⟨m, ns⟩
      · exact absurd rfl hns'
      have hxd : x.2 = .dir := by
        by_contra hxd
        exact absurd (hdir (beq_eq_false_iff_ne.mpr hxd)) (List.cons_ne_nil m ns)
      obtain ⟨hf, -⟩ := Corpus.isExample_iff.mp h.isExample
      obtain ⟨q, id, hq⟩ := Tree.isFile_iff.mp hf
      rw [hy] at hq
      obtain ⟨-, -, q', e, hq', -⟩ := Tree.find_joins_ok (Path.join_ne_nil p hn) hns hq
      obtain ⟨hl, hnl, -⟩ := Tree.find_join_ok hp hn hq'
      exact hD _ (Tree.realDir_of_list hn hl hnl hes (hxd ▸ hx))
    · exact hD' (m :: ms) hms (List.cons_ne_nil m ms) fun he => hns' (he ▸ rfl)

variable (hP : ∀ f s, P s → P (after (w.handle f) s))
include hP

lemma offer_yields {a : Trail σ} (ha : P a.1) :
    Yields P (fun y => Corpus.isExample (w.tree y.2) w.cwd w.extension y.1 ∧ y.1 = p)
      (w.logged.offer p) a := by
  refine .get ?_
  split
  · next h =>
    refine .note (.found ⟨p⟩) ha hP fun y hy => ?_
    obtain rfl := List.mem_singleton.mp hy
    exact ⟨h, rfl⟩
  · exact .nothing ha

/-- A find that is no example yields nothing. -/
lemma unread_yields {a : Trail σ} (ha : P a.1) (p : Path) (e : Errno) :
    Yields P (fun _ => False) (w.logged.unread p e) a :=
  .note (.unread p e) ha hP (by simp [yielded, Find.candidate?])

/-- A path is offered, and nothing comes behind it. -/
lemma offer_only_yields {x : EStateM ε (Trail σ) Unit}
    (hx : ∀ b : Trail σ, P b.1 → Yields P (fun _ => False) x b) (d : Bool) {a : Trail σ}
    (ha : P a.1) : Yields P (w.Reached D L p d) (w.logged.offer p >>= fun _ => x) a := by
  refine ((offer_yields hP ha).bind hx fun _ _ _ h => h.elim).mono ?_
  rintro y (hy | hy)
  · exact .self hy d
  · exact hy.elim

/-- A directory is offered, and behind it come its entries in order, each with what is below it. -/
lemma offer_listed_yields (hp : p ≠ []) {s : σ}
    (hD : ∀ q, (w.tree s).RealDir w.cwd q → D q) (hL : ∀ q, (w.tree s).Listed w.cwd q → L q)
    {es : List (Bytes × Entry)} (hes : (w.tree s).list w.cwd p = .ok es)
    (ordered : (sorted es).Pairwise fun x x' => x.1 < x'.1)
    (isName : ∀ x ∈ sorted es, Path.IsName x.1) {f : Bytes × Entry → EStateM ε (Trail σ) Unit}
    (hf : ∀ x ∈ sorted es, ∀ b : Trail σ, P b.1 →
      Yields P (w.Reached D L (p.join x.1) (x.2 == .dir)) (f x) b) {a : Trail σ} (ha : P a.1) :
    Yields P (w.Reached D L p true) (w.logged.offer p >>= fun _ => (sorted es).forM f) a := by
  have entries (b : Trail σ) (hb : P b.1) :=
    Yields.forM (ordered.imp_of_mem fun {x x'} hx hx' hlt y z hy hz =>
      Reached.lt hy hz (isName x hx) (isName x' hx') hlt) hf hb
  refine ((offer_yields hP ha).bind entries ?_).mono ?_
  · rintro y z ⟨-, rfl⟩ ⟨x, hx, hz⟩
    exact hz.self_lt (isName x hx)
  · rintro y (hy | ⟨x, hx, hy⟩)
    · exact .self hy true
    · exact hy.of_listed hp hD hL hes (mem_sorted.mp hx) (isName x hx)

lemma visit_yields (proper : ∀ s, P s → (w.tree s).Proper)
    (hD : ∀ s, P s → ∀ q, (w.tree s).RealDir w.cwd q → D q)
    (hL : ∀ s, P s → ∀ q, (w.tree s).Listed w.cwd q → L q) (n : Nat) (hp : p ≠ [])
    (isDir : Bool) {a : Trail σ} (ha : P a.1) :
    Yields P (w.Reached D L p isDir) (w.logged.visit n p isDir) a := by
  induction n generalizing p isDir a with
  | zero =>
    refine offer_only_yields hP (fun b hb => ?_) isDir ha
    split
    · exact unread_yields hP hb p .tooLong
    · exact .nothing hb
  | succ n ih =>
    cases isDir with
    | false => exact (offer_yields hP ha).mono fun y hy => .self hy false
    | true =>
      refine .get ?_
      dsimp only
      cases hes : (w.logged.tree a).list w.logged.cwd p with
      | error e => exact offer_only_yields hP (fun b hb => unread_yields hP hb p e) true ha
      | ok es =>
        obtain ⟨q, -, -, rfl⟩ := Tree.list_eq_ok_iff.mp hes
        have isName (x : Bytes × Entry) (hx : x ∈ sorted ((w.logged.tree a).below q)) :
            Path.IsName x.1 := (proper a.1 ha).isName (mem_sorted.mp hx)
        exact offer_listed_yields hP hp (hD a.1 ha) (hL a.1 ha) hes
          (sorted_below (w.logged.tree a) q) isName
          (fun x hx b hb => ih (Path.join_ne_nil p (isName x hx)) (x.2 == .dir) hb) ha

theorem run_yields (proper : ∀ s, P s → (w.tree s).Proper)
    (hD : ∀ s, P s → ∀ q, (w.tree s).RealDir w.cwd q → D q)
    (hL : ∀ s, P s → ∀ q, (w.tree s).Listed w.cwd q → L q) (root : Path) {a : Trail σ}
    (ha : P a.1) : Yields P (w.Reached D L root true) (w.logged.run root) a := by
  have hr := run_root w.logged root a
  rcases hf : (w.logged.tree a).find w.logged.cwd true root with e | ⟨q, e⟩ <;> rw [hf] at hr
  · exact (unread_yields hP ha root e).congr hr |>.mono fun _ h => h.elim
  · have hroot : root ≠ [] := by
      rintro rfl
      cases hf
    exact (visit_yields hP proper hD hL maxDepth hroot _ ha).congr hr |>.mono fun _ h => h.of_dir

end Walk

end ExampleSuite
