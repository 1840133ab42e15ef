import ExampleSuite.Proofs.Answer
import ExampleSuite.Proofs.Listing

/-!
What a walk hands on.

A walk deals with one find after the other, where a find is an example or a path that could not
be read. Over a tree that stays as it is below the root the finds are known beforehand. Over a tree
that changes there under way each run of the walk still goes through some list of finds.
-/

namespace ExampleSuite

inductive Find where
  | found (c : Candidate)
  | unread (p : Path) (e : Errno)
  deriving DecidableEq, Repr

def Find.candidate? : Find → Option Candidate
  | .found c => some c
  | .unread _ _ => none

/-- The examples among finds, in order. -/
def examplesOf (fs : List Find) : List Candidate := fs.filterMap Find.candidate?

@[simp] lemma examplesOf_nil : examplesOf [] = [] := rfl

@[simp] lemma examplesOf_append (fs gs : List Find) :
    examplesOf (fs ++ gs) = examplesOf fs ++ examplesOf gs := List.filterMap_append

@[simp] lemma examplesOf_found (c : Candidate) (fs : List Find) :
    examplesOf (.found c :: fs) = c :: examplesOf fs := rfl

@[simp] lemma examplesOf_unread (p : Path) (e : Errno) (fs : List Find) :
    examplesOf (.unread p e :: fs) = examplesOf fs := rfl

/-! ### The part of a tree that a walk sees -/

/-- What a walk keeps of a listing: the names in order, each with whether it is one of a
directory. -/
def Walk.glance (es : List (Bytes × Entry)) : List (Bytes × Bool) :=
  (sorted es).map fun x => (x.1, x.2 == .dir)

namespace Tree

/-- The directories that a walk enters: the root, and what one of them lists as a directory. -/
inductive Enters (t : Tree) (cwd : Place) (root : Path) : Path → Prop where
  | root : Enters t cwd root root
  | inner {p : Path} {es : List (Bytes × Entry)} {n : Bytes} (dir : Enters t cwd root p)
      (listing : t.list cwd p = .ok es) (listed : (n, .dir) ∈ es) : Enters t cwd root (p.join n)

/-- The paths that a walk tests: the root, and what a directory that it enters lists. -/
inductive Offers (t : Tree) (cwd : Place) (root : Path) : Path → Prop where
  | root : Offers t cwd root root
  | entry {p : Path} {es : List (Bytes × Entry)} {x : Bytes × Entry} (dir : Enters t cwd root p)
      (listing : t.list cwd p = .ok es) (listed : x ∈ es) : Offers t cwd root (p.join x.1)

/-- A walk sees the same in both trees: the root is a directory in both or in neither, the
directories that are entered list the same, and the same of what they list are files. Nothing is
said of what the files hold, and nothing of the rest of the trees. -/
structure AlikeBelow (t : Tree) (cwd : Place) (root : Path) (u : Tree) : Prop where
  dir : (t.find cwd true root).map (·.2 == .dir) = (u.find cwd true root).map (·.2 == .dir)
  listing : ∀ p, t.Enters cwd root p →
    (t.list cwd p).map Walk.glance = (u.list cwd p).map Walk.glance
  file : ∀ p, t.Offers cwd root p → t.isFile cwd p = u.isFile cwd p

lemma AlikeBelow.refl (t : Tree) (cwd : Place) (root : Path) : t.AlikeBelow cwd root t :=
  ⟨rfl, fun _ _ => rfl, fun _ _ => rfl⟩

end Tree

/-! ### The finds in a tree that stays as it is -/

namespace Find

variable (t : Tree) (cwd : Place) (extension : Bytes)

def offered (p : Path) : List Find :=
  if Corpus.isExample t cwd extension p then [.found ⟨p⟩] else []

/-- The finds at an entry and below it. -/
def below : Nat → Path → Bool → List Find
  | 0, p, isDir => offered t cwd extension p ++ if isDir then [.unread p .tooLong] else []
  | _ + 1, p, false => offered t cwd extension p
  | n + 1, p, true =>
    offered t cwd extension p ++
      match t.list cwd p with
      | .error e => [.unread p e]
      | .ok es => (Walk.glance es).flatMap fun x => below n (p.join x.1) x.2

/-- The finds below a root, which may be a link to a directory. -/
def all (root : Path) : List Find :=
  match t.find cwd true root with
  | .error e => [.unread root e]
  | .ok (_, e) => below t cwd extension Walk.maxDepth root (e == .dir)

end Find

/-! ### A walk goes through its finds -/

namespace Walk

variable {σ ε : Type}

/-- Hands on a find. -/
def handle (w : Walk σ ε) : Find → EStateM ε σ Unit
  | .found c => w.found c
  | .unread p e => w.unread p e

/-- A step deals with some finds, one after the other. -/
def Goes (w : Walk σ ε) (x : EStateM ε σ Unit) : Prop :=
  ∀ s, ∃ fs : List Find, x.run s = (forM fs w.handle).run s

variable {w : Walk σ ε} {P : σ → Prop} {x y : EStateM ε σ Unit}

lemma run_handle (w : Walk σ ε) (f : Find) (s : σ) :
    (w.handle f).run s = (forM [f] w.handle).run s := by
  rw [List.forM_cons, EStateM.run_bind]
  cases (w.handle f).run s <;> rfl

lemma forM_keeps (hP : ∀ f s, P s → P (after (w.handle f) s)) (fs : List Find) (s : σ) (hs : P s) :
    P (after (forM fs w.handle) s) := by
  induction fs generalizing s with
  | nil => exact hs
  | cons f fs ih =>
    rw [List.forM_cons, after_bind]
    split
    · exact ih _ (hP f s hs)
    · exact hP f s hs

namespace Goes

lemma pure : Goes w (Pure.pure ()) := fun _ => ⟨[], rfl⟩

lemma handle (f : Find) : Goes w (w.handle f) := fun s => ⟨[f], w.run_handle f s⟩

lemma bind (hx : Goes w x) (hy : Goes w y) : Goes w (x >>= fun _ => y) := by
  intro s
  obtain ⟨fs, hf⟩ := hx s
  rw [EStateM.run_bind]
  cases hr : x.run s with
  | ok u s' =>
    obtain ⟨gs, hg⟩ := hy s'
    refine ⟨fs ++ gs, ?_⟩
    rw [List.forM_append, EStateM.run_bind, ← hf, hr]
    exact hg
  | error e s' => exact ⟨fs, hr.symm.trans hf⟩

lemma get {f : σ → EStateM ε σ Unit} (hf : ∀ s, Goes w (f s)) : Goes w (MonadState.get >>= f) :=
  fun s => hf s s

lemma forM {α : Type} {f : α → EStateM ε σ Unit} (hf : ∀ a, Goes w (f a)) (l : List α) :
    Goes w (l.forM f) := by
  induction l with
  | nil => exact pure
  | cons a l ih => exact bind (hf a) ih

/-- What a walk keeps whenever it hands on a find, such a step keeps. -/
lemma keeps (hx : Goes w x) (hP : ∀ f s, P s → P (after (w.handle f) s)) {s : σ} (hs : P s) :
    P (after x s) := by
  obtain ⟨fs, hf⟩ := hx s
  rw [after_congr hf]
  exact forM_keeps hP fs s hs

end Goes

lemma offer_goes (p : Path) : Goes w (w.offer p) := by
  refine .get fun s => ?_
  split
  · exact .handle (.found ⟨p⟩)
  · exact .pure

lemma visit_goes (n : Nat) (p : Path) (isDir : Bool) : Goes w (w.visit n p isDir) := by
  induction n generalizing p isDir with
  | zero =>
    refine .bind (offer_goes p) ?_
    split
    · exact .handle (.unread p .tooLong)
    · exact .pure
  | succ n ih =>
    cases isDir with
    | false => exact offer_goes p
    | true =>
      refine .get fun s => .bind (offer_goes p) ?_
      cases (w.tree s).list w.cwd p with
      | error e => exact .handle (.unread p e)
      | ok es => exact .forM (fun x => ih _ _) _

lemma visit_unlisted (w : Walk σ ε) {p : Path} {s : σ} {e : Errno}
    (he : (w.tree s).list w.cwd p = .error e) (n : Nat) :
    (w.visit (n + 1) p true).run s = (w.offer p >>= fun _ => w.unread p e).run s := by
  rw [visit, run_get_bind]
  dsimp only
  rw [he]

lemma visit_listed (w : Walk σ ε) {p : Path} {s : σ} {es : List (Bytes × Entry)}
    (hes : (w.tree s).list w.cwd p = .ok es) (n : Nat) :
    (w.visit (n + 1) p true).run s = (w.offer p >>= fun _ =>
      (sorted es).forM fun x => w.visit n (p.join x.1) (x.2 == .dir)).run s := by
  rw [visit, run_get_bind]
  dsimp only
  rw [hes]

/-- A walk visits its root as what it leads to, if it leads anywhere. -/
lemma run_root (w : Walk σ ε) (root : Path) (s : σ) : (w.run root).run s =
    (match (w.tree s).find w.cwd true root with
      | .error e => w.unread root e
      | .ok (_, e) => w.visit maxDepth root (e == Entry.dir)).run s := by
  rw [run, run_get_bind]
  dsimp only
  obtain ⟨q, target, h⟩ | h := (w.tree s).find_unfollowed w.cwd root
  · generalize (w.tree s).find w.cwd false root = r at h ⊢
    subst h
    rfl
  · rw [h]
    rcases (w.tree s).find w.cwd true root with e | ⟨q, _ | _ | _ | _⟩ <;> rfl

lemma run_goes (root : Path) : Goes w (w.run root) := by
  intro s
  rw [run_root]
  rcases (w.tree s).find w.cwd true root with e | ⟨q, e⟩
  · exact Goes.handle (.unread root e) s
  · exact visit_goes _ _ _ s

lemma run_keeps (hP : ∀ f s, P s → P (after (w.handle f) s)) (root : Path) {s : σ} (hs : P s) :
    P (after (w.run root) s) := (run_goes root).keeps hP hs

/-! ### The finds are those of the tree -/

/-- In the states `P` of a walk in which `Q` holds its tree is like `t` below the root. What has
`Q` after a find had it before. -/
structure Still (w : Walk σ ε) (P Q : σ → Prop) (root : Path) (t : Tree) : Prop where
  keeps : ∀ f s, P s → P (after (w.handle f) s)
  back : ∀ f s, Q (after (w.handle f) s) → Q s
  tree : ∀ s, P s → Q s → t.AlikeBelow w.cwd root (w.tree s)

/-- A step that ends with `Q` has dealt with the given finds. -/
def Follows (w : Walk σ ε) (P Q : σ → Prop) (fs : List Find) (x : EStateM ε σ Unit) : Prop :=
  ∀ s, P s → Q (after x s) → x.run s = (forM fs w.handle).run s

variable {Q : σ → Prop} {root : Path} {t : Tree} (S : w.Still P Q root t)
include S

/-- What ends with `Q` began with it. -/
lemma Still.before (hx : Goes w x) {s : σ} (hQ : Q (after x s)) : Q s := by
  by_contra hs
  exact hx.keeps (P := fun s => ¬ Q s) (fun f s hs hf => hs (S.back f s hf)) hs hQ

namespace Follows

variable {fs gs : List Find}

omit S in
lemma pure : Follows w P Q [] (Pure.pure ()) := fun _ _ _ => rfl

omit S in
lemma handle (f : Find) : Follows w P Q [f] (w.handle f) := fun s _ _ => w.run_handle f s

lemma bind (hx : Follows w P Q fs x) (gx : Goes w x) (hy : Follows w P Q gs y) (gy : Goes w y) :
    Follows w P Q (fs ++ gs) (x >>= fun _ => y) := by
  intro s hs hQ
  rw [List.forM_append, EStateM.run_bind, EStateM.run_bind]
  have hP : P (after x s) := gx.keeps S.keeps hs
  rw [after_bind] at hQ
  unfold answer at hQ
  unfold after at hP
  cases hr : x.run s with
  | ok u s' =>
    have hs' : after x s = s' := by rw [after, hr]
    rw [hr] at hP
    simp only [hr, hs'] at hQ
    rw [← hx s hs (hs'.symm ▸ S.before gy hQ), hr]
    exact hy s' hP hQ
  | error e s' =>
    simp only [hr] at hQ
    rw [← hx s hs hQ, hr]

lemma forM {α : Type} {f : α → EStateM ε σ Unit} {g : α → List Find} {l : List α}
    (hf : ∀ a ∈ l, Follows w P Q (g a) (f a)) (gf : ∀ a, Goes w (f a)) :
    Follows w P Q (l.flatMap g) (l.forM f) := by
  induction l with
  | nil => exact pure
  | cons a l ih =>
    exact bind S (hf a List.mem_cons_self) (gf a)
      (ih fun b hb => hf b (List.mem_cons_of_mem a hb)) (.forM gf l)

end Follows

lemma offer_follows {p : Path} (offers : t.Offers w.cwd root p) :
    Follows w P Q (Find.offered t w.cwd w.extension p) (w.offer p) := by
  intro s hs hQ
  have hfile := (S.tree s hs (S.before (offer_goes p) hQ)).file p offers
  rw [offer, run_get_bind, Find.offered, Corpus.isExample, Corpus.isExample, hfile]
  split
  · exact w.run_handle (.found ⟨p⟩) s
  · rfl

lemma visit_follows (n : Nat) {p : Path} {isDir : Bool} (offers : t.Offers w.cwd root p)
    (enters : isDir → t.Enters w.cwd root p) :
    Follows w P Q (Find.below t w.cwd w.extension n p isDir) (w.visit n p isDir) := by
  induction n generalizing p isDir with
  | zero =>
    cases isDir with
    | false => exact .bind S (offer_follows S offers) (offer_goes p) .pure .pure
    | true =>
      exact .bind S (offer_follows S offers) (offer_goes p) (.handle (.unread p .tooLong))
        (Goes.handle (.unread p .tooLong))
  | succ n ih =>
    cases isDir with
    | false => exact offer_follows S offers
    | true =>
      intro s hs hQ
      have hlist := (S.tree s hs (S.before (visit_goes _ _ _) hQ)).listing p (enters rfl)
      rw [Find.below]
      cases hl : (w.tree s).list w.cwd p with
      | error e =>
        rw [hl] at hlist
        have ht : t.list w.cwd p = .error e := by
          rcases ht : t.list w.cwd p with e' | es <;> rw [ht] at hlist
          · exact congrArg Except.error (Except.error.inj hlist)
          · cases hlist
        have hrun := visit_unlisted w hl n
        rw [after_congr hrun] at hQ
        rw [hrun, ht]
        exact Follows.bind S (offer_follows S offers) (offer_goes p) (.handle (.unread p e))
          (.handle (.unread p e)) s hs hQ
      | ok es =>
        rw [hl] at hlist
        obtain ⟨es', ht⟩ : ∃ es', t.list w.cwd p = .ok es' := by
          rcases ht : t.list w.cwd p with e' | es'
          · rw [ht] at hlist
            cases hlist
          · exact ⟨es', rfl⟩
        rw [ht] at hlist
        have hglance : glance es' = glance es := Except.ok.inj hlist
        have hrun := visit_listed w hl n
        have hmap : (sorted es).forM (fun x => w.visit n (p.join x.1) (x.2 == .dir)) =
            (glance es).forM fun x => w.visit n (p.join x.1) x.2 := by simp [glance]
        rw [hmap] at hrun
        rw [after_congr hrun] at hQ
        rw [hrun, ht]
        dsimp only
        rw [hglance]
        refine Follows.bind S (offer_follows S offers) (offer_goes p)
          (Follows.forM S (fun x hx => ?_) fun x => visit_goes _ _ _)
          (.forM (fun x => visit_goes _ _ _) _) s hs hQ
        obtain ⟨y, hy, rfl⟩ := List.mem_map.mp (hglance ▸ hx)
        have hmem : y ∈ es' := mem_sorted.mp hy
        refine ih (.entry (enters rfl) ht hmem) fun hd => ?_
        obtain ⟨m, e⟩ := y
        obtain rfl : e = .dir := eq_of_beq hd
        exact .inner (enters rfl) ht hmem

/-- A walk through a tree that stays as it is below its root deals with the finds in it. -/
theorem run_follows :
    Follows w P Q (Find.all t w.cwd w.extension root) (w.run root) := by
  intro s hs hQ
  have hdir := (S.tree s hs (S.before (run_goes root) hQ)).dir
  have hrun := w.run_root root s
  rw [after_congr hrun] at hQ
  rw [hrun, Find.all]
  rcases hu : (w.tree s).find w.cwd true root with e | ⟨q, e⟩ <;>
    rcases ht : t.find w.cwd true root with e' | ⟨q', e'⟩ <;> rw [hu, ht] at hdir
  · obtain rfl : e' = e := Except.error.inj hdir
    exact w.run_handle (.unread root e') s
  · cases hdir
  · cases hdir
  · have he : (e' == .dir) = (e == .dir) := Except.ok.inj hdir
    rw [hu] at hQ
    dsimp only
    rw [he]
    exact visit_follows S maxDepth .root (fun _ => .root) s hs hQ

end Walk

/-- The examples of a corpus are those among the finds below its root, in its tree or in another
that is alike there. -/
theorem Corpus.examples_alike {c : Corpus} {t u : Tree} {cwd : Place}
    (h : t.AlikeBelow cwd c.root u) :
    c.examples u cwd = examplesOf (Find.all t cwd (Bytes.ofString c.extension) c.root) := by
  have collects (fs : List Find) (l : List Candidate) :
      (forM fs (collector u cwd c.extension).handle).run l = .ok ⟨⟩ (l ++ examplesOf fs) := by
    induction fs generalizing l with
    | nil => simp
    | cons f fs ih =>
      rw [List.forM_cons, EStateM.run_bind]
      cases f with
      | found c =>
        rw [show ((collector u cwd _).handle (.found c)).run l = .ok ⟨⟩ (l ++ [c]) from rfl]
        simpa using ih (l ++ [c])
      | unread p e => exact ih l
  have still : (collector u cwd c.extension).Still (fun _ => True) (fun _ => True) c.root t :=
    ⟨fun _ _ _ => trivial, fun _ _ _ => trivial, fun _ _ _ => h⟩
  have hrun : ((collector u cwd c.extension).run c.root).run [] =
      (forM (Find.all t cwd (Bytes.ofString c.extension) c.root)
        (collector u cwd c.extension).handle).run [] :=
    Walk.run_follows still [] trivial trivial
  rw [examples, hrun, collects]
  rfl

lemma Corpus.examples_eq (c : Corpus) (t : Tree) (cwd : Place) :
    c.examples t cwd = examplesOf (Find.all t cwd (Bytes.ofString c.extension) c.root) :=
  examples_alike (.refl t cwd c.root)

end ExampleSuite
