import ExampleSuite.Proofs.Changes
import ExampleSuite.Proofs.Yields

/-!
What a walk finds while the tree changes.

An example that is there from the start of a walk to its end, in directories that are there and can
be listed as long, is found whatever else changes. Each directory on the way lists the next name
whenever it is read, and the walk through what it lists comes to that name.
-/

namespace ExampleSuite

variable {σ ε : Type}

/-! ### What a corpus holds -/

/-- A corpus holds an example if it is a file with the extension of the corpus, and if no
directory between the root and it is a link. -/
def Corpus.Holds (c : Corpus) (t : Tree) (cwd : Place) (p : Path) : Prop :=
  ∃ ns s, p = c.root.joins (ns ++ [s ++ Path.dot :: Bytes.ofString c.extension]) ∧
    (∀ n ∈ ns ++ [s ++ Path.dot :: Bytes.ofString c.extension], Path.IsName n) ∧
    s ≠ [] ∧ Path.dot ∉ Bytes.ofString c.extension ∧
    (∀ ms, ms ≠ [] → ms <+: ns → t.RealDir cwd (c.root.joins ms)) ∧ t.isFile cwd p

/-- A path goes on from the root of a corpus by names, and each directory on the way to it, the root
among them, can be listed. -/
def Corpus.Unbarred (c : Corpus) (t : Tree) (cwd : Place) (p : Path) : Prop :=
  ∃ ns n, p = c.root.joins (ns ++ [n]) ∧ (∀ m ∈ ns ++ [n], Path.IsName m) ∧
    ∀ ms, ms <+: ns → t.Listed cwd (c.root.joins ms)

/-- In other words, the names that lead from the root to the example do so through directories. -/
lemma Corpus.holds_iff {c : Corpus} {t : Tree} {cwd : Place} {p : Path} :
    c.Holds t cwd p ↔ ∃ ns, ns ≠ [] ∧ (∀ n ∈ ns, Path.IsName n) ∧ p = c.root.joins ns ∧
      isExample t cwd (Bytes.ofString c.extension) p ∧
      ∀ ms, ms ≠ [] → ms <+: ns → ms ≠ ns → t.RealDir cwd (c.root.joins ms) := by
  constructor
  · rintro ⟨ns, s, rfl, hns, hs, hx, hdirs, hf⟩
    refine ⟨_, by simp, hns, rfl, isExample_iff.mpr ⟨hf, ?_⟩, fun ms hne hms hns' => ?_⟩
    · rw [Path.joins_append]
      exact (Path.extension_join_eq_some_iff _ (hns _ (by simp))).mpr ⟨s, rfl, hs, hx⟩
    · exact hdirs ms hne ((List.prefix_concat_iff.mp hms).resolve_left hns')
  · rintro ⟨ns, hne, hns, rfl, hex, hdirs⟩
    obtain ⟨ms, n, rfl⟩ := (List.eq_nil_or_concat' ns).resolve_left hne
    obtain ⟨hf, hx⟩ := isExample_iff.mp hex
    have hx' : Path.extension ((c.root.joins ms).join n) = some (Bytes.ofString c.extension) := by
      rw [← hx, Path.joins_append]
      rfl
    obtain ⟨s, rfl, hs, hdot⟩ :=
      (Path.extension_join_eq_some_iff _ (hns n (by simp))).mp hx'
    refine ⟨ms, s, rfl, hns, hs, hdot, fun ks hk hks => ?_, hf⟩
    refine hdirs ks hk (hks.trans (List.prefix_append ms _)) fun he => ?_
    have hlen := hks.length_le
    rw [he, List.length_append, List.length_singleton] at hlen
    omega

/-- The names that lead to the path do so through directories that can be listed. -/
lemma Corpus.Unbarred.listed {c : Corpus} {t : Tree} {cwd : Place} {ns ms : List Bytes}
    (h : c.Unbarred t cwd (c.root.joins ns)) (hns : ∀ n ∈ ns, Path.IsName n) (hms : ms <+: ns)
    (hne : ms ≠ ns) : t.Listed cwd (c.root.joins ms) := by
  obtain ⟨ks, k, hp, hks, hlisted⟩ := h
  obtain rfl := Path.joins_inj hns hks hp
  exact hlisted ms ((List.prefix_concat_iff.mp hms).resolve_left hne)

namespace Walk

/-- From a path on, names lead to an example. All directories on the way can be listed, and none
below the path is a link. -/
structure Leads (w : Walk σ ε) (p : Path) (ns : List Bytes) (s : σ) : Prop where
  isExample : Corpus.isExample (w.tree s) w.cwd w.extension (p.joins ns)
  dirs : ∀ ms, ms ≠ [] → ms <+: ns → ms ≠ ns → (w.tree s).RealDir w.cwd (p.joins ms)
  listed : ∀ ms, ms <+: ns → ms ≠ ns → (w.tree s).Listed w.cwd (p.joins ms)

variable {w : Walk σ ε} {p : Path} {ns : List Bytes} {s : σ}

lemma Leads.tail {n : Bytes} (h : w.Leads p (n :: ns) s) : w.Leads (p.join n) ns s where
  isExample := h.isExample
  dirs ms _ hms hne := h.dirs (n :: ms) (List.cons_ne_nil n ms)
    ((List.prefix_cons_inj n).mpr hms) fun he => hne (List.cons.inj he).2
  listed ms hms hne := h.listed (n :: ms) ((List.prefix_cons_inj n).mpr hms)
    fun he => hne (List.cons.inj he).2

lemma Leads.find (h : w.Leads p ns s) :
    ∃ q id, (w.tree s).find w.cwd true (p.joins ns) = .ok (q, .file id) :=
  Tree.isFile_iff.mp (Corpus.isExample_iff.mp h.isExample).1

/-- The directory lists the next name, as a directory if the way goes on. -/
lemma Leads.next {n : Bytes} (hp : p ≠ []) (hns : ∀ m ∈ n :: ns, Path.IsName m)
    (h : w.Leads p (n :: ns) s) :
    ∃ es e, (w.tree s).list w.cwd p = .ok es ∧ (n, e) ∈ es ∧ (ns ≠ [] → e = .dir) := by
  obtain ⟨es, hes⟩ := Tree.listed_iff.mp (h.listed [] List.nil_prefix (List.cons_ne_nil n ns).symm)
  obtain ⟨q, id, hf⟩ := h.find
  obtain ⟨e, he, hdir⟩ := Tree.list_of_find_joins hp hns hf hes
  refine ⟨es, e, hes, he, fun hne => hdir ?_⟩
  exact h.dirs [n] (List.cons_ne_nil n []) ((List.prefix_cons_inj n).mpr List.nil_prefix)
    fun he => hne (List.cons.inj he).2.symm

/-! ### A log that only grows -/

end Walk

/-- The second trail goes on from the first. -/
structure Trail.Grows (a b : Trail σ) : Prop where
  log : a.2 <+: b.2
  moments : a.moments <+: b.moments

namespace Trail.Grows

variable {a b c : Trail σ}

lemma refl (a : Trail σ) : Grows a a := ⟨List.prefix_refl _, List.prefix_refl _⟩

lemma trans (h : Grows a b) (h' : Grows b c) : Grows a c :=
  ⟨h.log.trans h'.log, h.moments.trans h'.moments⟩

/-- A step that is followed by others only adds to the trail. -/
lemma bind {α β : Type} {x : EStateM ε (Trail σ) α} {f : α → EStateM ε (Trail σ) β}
    (hx : Grows a (after x b)) (hf : ∀ u c, Grows c (after (f u) c)) :
    Grows a (after (x >>= f) b) := by
  rw [after_bind]
  split
  · next u hu => exact hx.trans (hf u _)
  · exact hx

lemma forM {α : Type} {f : α → EStateM ε (Trail σ) PUnit} (hf : ∀ i b, Grows b (after (f i) b))
    (l : List α) (b : Trail σ) : Grows b (after (l.forM f) b) := by
  induction l generalizing b with
  | nil => exact .refl b
  | cons j l ih => exact (hf j b).bind fun _ => ih

lemma yielded (h : Grows a b) {y : Path × σ} (hy : y ∈ yielded a.2) :
    y ∈ ExampleSuite.yielded b.2 := by
  obtain ⟨l, hl⟩ := h.log
  rw [← hl, yielded_append]
  exact List.mem_append_left _ hy

end Trail.Grows

namespace Walk

variable {w : Walk σ ε} {x : EStateM ε (Trail σ) Unit}

lemma note_grows (f : Find) (a : Trail σ) : a.Grows (after (w.logged.handle f) a) := by
  rw [handle_logged, after_note]
  refine ⟨List.prefix_append _ _, ?_⟩
  simp [Trail.moments]

/-- Whatever a walk deals with, its log only grows. -/
lemma Goes.grows (hx : Goes w.logged x) (a : Trail σ) : a.Grows (after x a) :=
  hx.keeps (fun f b hb => hb.trans (note_grows f b)) (.refl a)

lemma visit_grows (n : Nat) (p : Path) (d : Bool) (a : Trail σ) :
    a.Grows (after (w.logged.visit n p d) a) :=
  (visit_goes n p d).grows a

/-! ### Nothing is passed over -/

lemma offer_finds {p : Path} {a : Trail σ}
    (h : Corpus.isExample (w.tree a.1) w.cwd w.extension p) :
    (p, a.1) ∈ yielded (after (w.logged.offer p) a).2 := by
  have hoffer : after (w.logged.offer p) a = after (w.logged.handle (.found ⟨p⟩)) a := by
    show after (if Corpus.isExample (w.tree a.1) w.cwd w.extension p then w.logged.found ⟨p⟩
      else pure ()) a = _
    rw [if_pos h]
    rfl
  rw [hoffer, handle_logged, after_note, yielded_append]
  exact List.mem_append_right _ (List.mem_singleton_self _)

/-- A visit comes to every entry of a listing. -/
lemma forM_reaches {α : Type} {f : α → EStateM ε (Trail σ) Unit}
    (hf : ∀ i (b : Trail σ), b.Grows (after (f i) b)) {l : List α} {i : α} (hi : i ∈ l)
    {a : Trail σ} (ok : answer (l.forM f) a = .ok ()) :
    ∃ b, answer (f i) b = .ok () ∧ (after (f i) b).Grows (after (l.forM f) a) := by
  induction l generalizing a with
  | nil => cases hi
  | cons j l ih =>
    obtain ⟨u, hj, hl, he⟩ :=
      of_answer_bind_ok (show answer (f j >>= fun _ => l.forM f) a = _ from ok)
    rw [show after ((j :: l).forM f) a = _ from he]
    rcases List.mem_cons.mp hi with rfl | hi
    · exact ⟨a, hj, .forM hf l _⟩
    · exact ih hi hl

/-- A visit offers its path first. -/
lemma visit_offers (n : Nat) (p : Path) (d : Bool) (a : Trail σ) :
    (after (w.logged.offer p) a).Grows (after (w.logged.visit n p d) a) := by
  have unread (e : Errno) (b : Trail σ) : b.Grows (after (w.logged.unread p e) b) :=
    note_grows (.unread p e) b
  cases n with
  | zero =>
    refine .bind (.refl _) fun _ b => ?_
    split
    · exact unread _ b
    · exact .refl b
  | succ n =>
    cases d with
    | false => exact .refl _
    | true =>
      cases hes : (w.tree a.1).list w.cwd p with
      | error e =>
        rw [after_congr (visit_unlisted w.logged hes n)]
        exact .bind (.refl _) fun _ => unread e
      | ok es =>
        rw [after_congr (visit_listed w.logged hes n)]
        exact .bind (.refl _) fun _ => .forM (fun x b => visit_grows n _ _ b) _

/-- What holds at all moments of a visit holds at its start. -/
lemma now_leads {n : Nat} {p : Path} {ns : List Bytes} {d : Bool} {a : Trail σ}
    (there : ∀ s ∈ (after (w.logged.visit n p d) a).moments, w.Leads p ns s) :
    w.Leads p ns a.1 :=
  there a.1 ((visit_grows n p d a).moments.subset (List.mem_append_right _ List.mem_cons_self))

/-- A visit that comes to its end has come to every example that was there all the time. -/
lemma visit_finds (n : Nat) {p : Path} (hp : p ≠ []) {ns : List Bytes}
    (hns : ∀ m ∈ ns, Path.IsName m) {d : Bool} (hd : ns ≠ [] → d = true)
    (deep : Tree.pathMax < n + p.length) {a : Trail σ}
    (ok : answer (w.logged.visit n p d) a = .ok ())
    (there : ∀ s ∈ (after (w.logged.visit n p d) a).moments, w.Leads p ns s) :
    ∃ s, (p.joins ns, s) ∈ yielded (after (w.logged.visit n p d) a).2 := by
  induction n generalizing p ns d a with
  | zero =>
    cases ns with
    | nil => exact ⟨a.1, (visit_offers 0 p d a).yielded (offer_finds (now_leads there).isExample)⟩
    | cons m ns =>
      obtain ⟨q, hq, -⟩ := (now_leads there).listed [] List.nil_prefix (List.cons_ne_nil m ns).symm
      obtain ⟨-, hl, -⟩ := Tree.find_eq_dir_iff.mp hq
      rw [Path.joins_nil] at hl
      omega
  | succ n ih =>
    cases ns with
    | nil => exact ⟨a.1, (visit_offers _ p d a).yielded (offer_finds (now_leads there).isExample)⟩
    | cons m ns =>
      obtain rfl := hd (List.cons_ne_nil m ns)
      have hm : Path.IsName m := hns m List.mem_cons_self
      have hlong : p.length + m.length ≤ (p.join m).length := Path.length_join_le p m
      have hpos : 0 < m.length := List.length_pos_iff.mpr hm.ne_nil
      obtain ⟨es, e, hes, he, hdir⟩ := (now_leads there).next hp hns
      rw [answer_congr (visit_listed w.logged hes n)] at ok
      obtain ⟨u, -, entries, hafter⟩ := of_answer_bind_ok ok
      obtain ⟨b, hb, hgrows⟩ := forM_reaches (fun x b => visit_grows n _ _ b)
        (mem_sorted.mpr he) entries
      rw [← hafter, ← after_congr (visit_listed w.logged hes n)] at hgrows
      obtain ⟨s, hs⟩ := ih (Path.join_ne_nil p hm) (fun k hk => hns k (List.mem_cons_of_mem m hk))
        (fun hne => by rw [hdir hne]; rfl) (by omega) hb
        fun s hs => (there s (hgrows.moments.subset hs)).tail
      exact ⟨s, hgrows.yielded hs⟩

lemma run_grows (root : Path) (a : Trail σ) : a.Grows (after (w.logged.run root) a) :=
  (run_goes root).grows a

/-- What a walk keeps holds at all its moments. -/
lemma moments_keep {P : σ → Prop} (keeps : ∀ f s, P s → P (after (w.handle f) s)) (root : Path)
    {s : σ} (hs : P s) : ∀ u ∈ (after (w.logged.run root) (s, [])).moments, P u := by
  refine run_keeps (P := fun a : Trail σ => ∀ u ∈ a.moments, P u) (fun f a ha u hu => ?_) root
    fun u hu => ?_
  · have hlast : P a.1 := ha a.1 (List.mem_append_right _ List.mem_cons_self)
    rw [handle_logged, after_note] at hu
    simp only [Trail.moments, List.map_append, List.map_cons, List.map_nil, List.mem_append,
      List.mem_singleton] at hu
    rcases hu with hu | rfl
    · exact ha u (by simpa [Trail.moments] using hu)
    · exact keeps f a.1 hlast
  · obtain rfl : u = s := by simpa [Trail.moments] using hu
    exact hs

lemma run_finds {root : Path} (hroot : root ≠ []) {ns : List Bytes} (hne : ns ≠ [])
    (hns : ∀ m ∈ ns, Path.IsName m) {a : Trail σ} (ok : answer (w.logged.run root) a = .ok ())
    (there : ∀ s ∈ (after (w.logged.run root) a).moments, w.Leads root ns s) :
    ∃ s, (root.joins ns, s) ∈ yielded (after (w.logged.run root) a).2 := by
  obtain ⟨q, hq, -⟩ : (w.tree a.1).Listed w.cwd (root.joins []) :=
    (there a.1 ((run_grows root a).moments.subset
      (List.mem_append_right _ List.mem_cons_self))).listed [] List.nil_prefix hne.symm
  have hr := run_root w.logged root a
  rw [show (w.logged.tree a).find w.logged.cwd true root = .ok (q, .dir) from hq] at hr
  rw [answer_congr hr] at ok
  rw [after_congr hr] at there ⊢
  refine visit_finds maxDepth hroot hns (fun _ => rfl) ?_ ok there
  have hlen : 0 < root.length := List.length_pos_iff.mpr hroot
  unfold maxDepth
  omega

/-! ### The theorem -/

/-- Whatever happens to the tree whenever a find is handed on: the walk through a corpus that has
been opened yields paths in strict order, part by part, and so none twice; each yield is a file
with the extension at its moment; and what the corpus holds at all moments of a walk that comes to
its end, in directories that can be listed as long, is yielded exactly once. -/
theorem run_discovers {w : Walk σ ε} {P : σ → Prop}
    (keeps : ∀ f s, P s → P (after (w.handle f) s)) (proper : ∀ s, P s → (w.tree s).Proper)
    {t : Tree} {root : Path} {extension : String} {c : Corpus}
    (opened : Corpus.at? t w.cwd root extension = .ok c)
    (configured : w.extension = Bytes.ofString c.extension) (s : σ) (hs : P s) :
    let a := after (w.logged.run c.root) (s, [])
    a.1 = after (w.run c.root) s ∧
    (yielded a.2).Pairwise (fun y z => Path.steps y.1 < Path.steps z.1) ∧
    ((yielded a.2).map (·.1)).Nodup ∧
    (∀ y ∈ yielded a.2, (w.tree y.2).isFile w.cwd y.1 ∧ Path.extension y.1 = some w.extension) ∧
    (answer (w.run c.root) s = .ok () → ∀ p,
      (∀ u ∈ a.moments, c.Holds (w.tree u) w.cwd p ∧ c.Unbarred (w.tree u) w.cwd p) →
      ((yielded a.2).map (·.1)).count p = 1) := by
  intro a
  obtain ⟨hanswer, hafter⟩ := run_alike (logged_agree w) c.root (s, []) s rfl
  have hyields : Yields P (w.Reached (fun _ => True) (fun _ => True) c.root true)
      (w.logged.run c.root) (s, []) :=
    run_yields keeps proper (fun _ _ _ _ => trivial) (fun _ _ _ _ => trivial) c.root hs
  obtain ⟨l, hl, ordered, reached⟩ := hyields.log
  obtain rfl : a.2 = l := hl
  have hnodup : ((yielded a.2).map (·.1)).Nodup :=
    Path.nodup_of_ordered (List.pairwise_map.mpr ordered)
  refine ⟨hafter, ordered, hnodup, fun y hy => Corpus.isExample_iff.mp (reached y hy).isExample,
    fun ok p there => List.count_eq_one_of_mem hnodup ?_⟩
  have hroot : c.root ≠ [] := Corpus.root_ne_nil opened
  obtain ⟨ns, hne, hns, rfl, -, -⟩ :=
    Corpus.holds_iff.mp (there s ((run_grows c.root (s, [])).moments.subset List.mem_cons_self)).1
  have leads (u : σ) (hu : u ∈ a.moments) : w.Leads c.root ns u := by
    obtain ⟨holds, unbarred⟩ := there u hu
    obtain ⟨ms, -, hms, hp, hex, hdirs⟩ := Corpus.holds_iff.mp holds
    obtain rfl : ns = ms := Path.joins_inj hns hms hp
    exact ⟨configured ▸ hex, hdirs, fun ms => unbarred.listed hns⟩
  obtain ⟨u, hu⟩ := run_finds hroot hne hns (hanswer.trans ok) leads
  exact List.mem_map_of_mem hu

/-- A walk over a disk to which some changes are made at each find. -/
def amid (cwd : Place) (extension : Bytes) : Walk (Disk × List (List Disk.Change)) Empty where
  tree s := s.1.tree
  cwd := cwd
  extension := extension
  found _ := modify fun s => ((s.2.headD []).foldl (Disk.change cwd) s.1, s.2.tail)
  unread _ _ := pure ()

lemma amid_found {cwd : Place} {extension : Bytes} (c : Candidate) (d : Disk)
    (xs : List (List Disk.Change)) : after ((amid cwd extension).handle (.found c)) (d, xs) =
      ((xs.headD []).foldl (Disk.change cwd) d, xs.tail) := rfl

lemma amid_keeps {cwd : Place} (hcwd : Tree.Named cwd) (extension : Bytes) (f : Find)
    (s : Disk × List (List Disk.Change)) (hs : s.1.tree.Proper) :
    (after ((amid cwd extension).handle f) s).1.tree.Proper := by
  cases f with
  | found c =>
    obtain ⟨d, xs⟩ := s
    rw [amid_found]
    dsimp only at hs ⊢
    induction xs.headD [] generalizing d with
    | nil => exact hs
    | cons x xs ih => exact ih _ (Disk.change_proper hs hcwd x)
  | unread p e => exact hs

/-- Four examples, two of them in directories of their own. -/
@[irreducible]
def shelf : Disk :=
  [.makeDir (Bytes.ofString "examples/m"), .makeDir (Bytes.ofString "examples/n"),
    .writeFile (Bytes.ofString "examples/a.franz") [] false,
    .writeFile (Bytes.ofString "examples/m/x.franz") [] false,
    .writeFile (Bytes.ofString "examples/n/y.franz") [] false,
    .writeFile (Bytes.ofString "examples/z.franz") [] false].foldl (Disk.change []) .empty

/-- When the first example is found, a directory is removed, another is barred, and another file is
written. -/
def swap : List Disk.Change :=
  [.remove (Bytes.ofString "examples/m"), .bar (Bytes.ofString "examples/n"),
    .writeFile (Bytes.ofString "examples/b.franz") [] false]

lemma swap_moments {root : Path} {s : Disk × List (List Disk.Change)}
    (hs : s ∈ (after ((amid [] (Bytes.ofString "franz")).logged.run root)
      ((shelf, [swap]), [])).moments) :
    s = (shelf, [swap]) ∨ s = (swap.foldl (Disk.change []) shelf, []) := by
  refine moments_keep
    (P := fun s => s = (shelf, [swap]) ∨ s = (swap.foldl (Disk.change []) shelf, []))
    (fun f s hs => ?_) root (.inl rfl) s hs
  cases f with
  | found c =>
    obtain rfl | rfl := hs
    · rw [amid_found]
      exact .inr rfl
    · rw [amid_found]
      exact .inr rfl
  | unread p e => exact hs

/-- The last example is there all the time and is found once, whatever becomes of those in the
directories. -/
theorem swap_discovers :
    let w := amid [] (Bytes.ofString "franz")
    let c : Corpus := ⟨Bytes.ofString "examples", "franz"⟩
    let p := Bytes.ofString "examples/z.franz"
    let a := after (w.logged.run c.root) ((shelf, [swap]), [])
    (∀ u ∈ a.moments, c.Holds (w.tree u) w.cwd p ∧ c.Unbarred (w.tree u) w.cwd p) ∧
      ((yielded a.2).map (·.1)).count p = 1 := by
  intro w c p a
  have last : p = c.root.joins ([] ++ [[0x7A] ++ Path.dot :: Bytes.ofString c.extension]) := by
    decide +kernel
  have names : ∀ n ∈ [] ++ [[0x7A] ++ Path.dot :: Bytes.ofString c.extension], Path.IsName n := by
    decide +kernel
  have held {t : Tree} (hf : t.isFile [] p) (hl : t.Listed [] c.root) :
      c.Holds t [] p ∧ c.Unbarred t [] p := by
    refine ⟨⟨[], [0x7A], last, names, by decide, by decide +kernel,
      fun ms hne hms => absurd (List.prefix_nil.mp hms) hne, hf⟩, [], _, last, names, ?_⟩
    intro ms hms
    rwa [List.prefix_nil.mp hms]
  have there : ∀ u ∈ a.moments, c.Holds (w.tree u) w.cwd p ∧ c.Unbarred (w.tree u) w.cwd p := by
    intro u hu
    obtain rfl | rfl := swap_moments hu
    · exact held (by decide +kernel) (by decide +kernel)
    · exact held (by decide +kernel) (by decide +kernel)
  obtain ⟨-, -, -, -, found⟩ := run_discovers (w := w) (P := fun s => s.1.tree.Proper)
    (t := shelf.tree) (c := c) (amid_keeps (by decide) _) (fun _ hs => hs)
    (Corpus.at?_eq_ok_iff.mpr ⟨by decide +kernel, rfl⟩) rfl (shelf, [swap]) (by decide +kernel)
  refine ⟨there, found ?_ p there⟩
  cases answer (w.run c.root) (shelf, [swap]) with
  | ok u => rfl
  | error e => exact e.elim

end Walk

end ExampleSuite
