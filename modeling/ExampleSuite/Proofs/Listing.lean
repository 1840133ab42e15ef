import ExampleSuite.Corpus
import ExampleSuite.Proofs.Resolution
import Mathlib.Data.List.Nodup
import Mathlib.Data.List.Sort

/-!
What a directory holds.

A directory lists the names of the places right below it, each once, and a walk takes them in the
order of their bytes. A path that leads anywhere below a directory goes on by a listed name, if the
directory can be listed at all.
-/

namespace ExampleSuite

namespace Tree

variable {t : Tree} {cwd : Place} {p : Path} {n : Bytes}

/-- All places are made of names. -/
def Proper (t : Tree) : Prop := ∀ x ∈ t.entries, ∀ n ∈ x.1, Path.IsName n

instance (t : Tree) : Decidable t.Proper :=
  inferInstanceAs (Decidable (∀ x ∈ t.entries, ∀ n ∈ x.1, Path.IsName n))

lemma nameIn_eq_some_iff {q r : Place} : nameIn q r = some n ↔ r = q ++ [n] := by
  induction q generalizing r with
  | nil =>
    rcases r with _ | ⟨a, _ | ⟨b, r⟩⟩ <;> simp [nameIn]
  | cons a q ih =>
    cases r with
    | nil => simp [nameIn]
    | cons b r =>
      rw [nameIn]
      split_ifs with hab
      · simp [ih, hab]
      · simp [Ne.symm hab]

/-- No place has two entries. -/
lemma get_eq_some_iff {p : Place} (hp : p ≠ []) {e : Entry} :
    t.get p = some e ↔ (p, e) ∈ t.entries := by
  rw [get, if_neg hp, List.lookup_eq_some_iff]
  constructor
  · rintro ⟨l, r, h, -⟩
    simp [h]
  · intro h
    obtain ⟨l, r, hlr⟩ := List.append_of_mem h
    refine ⟨l, r, hlr, fun x hx => ?_⟩
    have hd := t.distinct
    rw [hlr, List.map_append, List.nodup_append] at hd
    rw [bne_iff_ne]
    exact (hd.2.2 x.1 (List.mem_map_of_mem hx) p (by simp)).symm

lemma mem_below_iff {q : Place} {e : Entry} :
    (n, e) ∈ t.below q ↔ t.get (q ++ [n]) = some e := by
  rw [get_eq_some_iff (by simp), below, List.mem_filterMap]
  constructor
  · rintro ⟨⟨r, e'⟩, hx, h⟩
    obtain ⟨m, hm, he⟩ := Option.map_eq_some_iff.mp h
    obtain ⟨rfl, rfl⟩ := Prod.mk.inj he
    rwa [← nameIn_eq_some_iff.mp hm]
  · intro h
    exact ⟨_, h, by rw [nameIn_eq_some_iff.mpr rfl]; rfl⟩

lemma nodup_below (t : Tree) (q : Place) : ((t.below q).map (·.1)).Nodup := by
  have hnames : (t.below q).map (·.1) = (t.entries.map (·.1)).filterMap (nameIn q) := by
    rw [below, List.map_filterMap, List.filterMap_map]
    refine List.filterMap_congr fun x _ => ?_
    cases h : nameIn q x.1 <;> simp [h]
  rw [hnames]
  refine List.Nodup.filterMap (fun a b m ha hb => ?_) t.distinct
  rw [nameIn_eq_some_iff.mp ha, nameIn_eq_some_iff.mp hb]

lemma Proper.isName (h : t.Proper) {q : Place} {x : Bytes × Entry} (hx : x ∈ t.below q) :
    Path.IsName x.1 := by
  have hg : t.get (q ++ [x.1]) = some x.2 := mem_below_iff.mp hx
  exact h _ ((get_eq_some_iff (by simp)).mp hg) x.1 (by simp)

lemma list_eq_ok_iff {es : List (Bytes × Entry)} :
    t.list cwd p = .ok es ↔
      ∃ q, t.find cwd true p = .ok (q, .dir) ∧ q ∉ t.barred ∧ es = t.below q := by
  unfold list
  rcases t.find cwd true p with e | ⟨q, _ | _ | _ | _⟩ <;> simp [eq_comm]
  by_cases hb : q ∈ t.barred <;> simp [hb]

/-- A path leads to a directory that can be listed. -/
def Listed (t : Tree) (cwd : Place) (p : Path) : Prop :=
  ∃ q, t.find cwd true p = .ok (q, .dir) ∧ q ∉ t.barred

lemma listed_iff : t.Listed cwd p ↔ ∃ es, t.list cwd p = .ok es := by
  constructor
  · rintro ⟨q, hq, hb⟩
    exact ⟨_, list_eq_ok_iff.mpr ⟨q, hq, hb, rfl⟩⟩
  · rintro ⟨es, hes⟩
    obtain ⟨q, hq, hb, -⟩ := list_eq_ok_iff.mp hes
    exact ⟨q, hq, hb⟩

instance (t : Tree) (cwd : Place) (p : Path) : Decidable (t.Listed cwd p) :=
  decidable_of_iff ((t.list cwd p).isOk = true) <| by
    rw [listed_iff]
    cases t.list cwd p <;> simp [Except.isOk, Except.toBool]

/-! ### Directories on the way -/

/-- A path leads to a directory that is not a link. -/
def RealDir (t : Tree) (cwd : Place) (p : Path) : Prop :=
  ∃ q, t.find cwd false p = .ok (q, .dir)

lemma RealDir.find (h : t.RealDir cwd p) : ∃ q, t.find cwd true p = .ok (q, .dir) := by
  obtain ⟨q, hq⟩ := h
  have hsame := (t.find_unfollowed cwd p).resolve_left (by simp [hq])
  exact ⟨q, hsame ▸ hq⟩

/-- If a path leads anywhere, a directory on the way that can be listed lists the name by which it
goes on, and lists it as a directory if it is one. -/
lemma list_of_find_joins {follow : Bool} (hp : p ≠ []) {ns : List Bytes}
    (hns : ∀ m ∈ n :: ns, Path.IsName m) {r : Place × Entry}
    (h : t.find cwd follow (p.joins (n :: ns)) = .ok r) {es : List (Bytes × Entry)}
    (hes : t.list cwd p = .ok es) :
    ∃ e, (n, e) ∈ es ∧ (t.RealDir cwd (p.join n) → e = .dir) := by
  have hn : Path.IsName n := hns n List.mem_cons_self
  obtain ⟨hl, hnl, q, e, hq, he⟩ := find_joins_ok hp hns h
  obtain ⟨q₁, hq₁, -, rfl⟩ := list_eq_ok_iff.mp hes
  obtain rfl : q = q₁ := congrArg Prod.fst (Except.ok.inj (hq.symm.trans hq₁))
  refine ⟨e, mem_below_iff.mpr he, fun ⟨q', hd⟩ => ?_⟩
  obtain ⟨hjl, -⟩ := find_join_ok hp hn hd
  rw [find_join hn hjl hnl hq he (.inl rfl)] at hd
  exact congrArg Prod.snd (Except.ok.inj hd)

/-- What is listed as a directory is one, if the path to it is not too long. -/
lemma realDir_of_list {es : List (Bytes × Entry)} (hn : Path.IsName n)
    (hl : (p.join n).length ≤ pathMax) (hnl : n.length ≤ nameMax)
    (h : t.list cwd p = .ok es) (he : (n, .dir) ∈ es) : t.RealDir cwd (p.join n) := by
  obtain ⟨q, hq, -, rfl⟩ := list_eq_ok_iff.mp h
  exact ⟨_, find_join hn hl hnl hq (mem_below_iff.mp he) (.inl rfl)⟩

lemma isDir_iff : t.isDir cwd p ↔ ∃ q, t.find cwd true p = .ok (q, .dir) := by
  unfold isDir
  rcases t.find cwd true p with e | ⟨q, _ | _ | _ | _⟩ <;> simp

end Tree

/-- A corpus is opened exactly below a directory that can be listed. -/
lemma Corpus.at?_eq_ok_iff {t : Tree} {cwd : Place} {root : Path} {extension : String}
    {c : Corpus} : Corpus.at? t cwd root extension = .ok c ↔
      t.Listed cwd root ∧ c = ⟨root, extension⟩ := by
  unfold Corpus.at?
  by_cases hd : t.isDir cwd root
  · rw [if_pos hd, Tree.listed_iff]
    cases t.list cwd root <;> simp [eq_comm]
  · have hl : ¬ t.Listed cwd root := fun ⟨q, hq, _⟩ => hd (Tree.isDir_iff.mpr ⟨q, hq⟩)
    rw [if_neg hd]
    simp [hl]

lemma Corpus.root_ne_nil {t : Tree} {cwd : Place} {root : Path} {extension : String} {c : Corpus}
    (h : Corpus.at? t cwd root extension = .ok c) : c.root ≠ [] := by
  obtain ⟨⟨q, hq, -⟩, rfl⟩ := Corpus.at?_eq_ok_iff.mp h
  exact (Tree.find_eq_dir_iff.mp hq).1

/-! ### The order of a listing -/

namespace Walk

/-- The names of the entries are in order. -/
def InOrder (x y : Bytes × Entry) : Prop := Bytes.le x.1 y.1

instance : DecidableRel InOrder := fun x y => inferInstanceAs (Decidable (Bytes.le x.1 y.1 = true))

lemma sorted_eq (es : List (Bytes × Entry)) : sorted es = es.insertionSort InOrder := by
  have hplace (x : Bytes × Entry) (ys : List (Bytes × Entry)) :
      place x ys = ys.orderedInsert InOrder x := by
    induction ys with
    | nil => rfl
    | cons y ys ih =>
      rw [place, List.orderedInsert, ih]
      rfl
  rw [sorted, List.insertionSort, funext₂ hplace]

lemma mem_sorted {es : List (Bytes × Entry)} {x : Bytes × Entry} : x ∈ sorted es ↔ x ∈ es := by
  rw [sorted_eq, List.mem_insertionSort]

/-- A walk takes the names of a directory in strict order. -/
lemma sorted_below (t : Tree) (q : Place) :
    (sorted (t.below q)).Pairwise fun x y => x.1 < y.1 := by
  have : Std.Total InOrder := ⟨fun x y => Bytes.le_total x.1 y.1⟩
  have : IsTrans _ InOrder := ⟨fun _ _ _ => Bytes.le_trans⟩
  have hle : (sorted (t.below q)).Pairwise InOrder := by
    rw [sorted_eq]
    exact List.pairwise_insertionSort InOrder (t.below q)
  have hne : (sorted (t.below q)).Pairwise fun x y => x.1 ≠ y.1 := by
    have hperm : ((sorted (t.below q)).map Prod.fst).Perm ((t.below q).map Prod.fst) := by
      rw [sorted_eq]
      exact (List.perm_insertionSort InOrder _).map _
    exact List.pairwise_map.mp (hperm.nodup_iff.mpr (t.nodup_below q))
  exact (hle.and hne).imp fun ⟨h, h'⟩ => (Bytes.le_iff.mp h).resolve_left h'

end Walk

end ExampleSuite
