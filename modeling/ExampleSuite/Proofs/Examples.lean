import ExampleSuite.Proofs.Discovery

/-!
The examples of a corpus in a tree that stays as it is.

They are the files that the corpus holds, each once, in the order of the names on the way to them.
What lies in a directory that must not be listed is passed over. Neither the order in which the
tree has been made nor the numbers of its files matter: all that the walk knows of a tree is where
each path leads, of what kind that is, and what is barred.
-/

namespace ExampleSuite

/-! ### Trees that hold the same -/

/-- What an entry is, whatever the number of its contents. -/
def Entry.bare : Entry → Entry
  | .file _ => .file 0
  | e => e

namespace Tree

variable {t u : Tree} {cwd q : Place} {follow : Bool} {p : Path}

/-- The trees hold the same at each place, in whatever order and with whatever numbers of files, and
bar the same places. -/
structure Same (t u : Tree) : Prop where
  get : ∀ q, (t.get q).map Entry.bare = (u.get q).map Entry.bare
  barred : ∀ q, q ∈ t.barred ↔ q ∈ u.barred

/-- A place that a path leads to, whatever the number of its contents. -/
def Spot.bare (v : Spot) : Spot := (v.1, v.2.map Entry.bare)

lemma Same.symm (h : t.Same u) : u.Same t := ⟨fun q => (h.get q).symm, fun q => (h.barred q).symm⟩

/-- At a place, both trees have nothing, or the same but for the number of a file. -/
lemma Same.get_cases (h : t.Same u) (q : Place) :
    (t.get q = u.get q) ∨ ∃ i j, t.get q = some (.file i) ∧ u.get q = some (.file j) := by
  have hq := h.get q
  rcases ht : t.get q with _ | _ | _ | _ | _ <;> rcases hu : u.get q with _ | _ | _ | _ | _ <;>
    simp_all [Entry.bare]

lemma Same.step (h : t.Same u) (q : Place) (s : Bytes) : step t q s = step u q s := by
  unfold Tree.step
  obtain hq | ⟨i, j, hi, hj⟩ := h.get_cases q
  · rw [hq]
    obtain hs | ⟨i, j, hi, hj⟩ := h.get_cases (q ++ [s])
    · rw [hs]
    · rw [hi, hj]
  · rw [hi, hj]

lemma Same.advance (h : t.Same u) {onLink onLink' : Place → List Bytes → Except Errno Spot}
    (hlink : ∀ q ss, (onLink q ss).map Spot.bare = (onLink' q ss).map Spot.bare) (q : Place)
    (ss : List Bytes) : (advance t follow onLink q ss).map Spot.bare =
      (advance u follow onLink' q ss).map Spot.bare := by
  induction ss generalizing q with
  | nil => exact congrArg (fun e => Except.ok (q, e)) (h.get q)
  | cons s ss ih =>
    rw [advance_cons, advance_cons, h.step]
    cases Tree.step u q s with
    | failed e => rfl
    | arrived r => exact ih r
    | nothing r => rfl
    | link r target =>
      dsimp only
      split_ifs
      · rfl
      · exact hlink _ _

lemma Same.locate (h : t.Same u) :
    (t.locate cwd follow p).map Spot.bare = (u.locate cwd follow p).map Spot.bare := by
  have htrace (k : Nat) (q : Place) (ss : List Bytes) :
      (trace t follow k q ss).map Spot.bare = (trace u follow k q ss).map Spot.bare := by
    induction k generalizing q ss with
    | zero => exact h.advance (fun _ _ => rfl) q ss
    | succ k ih => exact h.advance ih q ss
  unfold Tree.locate
  split_ifs
  · rfl
  · rfl
  · exact htrace _ _ _

/-- A path leads to the same place in both trees, and to the same but for the number of a file. -/
lemma Same.find (h : t.Same u) {e : Entry} (ht : t.find cwd follow p = .ok (q, e)) :
    ∃ e', u.find cwd follow p = .ok (q, e') ∧ e'.bare = e.bare := by
  have hl : (t.locate cwd follow p).map Spot.bare = (u.locate cwd follow p).map Spot.bare :=
    h.locate
  rw [find_eq_ok_iff.mp ht] at hl
  rcases hu : u.locate cwd follow p with e' | ⟨q', e'⟩
  · rw [hu] at hl
    cases hl
  · rw [hu] at hl
    obtain ⟨rfl, he⟩ := Prod.mk.inj (Except.ok.inj hl)
    obtain ⟨e'', rfl, he'⟩ := Option.map_eq_some_iff.mp he.symm
    exact ⟨e'', find_eq_ok_iff.mpr hu, he'⟩

lemma Same.find_dir (h : t.Same u) (ht : t.find cwd follow p = .ok (q, .dir)) :
    u.find cwd follow p = .ok (q, .dir) := by
  obtain ⟨e, he, hb⟩ := h.find ht
  cases e <;> first | exact he | cases hb

lemma Same.listed (h : t.Same u) (ht : t.Listed cwd p) : u.Listed cwd p := by
  obtain ⟨q, hq, hb⟩ := ht
  exact ⟨q, h.find_dir hq, fun hu => hb ((h.barred q).mpr hu)⟩

lemma Same.isFile (h : t.Same u) (ht : t.isFile cwd p) : u.isFile cwd p := by
  obtain ⟨q, id, hq⟩ := isFile_iff.mp ht
  obtain ⟨e, he, hb⟩ := h.find hq
  cases e with
  | file id' => exact isFile_iff.mpr ⟨q, id', he⟩
  | _ => cases hb

lemma Same.proper (h : t.Same u) (ht : t.Proper) : u.Proper := by
  intro x hx n hn
  have hne : x.1 ≠ [] := List.ne_nil_of_mem hn
  have hu := (get_eq_some_iff (e := x.2) hne).mpr hx
  obtain hq | ⟨i, j, hi, -⟩ := h.get_cases x.1
  · exact ht _ ((get_eq_some_iff hne).mp (hq.trans hu)) n hn
  · exact ht _ ((get_eq_some_iff hne).mp hi) n hn

end Tree

namespace Corpus

variable {t u : Tree} {cwd : Place} {c : Corpus} {p : Path}

/-- In a tree that bars nothing, the directories on the way to what a corpus holds can be listed. -/
lemma Holds.unbarred (h : c.Holds t cwd p) (hroot : t.Listed cwd c.root) (free : t.barred = []) :
    c.Unbarred t cwd p := by
  obtain ⟨ns, s, rfl, hns, -, -, hdirs, -⟩ := h
  refine ⟨ns, _, rfl, hns, fun ms hms => ?_⟩
  rcases eq_or_ne ms [] with rfl | hne
  · exact hroot
  · obtain ⟨q, hq⟩ := (hdirs ms hne hms).find
    exact ⟨q, hq, by simp [free]⟩

/-! ### What is collected -/

section

variable {root : Path} {extension : String} (proper : t.Proper)
  (opened : at? t cwd root extension = .ok c)
include proper

include opened

end

/-- An example beside a directory, and a link to where they are. -/
def linked : Disk :=
  [.makeDir (Bytes.ofString "examples/a"), .writeFile (Bytes.ofString "examples/a.franz") [] false,
    .writeFile (Bytes.ofString "examples/.franz") [] false,
    .makeLink (Bytes.ofString "link") (Bytes.ofString "examples")].foldl (Disk.change []) .empty

/-- What lies in a directory comes before a file that has the name of the directory in front. -/
example : [Bytes.ofString "a", Bytes.ofString "x"] < [Bytes.ofString "a.franz"] := by decide

end Corpus

end ExampleSuite
