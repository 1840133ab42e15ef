import ExampleSuite.Disk
import ExampleSuite.Proofs.Listing

/-!
Trees that change.

Whatever is made, removed or barred by a path, all places stay made of names: a path leads only to
such places, however many links it meets.
-/

namespace ExampleSuite

namespace Tree

variable {t : Tree} {cwd q : Place} {follow : Bool} {p : Path}

/-! ### Where a path can lead -/

/-- The place is made of names. -/
def Named (q : Place) : Prop := ∀ n ∈ q, Path.IsName n

instance (q : Place) : Decidable (Named q) := inferInstanceAs (Decidable (∀ n ∈ q, Path.IsName n))

/-- The steps are parts of a path: a name, a dot or two dots each. -/
def Parts (ss : List Bytes) : Prop := ∀ s ∈ ss, s ≠ [] ∧ Path.slash ∉ s

lemma Named.snoc (hq : Named q) {n : Bytes} (hn : Path.IsName n) : Named (q ++ [n]) := by
  intro m hm
  rcases List.mem_append.mp hm with hm | hm
  · exact hq m hm
  · rwa [List.mem_singleton.mp hm]

lemma Named.dropLast (hq : Named q) : Named q.dropLast :=
  fun n hn => hq n ((List.dropLast_sublist q).subset hn)

lemma Named.start (hcwd : Named cwd) (p : Path) : Named (start cwd p) := by
  unfold Tree.start
  split
  · exact fun n hn => absurd hn List.not_mem_nil
  · exact hcwd

lemma parts_route (p : Path) : Parts (route p) := by
  have hparts : Parts (Path.parts p) := fun s hs => by
    obtain ⟨hs, hne⟩ := List.mem_filter.mp hs
    exact ⟨bne_iff_ne.mp hne, Bytes.notMem_of_mem_splitOn hs⟩
  obtain hr | hr := route_eq p
  · rwa [hr]
  · rw [hr]
    intro s hs
    rcases List.mem_append.mp hs with hs | hs
    · exact hparts s hs
    · rw [List.mem_singleton.mp hs]
      decide

/-- The place that a step comes to, if it does not fail. -/
def Step.place : Step → Place
  | .failed _ => []
  | .arrived q | .nothing q | .link q _ => q

lemma named_step (hq : Named q) {s : Bytes} (hs : s ≠ [] ∧ Path.slash ∉ s) :
    Named (step t q s).place := by
  have nowhere : Named [] := fun n hn => absurd hn List.not_mem_nil
  rw [step]
  split
  · exact nowhere
  · by_cases hh : s = Path.here
    · rw [if_pos hh]
      exact hq
    by_cases hu : s = Path.up
    · rw [if_neg hh, if_pos hu]
      exact hq.dropLast
    rw [if_neg hh, if_neg hu]
    have hqs : Named (q ++ [s]) := hq.snoc ⟨hs.1, hh, hu, hs.2⟩
    split
    · exact nowhere
    · split <;> exact hqs
  · exact nowhere

lemma named_advance {onLink : Place → List Bytes → Except Errno Spot}
    (hlink : ∀ q ss, Named q → Parts ss → ∀ v, onLink q ss = .ok v → Named v.1)
    (hq : Named q) {ss : List Bytes} (hss : Parts ss) {v : Spot}
    (hv : advance t follow onLink q ss = .ok v) : Named v.1 := by
  induction ss generalizing q with
  | nil =>
    obtain rfl := Except.ok.inj hv
    exact hq
  | cons s ss ih =>
    obtain ⟨hs, hss⟩ := List.forall_mem_cons.mp hss
    have hstep : Named (step t q s).place := named_step hq hs
    rw [advance_cons] at hv
    cases hst : step t q s with
    | failed e => rw [hst] at hv; cases hv
    | arrived r =>
      rw [hst] at hv hstep
      exact ih hstep hss hv
    | nothing r =>
      rw [hst] at hv hstep
      dsimp only at hv
      split_ifs at hv
      obtain rfl := Except.ok.inj hv
      exact hstep
    | link r target =>
      rw [hst] at hv hstep
      dsimp only at hv
      split_ifs at hv
      · obtain rfl := Except.ok.inj hv
        exact hstep
      · refine hlink _ _ (hq.start target) (fun m hm => ?_) v hv
        exact (List.mem_append.mp hm).elim (parts_route target m) (hss m)

/-- A path leads only to a place that is made of names. -/
theorem named_locate (hcwd : Named cwd) {v : Spot} (hv : t.locate cwd follow p = .ok v) :
    Named v.1 := by
  have htrace (k : Nat) (q : Place) (ss : List Bytes) (hq : Named q) (hss : Parts ss) (v : Spot)
      (hv : trace t follow k q ss = .ok v) : Named v.1 := by
    induction k generalizing q ss v with
    | zero => exact named_advance (fun _ _ _ _ _ h => by cases h) hq hss hv
    | succ k ih => exact named_advance ih hq hss hv
  unfold locate at hv
  split_ifs at hv
  exact htrace _ _ _ (hcwd.start p) (parts_route p) v hv

/-! ### What keeps a tree proper -/

lemma Proper.put (ht : t.Proper) (hq : Named q) (e : Entry) : (t.put q e).Proper := by
  intro x hx
  rcases List.mem_append.mp hx with hx | hx
  · exact ht x (List.mem_of_mem_filter hx)
  · rw [List.mem_singleton.mp hx]
    exact hq

lemma Proper.remove (ht : t.Proper) (q : Place) : (t.remove q).Proper :=
  fun x hx => ht x (List.mem_of_mem_filter hx)

end Tree

namespace Disk

/-- What anyone can do to a disk by a path. -/
inductive Change where
  | writeFile (p : Path) (content : Bytes) (executable : Bool)
  | makeDir (p : Path)
  | makeLink (p target : Path)
  | remove (p : Path)
  | bar (p : Path)
  deriving DecidableEq, Repr

def change (cwd : Place) (d : Disk) : Change → Disk
  | .writeFile p content executable => d.writeFile cwd p content executable
  | .makeDir p => d.makeDir cwd p
  | .makeLink p target => d.makeLink cwd p target
  | .remove p => d.remove cwd p
  | .bar p => d.bar cwd p

variable {d : Disk} {cwd : Place}

lemma makeDirs_proper (hd : d.tree.Proper) (hcwd : Tree.Named cwd) (ss : List Bytes) :
    (d.makeDirs cwd ss).tree.Proper := by
  induction ss generalizing d cwd with
  | nil => exact hd
  | cons s ss ih =>
    rw [makeDirs]
    split
    · next p hp =>
      have hn : Tree.Named p := Tree.named_locate hcwd hp
      exact ih (hd.put hn .dir) hn
    · next p hp => exact ih hd (Tree.named_locate hcwd hp)
    · exact hd

/-- No change makes a place that is not made of names. -/
theorem change_proper (hd : d.tree.Proper) (hcwd : Tree.Named cwd) (x : Change) :
    (d.change cwd x).tree.Proper := by
  cases x with
  | writeFile p content executable =>
    show (d.writeFile cwd p content executable).tree.Proper
    unfold writeFile
    split
    · next q hq => exact hd.put (Tree.named_locate hcwd hq) _
    · exact hd
    · exact hd
  | makeDir p => exact makeDirs_proper hd (hcwd.start p) _
  | makeLink p target =>
    show (d.makeLink cwd p target).tree.Proper
    unfold makeLink
    split
    · next q hq => exact hd.put (Tree.named_locate hcwd hq) _
    · exact hd
  | remove p =>
    show (d.remove cwd p).tree.Proper
    unfold remove
    split
    · exact hd.remove _
    · exact hd
  | bar p =>
    show (d.bar cwd p).tree.Proper
    unfold bar
    split
    · exact hd
    · exact hd

end Disk

end ExampleSuite
