import ExampleSuite.Proofs.Paths
import ExampleSuite.Tree

/-!
Where a path leads that goes on by a name.

A name below a path is looked up where the path leads with all its links followed, and links on
the way there count as before. So what a directory lists and what the paths below it lead to agree.
-/

namespace ExampleSuite.Tree

variable {t : Tree} {cwd : Place} {follow : Bool}

/-! ### A single step -/

/-- What a single step comes to. -/
inductive Step where
  | failed (e : Errno)
  | arrived (q : Place)
  | nothing (q : Place)
  | link (q : Place) (target : Path)

def step (t : Tree) (q : Place) (s : Bytes) : Step :=
  match t.get q with
  | none => .failed .noEntry
  | some .dir =>
    if s = Path.here then .arrived q
    else if s = Path.up then .arrived q.dropLast
    else if nameMax < s.length then .failed .tooLong
    else match t.get (q ++ [s]) with
      | none => .nothing (q ++ [s])
      | some (.link target) => .link (q ++ [s]) target
      | some _ => .arrived (q ++ [s])
  | some _ => .failed .notDir

lemma advance_cons (onLink : Place → List Bytes → Except Errno Spot) (q : Place) (s : Bytes)
    (ss : List Bytes) :
    advance t follow onLink q (s :: ss) =
      match step t q s with
      | .failed e => .error e
      | .arrived r => advance t follow onLink r ss
      | .nothing r => if ss = [] then .ok (r, none) else .error .noEntry
      | .link r target =>
        if ss = [] ∧ follow = false then .ok (r, some (.link target))
        else onLink (start q target) (route target ++ ss) := by
  rw [advance, step]
  cases t.get q with
  | none => rfl
  | some e =>
    cases e with
    | dir =>
      dsimp only
      by_cases hs : s = Path.here
      · rw [if_pos hs, if_pos hs]
      rw [if_neg hs, if_neg hs]
      by_cases hu : s = Path.up
      · rw [if_pos hu, if_pos hu]
      rw [if_neg hu, if_neg hu]
      by_cases hl : nameMax < s.length
      · rw [if_pos hl, if_pos hl]
      rw [if_neg hl, if_neg hl]
      rcases t.get (q ++ [s]) with _ | _ | _ | _ | _ <;> rfl
    | _ => rfl

/-! ### One more step at the end -/

/-- What one more step leads to after the steps that led to the first answer. -/
inductive Onward (t : Tree) (follow : Bool) (n : Bytes) :
    Except Errno Spot → Except Errno Spot → Prop where
  | failed (e : Errno) : Onward t follow n (.error e) (.error e)
  | absent (q : Place) : Onward t follow n (.ok (q, none)) (.error .noEntry)
  /-- The links left are as many as were not met on the way. -/
  | within (q : Place) (left : Nat) (dir : t.get q = some .dir) :
      Onward t follow n (.ok (q, some .dir)) (trace t follow left q [n])
  | blocked (q : Place) (e : Entry) (other : e ≠ .dir) :
      Onward t follow n (.ok (q, some e)) (.error .notDir)

namespace Onward

variable {n : Bytes} {r r' : Except Errno Spot} {q : Place} {v : Spot}

lemma of_ok (h : Onward t follow n r (.ok v)) :
    ∃ q left, r = .ok (q, some .dir) ∧ t.get q = some .dir ∧
      trace t follow left q [n] = .ok v := by
  generalize hv : Except.ok v = r' at h
  cases h with
  | within q left dir => exact ⟨q, left, rfl, dir, rfl⟩
  | failed e => cases hv
  | absent q => cases hv
  | blocked q e other => cases hv

lemma of_dir (h : Onward t follow n (.ok (q, some .dir)) r') :
    t.get q = some .dir ∧ ∃ left, r' = trace t follow left q [n] := by
  generalize hr : (Except.ok (q, some .dir) : Except Errno Spot) = r at h
  cases h with
  | within q left dir =>
    cases hr
    exact ⟨dir, left, rfl⟩
  | failed e => cases hr
  | absent q => cases hr
  | blocked q e other =>
    cases hr
    exact absurd rfl other

end Onward

lemma advance_snoc {onLink onLink' : Place → List Bytes → Except Errno Spot} {n : Bytes}
    (left : Nat) (hlink : ∀ q ss, Onward t follow n (onLink q ss) (onLink' q (ss ++ [n])))
    (hlast : ∀ q, advance t follow onLink' q [n] = trace t follow left q [n]) (q : Place)
    (ss : List Bytes) :
    Onward t follow n (advance t true onLink q ss) (advance t follow onLink' q (ss ++ [n])) := by
  induction ss generalizing q with
  | nil =>
    rw [List.nil_append, advance]
    cases hq : t.get q with
    | none =>
      rw [advance, hq]
      exact .absent q
    | some e =>
      by_cases he : e = .dir
      · subst he
        rw [hlast]
        exact .within q left hq
      · have hb : advance t follow onLink' q [n] = .error .notDir := by
          rw [advance, hq]
          cases e <;> first | rfl | exact absurd rfl he
        rw [hb]
        exact .blocked q e he
  | cons s ss ih =>
    rw [List.cons_append, advance_cons, advance_cons]
    cases step t q s with
    | failed e => exact .failed e
    | arrived r => exact ih r
    | nothing r =>
      dsimp only
      rw [if_neg (by simp : ¬ ss ++ [n] = [])]
      split_ifs
      · exact .absent r
      · exact .failed .noEntry
    | link r target =>
      dsimp only
      rw [if_neg (by simp), if_neg (by simp), ← List.append_assoc]
      exact hlink (start q target) (route target ++ ss)

lemma trace_snoc (n : Bytes) (k : Nat) (q : Place) (ss : List Bytes) :
    Onward t follow n (trace t true k q ss) (trace t follow k q (ss ++ [n])) := by
  induction k generalizing q ss with
  | zero => exact advance_snoc 0 (fun _ _ => .failed _) (fun _ => rfl) q ss
  | succ k ih => exact advance_snoc (k + 1) ih (fun _ => rfl) q ss

/-! ### A name in a directory -/

variable {q : Place} {n : Bytes}

lemma trace_here (k : Nat) (hq : t.get q = some .dir) :
    trace t follow k q [Path.here] = .ok (q, some .dir) := by
  cases k <;> simp [trace, advance, hq]

section

variable (k : Nat) (hq : t.get q = some .dir) (hn : Path.IsName n)
include hq hn

lemma trace_tooLong (hl : nameMax < n.length) : trace t follow k q [n] = .error .tooLong := by
  cases k <;> simp [trace, advance, hq, hn.ne_here, hn.ne_up, hl]

lemma trace_name (hl : n.length ≤ nameMax)
    (he : follow = false ∨ ∀ target, t.get (q ++ [n]) ≠ some (.link target)) :
    trace t follow k q [n] = .ok (q ++ [n], t.get (q ++ [n])) := by
  have hne : q ++ [n] ≠ [] := by simp
  cases hg : t.get (q ++ [n]) with
  | none => cases k <;> simp [trace, advance, hq, hn.ne_here, hn.ne_up, Nat.not_lt.mpr hl, hg]
  | some e =>
    cases e with
    | link target =>
      obtain rfl | he := he
      · cases k <;> simp [trace, advance, hq, hn.ne_here, hn.ne_up, Nat.not_lt.mpr hl, hg]
      · exact absurd hg (he target)
    | _ => cases k <;> simp [trace, advance, hq, hn.ne_here, hn.ne_up, Nat.not_lt.mpr hl, hg]

end

/-! ### Paths below a path -/

variable {p : Path}

lemma route_eq (p : Path) :
    route p = Path.parts p ∨ route p = Path.parts p ++ [Path.here] := by
  unfold route Path.parts
  dsimp only
  split_ifs
  · exact .inr rfl
  · exact .inl (List.append_nil _)

lemma route_join (p : Path) (hn : Path.IsName n) :
    route (p.join n) = Path.parts p ++ [n] := by
  have hlast : (Bytes.splitOn Path.slash (p.join n)).getLast? = some n := by
    have hs := Bytes.splitOn_of_notMem hn.no_slash
    by_cases hp : p = []
    · subst hp
      rw [Path.join, if_pos rfl, hs]
      rfl
    · obtain ⟨q, -, h⟩ | ⟨-, h⟩ := Path.join_cases hp n <;>
        rw [h, Bytes.splitOn_append_cons, hs, List.getLast?_concat]
  have hne : ¬ (p.join n ≠ [] ∧ (Bytes.splitOn Path.slash (p.join n)).getLast? = some []) := by
    rw [hlast]
    exact fun h => hn.ne_nil (Option.some.inj h.2)
  rw [← Path.parts_join p hn, route, if_neg hne, List.append_nil, Path.parts]

lemma start_join (hp : p ≠ []) (n : Bytes) : start cwd (p.join n) = start cwd p := by
  have habs (r : Bytes) : Path.isAbsolute (p ++ r) = Path.isAbsolute p := by
    obtain ⟨b, p, rfl⟩ := List.exists_cons_of_ne_nil hp
    rfl
  have hjoin : Path.isAbsolute (p.join n) = Path.isAbsolute p := by
    rw [Path.join, if_neg hp]
    split_ifs
    · exact habs n
    · exact habs (Path.slash :: n)
  rw [start, start, hjoin]

/-- What a name below a path leads to, by what the path leads to. -/
lemma locate_join (hp : p ≠ []) (hn : Path.IsName n) (hl : (p.join n).length ≤ pathMax) :
    Onward t follow n (trace t true maxLinks (start cwd p) (Path.parts p))
      (t.locate cwd follow (p.join n)) := by
  rw [locate, if_neg (Path.join_ne_nil p hn), if_neg (Nat.not_lt.mpr hl), start_join hp,
    route_join p hn]
  exact trace_snoc n maxLinks (start cwd p) (Path.parts p)

lemma find_eq_ok_iff {e : Entry} :
    t.find cwd follow p = .ok (q, e) ↔ t.locate cwd follow p = .ok (q, some e) := by
  unfold find
  rcases t.locate cwd follow p with e' | ⟨q', _ | e'⟩ <;> simp

/-- Whether a path leads to a directory does not depend on a slash at its end. -/
lemma find_eq_dir_iff : t.find cwd true p = .ok (q, .dir) ↔
    p ≠ [] ∧ p.length ≤ pathMax ∧
      trace t true maxLinks (start cwd p) (Path.parts p) = .ok (q, some .dir) := by
  rw [find_eq_ok_iff, locate]
  by_cases hp : p = []
  · simp [hp]
  by_cases hl : pathMax < p.length
  · simp [hp, hl, Nat.not_le.mpr hl]
  rw [if_neg hp, if_neg hl, and_iff_right hp, and_iff_right (Nat.not_lt.mp hl)]
  obtain hr | hr := route_eq p
  · rw [hr]
  · rw [hr]
    have hon : Onward t true Path.here (trace t true maxLinks (start cwd p) (Path.parts p))
        (trace t true maxLinks (start cwd p) (Path.parts p ++ [Path.here])) :=
      trace_snoc Path.here maxLinks (start cwd p) (Path.parts p)
    generalize trace t true maxLinks (start cwd p) (Path.parts p) = r at hon ⊢
    generalize trace t true maxLinks (start cwd p) (Path.parts p ++ [Path.here]) = r' at hon ⊢
    cases hon with
    | failed e => rfl
    | absent q => simp
    | within q left dir => rw [trace_here left dir]
    | blocked q e other => simp [other]

/-- A path goes on only from a directory, and only by a name that is not too long. -/
lemma find_join_ok (hp : p ≠ []) (hn : Path.IsName n) {r : Place × Entry}
    (h : t.find cwd follow (p.join n) = .ok r) :
    (p.join n).length ≤ pathMax ∧ n.length ≤ nameMax ∧
      ∃ q e, t.find cwd true p = .ok (q, .dir) ∧ t.get (q ++ [n]) = some e := by
  rw [find_eq_ok_iff] at h
  have hl : (p.join n).length ≤ pathMax := by
    by_contra hl
    rw [locate, if_neg (Path.join_ne_nil p hn), if_pos (Nat.not_le.mp hl)] at h
    cases h
  have hpl : p.length ≤ pathMax := by
    have := Path.length_join_le p n
    omega
  have hon : Onward t follow n (trace t true maxLinks (start cwd p) (Path.parts p))
      (t.locate cwd follow (p.join n)) := locate_join hp hn hl
  rw [h] at hon
  obtain ⟨q, left, hr, hq, hv⟩ := hon.of_ok
  have hnl : n.length ≤ nameMax := by
    by_contra hnl
    rw [trace_tooLong left hq hn (Nat.not_le.mp hnl)] at hv
    cases hv
  refine ⟨hl, hnl, q, ?_⟩
  cases hg : t.get (q ++ [n]) with
  | some e => exact ⟨e, find_eq_dir_iff.mpr ⟨hp, hpl, hr⟩, rfl⟩
  | none =>
    rw [trace_name left hq hn hnl (.inr (by simp [hg])), hg] at hv
    exact absurd (congrArg Prod.snd (Except.ok.inj hv)) (by simp)

/-- What a directory has under a name is what the name below it leads to. -/
lemma find_join (hn : Path.IsName n) (hl : (p.join n).length ≤ pathMax)
    (hnl : n.length ≤ nameMax) {q : Place} (hq : t.find cwd true p = .ok (q, .dir)) {e : Entry}
    (he : t.get (q ++ [n]) = some e) (hlink : follow = false ∨ ∀ target, e ≠ .link target) :
    t.find cwd follow (p.join n) = .ok (q ++ [n], e) := by
  obtain ⟨hp, -, hr⟩ := find_eq_dir_iff.mp hq
  have hon : Onward t follow n (trace t true maxLinks (start cwd p) (Path.parts p))
      (t.locate cwd follow (p.join n)) := locate_join hp hn hl
  rw [hr] at hon
  obtain ⟨hd, left, hv⟩ := hon.of_dir
  rw [find_eq_ok_iff, hv, trace_name left hd hn hnl, he]
  rw [he]
  exact hlink.imp_right fun h target ht => h target (Option.some.inj ht)

lemma find_joins_ok (hp : p ≠ []) {ns : List Bytes} (hns : ∀ m ∈ n :: ns, Path.IsName m)
    {r : Place × Entry} (h : t.find cwd follow (p.joins (n :: ns)) = .ok r) :
    (p.joins (n :: ns)).length ≤ pathMax ∧ n.length ≤ nameMax ∧
      ∃ q e, t.find cwd true p = .ok (q, .dir) ∧ t.get (q ++ [n]) = some e := by
  induction ns generalizing p n with
  | nil => exact find_join_ok hp (hns n List.mem_cons_self) h
  | cons m ns ih =>
    have hn : Path.IsName n := hns n List.mem_cons_self
    obtain ⟨hl, -, q, e, hq, -⟩ :=
      ih (Path.join_ne_nil p hn) (fun s hs => hns s (List.mem_cons_of_mem n hs)) h
    obtain ⟨-, hdir⟩ := find_join_ok hp hn hq
    exact ⟨hl, hdir⟩

/-! ### Links at the end -/

lemma advance_unfollowed {onLink onLink' : Place → List Bytes → Except Errno Spot}
    (hlink : ∀ q ss, (∃ r target, onLink q ss = .ok (r, some (.link target))) ∨
      onLink q ss = onLink' q ss) (q : Place) (ss : List Bytes) :
    (∃ r target, advance t false onLink q ss = .ok (r, some (.link target))) ∨
      advance t false onLink q ss = advance t true onLink' q ss := by
  induction ss generalizing q with
  | nil => exact .inr rfl
  | cons s ss ih =>
    rw [advance_cons, advance_cons]
    cases step t q s with
    | failed e => exact .inr rfl
    | arrived r => exact ih r
    | nothing r => exact .inr rfl
    | link r target =>
      dsimp only
      rw [if_neg (by simp : ¬ (ss = [] ∧ true = false))]
      split_ifs
      · exact .inl ⟨r, target, rfl⟩
      · exact hlink _ _

/-- Links at the end set apart, a path leads to the same whether they are followed or not. -/
lemma find_unfollowed (t : Tree) (cwd : Place) (p : Path) :
    (∃ q target, t.find cwd false p = .ok (q, .link target)) ∨
      t.find cwd false p = t.find cwd true p := by
  have htrace (k : Nat) (q : Place) (ss : List Bytes) :
      (∃ r target, trace t false k q ss = .ok (r, some (.link target))) ∨
        trace t false k q ss = trace t true k q ss := by
    induction k generalizing q ss with
    | zero => exact advance_unfollowed (fun _ _ => .inr rfl) q ss
    | succ k ih => exact advance_unfollowed ih q ss
  unfold find locate
  split_ifs
  · exact .inr rfl
  · exact .inr rfl
  · obtain ⟨q, target, h⟩ | h := htrace maxLinks (start cwd p) (route p)
    · exact .inl ⟨q, target, by rw [h]⟩
    · exact .inr (by rw [h])

end ExampleSuite.Tree
