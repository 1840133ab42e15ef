import ExampleSuite.Log
import Mathlib.Data.List.Induction
import Mathlib.Data.List.Infix
import Mathlib.Tactic.Common

/-!
What rules decide, however they have come together.

Only which names and texts were ever given counts for a verdict: not in how many calls, in which
order, or how often. The order counts only for which text is told to be found in a path, and what is
given later can only make a verdict stricter.
-/

namespace ExampleSuite

/-! ### Lists without repetition -/

section

variable {α : Type} [BEq α] [LawfulBEq α]

lemma occursIn_iff {p l : List α} : occursIn p l = true ↔ p <:+: l := by
  induction l with
  | nil => simp [occursIn]
  | cons a l ih =>
    rw [occursIn, Bool.or_eq_true, List.isPrefixOf_iff_prefix, ih, List.infix_cons_iff]

lemma addNew_cons (l : List α) (x : α) (xs : List α) :
    addNew l (x :: xs) = addNew (if x ∈ l then l else l ++ [x]) xs := by
  simp only [addNew, List.foldl_cons, List.contains_iff_mem]

lemma mem_addNew {a : α} {l xs : List α} : a ∈ addNew l xs ↔ a ∈ l ∨ a ∈ xs := by
  induction xs generalizing l with
  | nil => simp
  | cons x xs ih =>
    rw [addNew_cons, ih]
    split_ifs with hx
    · refine ⟨Or.imp_right (List.mem_cons_of_mem x), fun h => ?_⟩
      rcases h with h | h
      · exact .inl h
      · rcases List.mem_cons.mp h with rfl | h
        · exact .inl hx
        · exact .inr h
    · simp [or_assoc]

/-- What is found first is the same with repetitions and without. -/
lemma find?_addNew (p : α → Bool) (l xs : List α) :
    (addNew l xs).find? p = (l ++ xs).find? p := by
  induction xs generalizing l with
  | nil => simp
  | cons x xs ih =>
    rw [addNew_cons, ih]
    split_ifs with hx
    · rw [List.find?_append, List.find?_append, List.find?_cons]
      cases hl : l.find? p with
      | some a => rfl
      | none =>
        have hpx : ¬ p x := List.find?_eq_none.mp hl x hx
        simp [hpx]
    · rw [List.append_assoc]
      rfl

/-- Adding to an empty list keeps the first of equal items. -/
lemma addNew_eq_eraseDups (l : List α) : addNew [] l = l.eraseDups := by
  induction l using List.reverseRecOn with
  | nil => rfl
  | append_singleton l a ih =>
    rw [addNew_append, ih, List.eraseDups_append]
    by_cases h : a ∈ l
    · simp [addNew, List.removeAll, h]
    · simp [addNew, List.removeAll, h, List.eraseDups_cons]

/-- Adding items of which none has come before keeps them all. -/
lemma addNew_of_nodup {l m : List α} (h : (l ++ m).Nodup) : addNew l m = l ++ m := by
  induction m generalizing l with
  | nil => exact (List.append_nil l).symm
  | cons a m ih =>
    have ha : a ∉ l := fun ha => (List.nodup_append.mp h).2.2 a ha a List.mem_cons_self rfl
    rw [List.append_cons] at h ⊢
    rw [← ih h]
    simp [addNew, ha]

/-- Adding items that have all come before changes nothing. -/
lemma addNew_of_subset {l xs : List α} (h : xs ⊆ l) : addNew l xs = l := by
  induction xs with
  | nil => rfl
  | cons x xs ih =>
    rw [addNew_cons, if_pos (h List.mem_cons_self)]
    exact ih fun a ha => h (List.mem_cons_of_mem x ha)

/-- A list without repetition stays so. -/
lemma nodup_addNew {l : List α} (h : l.Nodup) (xs : List α) : (addNew l xs).Nodup := by
  induction xs generalizing l with
  | nil => exact h
  | cons x xs ih =>
    rw [addNew_cons]
    split_ifs with hx
    · exact ih h
    · refine ih (List.nodup_append.mpr ⟨h, by simp, fun a ha b hb hab => hx ?_⟩)
      rwa [← List.mem_singleton.mp hb, ← hab]

/-- What is added comes behind all that is there. -/
lemma prefix_addNew (l xs : List α) : l <+: addNew l xs := by
  induction xs generalizing l with
  | nil => exact List.prefix_rfl
  | cons x xs ih =>
    rw [addNew_cons]
    split_ifs
    · exact ih l
    · exact (List.prefix_append l [x]).trans (ih (l ++ [x]))

end

/-! ### Added rules -/

/-- Names or texts that are added to the rules. -/
inductive Addition where
  | files (names : List String)
  | patterns (texts : List String)

namespace Addition

/-- The names that are given. -/
def names : Addition → List String
  | .files ns => ns
  | .patterns _ => []

/-- The texts that are given. -/
def texts : Addition → List String
  | .files _ => []
  | .patterns ts => ts

end Addition

/-- The stricter a verdict is, the higher its rank. -/
def Verdict.rank : Verdict → Nat
  | .proceed => 0
  | .skip .byPattern => 1
  | .skip .byName => 2

lemma Verdict.rank_injective : Function.Injective rank := by
  rintro ((_ | _) | _) ((_ | _) | _) h <;> first | rfl | cases h

namespace Exclusions

def extend (x : Exclusions) : Addition → Exclusions
  | .files names => x.addFiles names
  | .patterns texts => x.addPatterns texts

/-- The second rules have all names and texts that the first have. -/
structure Within (x y : Exclusions) : Prop where
  files : x.files ⊆ y.files
  patterns : x.patterns ⊆ y.patterns

lemma files_foldl_extend (x : Exclusions) (adds : List Addition) :
    (adds.foldl extend x).files = addNew x.files (adds.flatMap Addition.names) := by
  induction adds generalizing x with
  | nil => rfl
  | cons a adds ih =>
    rw [List.foldl_cons, ih, List.flatMap_cons, addNew_append]
    cases a <;> rfl

lemma patterns_foldl_extend (x : Exclusions) (adds : List Addition) :
    (adds.foldl extend x).patterns = addNew x.patterns (adds.flatMap Addition.texts) := by
  induction adds generalizing x with
  | nil => rfl
  | cons a adds ih =>
    rw [List.foldl_cons, ih, List.flatMap_cons, addNew_append]
    cases a <;> rfl

lemma within_foldl (x : Exclusions) (adds : List Addition) : x.Within (adds.foldl extend x) where
  files n hn := by
    rw [files_foldl_extend]
    exact mem_addNew.mpr (.inl hn)
  patterns t ht := by
    rw [patterns_foldl_extend]
    exact mem_addNew.mpr (.inl ht)

/-! ### Verdicts -/

variable {x y : Exclusions} {c : Candidate}

lemma matching_isSome_iff :
    (x.matching c).isSome ↔ ∃ t ∈ x.patterns, t.toList <:+: c.text.toList := by
  rw [matching, List.find?_isSome]
  simp only [occursIn_iff]

lemma evaluate_of_mem (h : c.basename ∈ x.files) : x.evaluate c = .skip .byName := by
  simp [evaluate, h]

lemma evaluate_of_notMem (h : c.basename ∉ x.files) :
    x.evaluate c = if (x.matching c).isSome then .skip .byPattern else .proceed := by
  simp [evaluate, h]

lemma evaluate_eq_byName_iff : x.evaluate c = .skip .byName ↔ c.basename ∈ x.files := by
  refine ⟨fun h => ?_, evaluate_of_mem⟩
  by_contra hname
  rw [evaluate_of_notMem hname] at h
  split at h <;> cases h

lemma evaluate_eq_byPattern_iff : x.evaluate c = .skip .byPattern ↔
    c.basename ∉ x.files ∧ ∃ t ∈ x.patterns, t.toList <:+: c.text.toList := by
  rw [← matching_isSome_iff]
  by_cases hname : c.basename ∈ x.files
  · simp [evaluate_of_mem hname, hname]
  · rw [evaluate_of_notMem hname]
    split <;> simp_all

lemma evaluate_eq_proceed_iff : x.evaluate c = .proceed ↔
    c.basename ∉ x.files ∧ ∀ t ∈ x.patterns, ¬ t.toList <:+: c.text.toList := by
  have hnone : (∀ t ∈ x.patterns, ¬ t.toList <:+: c.text.toList) ↔ ¬ (x.matching c).isSome := by
    rw [matching_isSome_iff]
    simp
  rw [hnone]
  by_cases hname : c.basename ∈ x.files
  · simp [evaluate_of_mem hname, hname]
  · simp [evaluate_of_notMem hname, hname]

/-- What the larger rules let through, the smaller do. -/
lemma Within.proceed (h : x.Within y) (hy : y.evaluate c = .proceed) : x.evaluate c = .proceed := by
  obtain ⟨hname, htexts⟩ := evaluate_eq_proceed_iff.mp hy
  exact evaluate_eq_proceed_iff.mpr
    ⟨fun hc => hname (h.files hc), fun p hp => htexts p (h.patterns hp)⟩

/-- Larger rules are no less strict. -/
lemma Within.rank_le (h : x.Within y) (c : Candidate) :
    (x.evaluate c).rank ≤ (y.evaluate c).rank := by
  by_cases hname : c.basename ∈ y.files
  · rw [evaluate_of_mem hname]
    rcases x.evaluate c with (_ | _) | _ <;> decide
  have hx : c.basename ∉ x.files := fun hc => hname (h.files hc)
  by_cases htext : ∃ t ∈ x.patterns, t.toList <:+: c.text.toList
  · obtain ⟨t, ht, hin⟩ := htext
    rw [evaluate_eq_byPattern_iff.mpr ⟨hx, t, ht, hin⟩,
      evaluate_eq_byPattern_iff.mpr ⟨hname, t, h.patterns ht, hin⟩]
  · rw [evaluate_eq_proceed_iff.mpr ⟨hx, fun t ht hin => htext ⟨t, ht, hin⟩⟩]
    exact Nat.zero_le _

/-- The text that is told is the one that is found first. -/
lemma ofVerdict_eq_patternFound_iff {t : String} :
    Log.ofVerdict x c = some (.patternFound c.path t) ↔
      c.basename ∉ x.files ∧ x.matching c = some t := by
  rw [Log.ofVerdict]
  by_cases hname : c.basename ∈ x.files
  · simp [evaluate_of_mem hname, hname]
  · rw [evaluate_of_notMem hname]
    cases x.matching c <;> simp [hname]

end Exclusions

/-! ### Histories -/

/-- How rules have come together: the lists that they began with, and what was added to them. -/
structure History where
  files : List String
  patterns : List String
  adds : List Addition

namespace History

def rules (r : History) : Exclusions :=
  r.adds.foldl Exclusions.extend (.ofLists r.files r.patterns)

/-- All names that were ever given, in order. -/
def names (r : History) : List String := r.files ++ r.adds.flatMap Addition.names

/-- All texts that were ever given, in order. -/
def texts (r : History) : List String := r.patterns ++ r.adds.flatMap Addition.texts

/-- The history that goes on with more additions. -/
def onward (r : History) (adds : List Addition) : History := { r with adds := r.adds ++ adds }

lemma files_rules (r : History) : r.rules.files = addNew [] r.names := by
  rw [rules, Exclusions.files_foldl_extend, names, addNew_append]
  rfl

lemma patterns_rules (r : History) : r.rules.patterns = addNew [] r.texts := by
  rw [rules, Exclusions.patterns_foldl_extend, texts, addNew_append]
  rfl

lemma rules_onward (r : History) (adds : List Addition) :
    (r.onward adds).rules = adds.foldl Exclusions.extend r.rules := List.foldl_append

variable {r q : History} {c : Candidate}

lemma mem_files_rules {n : String} : n ∈ r.rules.files ↔ n ∈ r.names := by
  rw [files_rules, mem_addNew, or_iff_right List.not_mem_nil]

lemma mem_patterns_rules {t : String} : t ∈ r.rules.patterns ↔ t ∈ r.texts := by
  rw [patterns_rules, mem_addNew, or_iff_right List.not_mem_nil]

lemma within_of_subset (hn : r.names ⊆ q.names) (ht : r.texts ⊆ q.texts) :
    r.rules.Within q.rules where
  files _ h := mem_files_rules.mpr (hn (mem_files_rules.mp h))
  patterns _ h := mem_patterns_rules.mpr (ht (mem_patterns_rules.mp h))

/-- The first of all texts that is found in the path, in the order in which they were given. -/
lemma matching_rules_eq_some_iff {t : String} : r.rules.matching c = some t ↔
    ∃ us vs, r.texts = us ++ t :: vs ∧ t.toList <:+: c.text.toList ∧
      ∀ u ∈ us, ¬ u.toList <:+: c.text.toList := by
  rw [Exclusions.matching, patterns_rules, find?_addNew, List.nil_append,
    List.find?_eq_some_iff_append]
  simp only [occursIn_iff, Bool.not_eq_true', Bool.eq_false_iff, ne_eq]
  constructor
  · rintro ⟨ht, us, vs, htexts, hus⟩
    exact ⟨us, vs, htexts, ht, hus⟩
  · rintro ⟨us, vs, htexts, ht, hus⟩
    exact ⟨ht, us, vs, htexts, hus⟩

/-- The verdict is told by what was ever given: by name before by text, whatever the order, the
repetitions and the calls. It gets no milder by what is given later. The text that is told is the
first that is found in the path. -/
theorem rules_decide (r : History) (c : Candidate) :
    (r.rules.evaluate c = .skip .byName ↔ c.basename ∈ r.names) ∧
    (r.rules.evaluate c = .skip .byPattern ↔
      c.basename ∉ r.names ∧ ∃ t ∈ r.texts, t.toList <:+: c.text.toList) ∧
    (r.rules.evaluate c = .proceed ↔
      c.basename ∉ r.names ∧ ∀ t ∈ r.texts, ¬ t.toList <:+: c.text.toList) ∧
    (∀ q : History, (∀ n, n ∈ q.names ↔ n ∈ r.names) → (∀ t, t ∈ q.texts ↔ t ∈ r.texts) →
      q.rules.evaluate c = r.rules.evaluate c) ∧
    (∀ adds, (r.rules.evaluate c).rank ≤ ((r.onward adds).rules.evaluate c).rank) ∧
    (r.rules.evaluate c = .skip .byPattern ↔
      ∃ t, Log.ofVerdict r.rules c = some (.patternFound c.path t)) ∧
    ∀ t, Log.ofVerdict r.rules c = some (.patternFound c.path t) ↔
      c.basename ∉ r.names ∧ ∃ us vs, r.texts = us ++ t :: vs ∧
        t.toList <:+: c.text.toList ∧ ∀ u ∈ us, ¬ u.toList <:+: c.text.toList := by
  refine ⟨?_, ?_, ?_, fun q hn ht => ?_, fun adds => ?_, ?_, fun t => ?_⟩
  · rw [Exclusions.evaluate_eq_byName_iff, mem_files_rules]
  · simp only [Exclusions.evaluate_eq_byPattern_iff, mem_files_rules, mem_patterns_rules]
  · simp only [Exclusions.evaluate_eq_proceed_iff, mem_files_rules, mem_patterns_rules]
  · have hqr : q.rules.Within r.rules :=
      within_of_subset (fun n => (hn n).mp) fun t => (ht t).mp
    have hrq : r.rules.Within q.rules :=
      within_of_subset (fun n => (hn n).mpr) fun t => (ht t).mpr
    exact Verdict.rank_injective (Nat.le_antisymm (hqr.rank_le c) (hrq.rank_le c))
  · rw [rules_onward]
    exact (r.rules.within_foldl adds).rank_le c
  · simp only [Exclusions.ofVerdict_eq_patternFound_iff, exists_and_left,
      ← Option.isSome_iff_exists, Exclusions.matching_isSome_iff,
      Exclusions.evaluate_eq_byPattern_iff]
  · rw [Exclusions.ofVerdict_eq_patternFound_iff, mem_files_rules, matching_rules_eq_some_iff]

/-- The same names and texts in another order, in other calls and with a repetition. Only the text
that is told differs. -/
theorem reordered_decide :
    let r : History := ⟨["cube.franz"], ["circular", "failing"], [.patterns ["x"]]⟩
    let q : History := ⟨[], ["x"], [.patterns ["failing", "circular", "x"], .files ["cube.franz"]]⟩
    let c : Candidate := ⟨.ofString "examples/failing/a.franz"⟩
    q.rules.evaluate c = r.rules.evaluate c ∧
      Log.ofVerdict r.rules c = some (.patternFound c.path "failing") ∧
      Log.ofVerdict q.rules c = some (.patternFound c.path "x") := by
  intro r q c
  obtain ⟨-, -, -, same, -⟩ := rules_decide r c
  refine ⟨same q (fun n => ?_) (fun t => ?_), by decide +kernel, by decide +kernel⟩
  · simp [q, r, names, Addition.names]
  · simp only [q, r, texts, Addition.texts, List.flatMap_cons, List.flatMap_nil, List.append_nil,
      List.mem_append, List.mem_cons, List.not_mem_nil, or_false]
    tauto

end History

end ExampleSuite
