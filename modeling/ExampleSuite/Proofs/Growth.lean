import ExampleSuite.Proofs.Rules

/-!
How rules grow.

Each of the two lists holds all that it was ever given, the first of equal entries and no other. So
it does not matter in how many calls entries are given or how often, and what is there stays where
it is.
-/

namespace ExampleSuite.History

/-- However rules have come together, each list is what was given to it without repetitions. Entries
can be given in one call or in two, and giving them again changes nothing. Each list only gets
longer at its end, and the other is left alone meanwhile. -/
theorem rules_grow (r : History) (adds : List Addition) (xs ys : List String) :
    let x := r.rules
    let y := (r.onward adds).rules
    (x.files = r.names.eraseDups ∧ x.patterns = r.texts.eraseDups) ∧
    (x.files.Nodup ∧ x.patterns.Nodup) ∧
    ((x.addFiles xs).addFiles ys = x.addFiles (xs ++ ys) ∧
      (x.addPatterns xs).addPatterns ys = x.addPatterns (xs ++ ys)) ∧
    ((x.addFiles xs).addFiles xs = x.addFiles xs ∧
      (x.addPatterns xs).addPatterns xs = x.addPatterns xs) ∧
    (x.files <+: y.files ∧ x.patterns <+: y.patterns) ∧
    ((x.addFiles xs).patterns = x.patterns ∧ (x.addPatterns xs).files = x.files) := by
  intro x y
  have again (l : List String) : addNew (addNew l xs) xs = addNew l xs :=
    addNew_of_subset fun _ ha => mem_addNew.mpr (.inr ha)
  refine ⟨⟨?_, ?_⟩, ⟨?_, ?_⟩, ⟨?_, ?_⟩, ⟨?_, ?_⟩, ⟨?_, ?_⟩, rfl, rfl⟩
  · exact r.files_rules.trans (addNew_eq_eraseDups r.names)
  · exact r.patterns_rules.trans (addNew_eq_eraseDups r.texts)
  · exact r.files_rules ▸ nodup_addNew .nil r.names
  · exact r.patterns_rules ▸ nodup_addNew .nil r.texts
  · exact congrArg (Exclusions.mk · x.patterns) (addNew_append x.files xs ys).symm
  · exact congrArg (Exclusions.mk x.files) (addNew_append x.patterns xs ys).symm
  · exact congrArg (Exclusions.mk · x.patterns) (again x.files)
  · exact congrArg (Exclusions.mk x.files) (again x.patterns)
  · rw [show y = adds.foldl Exclusions.extend x from rules_onward r adds,
      Exclusions.files_foldl_extend]
    exact prefix_addNew _ _
  · rw [show y = adds.foldl Exclusions.extend x from rules_onward r adds,
      Exclusions.patterns_foldl_extend]
    exact prefix_addNew _ _

/-- Names and texts come in between, and some come again. -/
example : (⟨["b", "a"], ["x"], [.files ["a", "c", "c"], .patterns ["y", "x"], .files ["b"]]⟩ :
    History).rules = ⟨["b", "a", "c"], ["x", "y"]⟩ := by
  decide

end ExampleSuite.History
