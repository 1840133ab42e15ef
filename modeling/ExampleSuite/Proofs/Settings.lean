import ExampleSuite.Proofs.CommandLine
import ExampleSuite.Proofs.Decoding
import ExampleSuite.Proofs.Statuses

/-!
Configurations written as arguments.

Each part of a configuration is the value of an option, and the names and texts that are not in
front of the rules already are values of the two options that can be repeated. The arguments are
read back as the configuration in whatever order they come, as long as the names keep their order
and so do the texts.
-/

namespace ExampleSuite

/-! ### Numbers -/

section numeral

variable {n m : ℕ}

lemma numeral_toString (h : n < 2 ^ 64) : Numeral (.ofString (toString n)) n := by
  refine ⟨Nat.toDigits 10 n, .inl ?_, Nat.toDigits_ne_nil, fun c hc => ?_, ?_, h⟩
  · rw [Nat.toString_eq_ofList_toDigits, Bytes.ofString, String.toList_ofList]
  · exact Nat.isDigit_of_mem_toDigits (by decide) (by decide) hc
  · exact Nat.ofDigitChars_ten_toDigits.symm

/-- A numeral denotes one number only. -/
lemma Numeral.unique {v : Bytes} (hn : Numeral v n) (hm : Numeral v m) : n = m := by
  obtain ⟨cs, rfl⟩ := Arguments.Numeral.exists_encode hn
  have h := (Arguments.number_eq_ok_iff.mpr hn).symm.trans (Arguments.number_eq_ok_iff.mpr hm)
  exact Except.ok.inj h

end numeral

/-! ### Settings -/

/-- An option with the value that it is set to. -/
abbrev Setting := Opt × Bytes

namespace Setting

/-- The argument that sets an option, with its value attached. -/
def word (x : Setting) : Bytes := .ofString ("--" ++ x.1.name ++ "=") ++ x.2

/-- The values that an option is set to, in order. -/
def values (xs : List Setting) (o : Opt) : List Bytes := (xs.filter (·.1 = o)).map (·.2)

def group (x : Setting) : Arguments.Group := .attached x.1 x.2

lemma map_word (xs : List Setting) : xs.map word = Arguments.Group.line (xs.map group) false := by
  rw [Arguments.Group.line, List.flatMap_map, if_neg Bool.false_ne_true, List.append_nil]
  exact List.map_eq_flatMap

lemma values_group (xs : List Setting) (o : Opt) :
    Arguments.Group.values (xs.map group) o = values xs o := by
  induction xs with
  | nil => rfl
  | cons x xs ih =>
    by_cases h : x.1 = o
    · simp_all [Arguments.Group.values, values, group, Arguments.Group.value?]
    · simp_all [Arguments.Group.values, values, group, Arguments.Group.value?]

end Setting

namespace Config

/-- What sets the options to a configuration. The rules come from a file, if one is given, and the
names and texts are added to them. -/
def settings (c : Config) (secs : ℕ) (file : Option Path) (names texts : List String) :
    List Setting :=
  [(Opt.examples, c.root), (Opt.interpreter, c.interpreter.program),
    (Opt.extension, Bytes.ofString c.extension), (Opt.timeout, Bytes.ofString (toString secs))] ++
  file.toList.map (Opt.rules, ·) ++ names.map (Opt.skip, Bytes.ofString ·) ++
  texts.map (Opt.skipPattern, Bytes.ofString ·)

/-- The values of each option. -/
def spelled (c : Config) (secs : ℕ) (file : Option Path) (names texts : List String) :
    Opt → List Bytes
  | .examples => [c.root]
  | .interpreter => [c.interpreter.program]
  | .extension => [.ofString c.extension]
  | .timeout => [.ofString (toString secs)]
  | .rules => file.toList
  | .skip => names.map .ofString
  | .skipPattern => texts.map .ofString
  | .color => []

variable {c : Config} {secs : ℕ} {file : Option Path} {names texts : List String}

lemma values_settings (c : Config) (secs : ℕ) (file : Option Path) (names texts : List String)
    (o : Opt) : Setting.values (c.settings secs file names texts) o =
      c.spelled secs file names texts o := by
  cases o <;> cases file <;>
    simp [Setting.values, settings, spelled, List.filter_append, List.filter_map,
      Function.comp_def]

/-- Settings in any order have the same values, if only the two options that can be repeated keep
theirs in order. -/
lemma values_of_perm {xs : List Setting} (perm : xs.Perm (c.settings secs file names texts))
    (inOrder : Setting.values xs .skip = names.map .ofString)
    (inOrder' : Setting.values xs .skipPattern = texts.map .ofString) (o : Opt) :
    Setting.values xs o = c.spelled secs file names texts o := by
  have hperm : (Setting.values xs o).Perm (c.spelled secs file names texts o) := by
    rw [← values_settings]
    exact (perm.filter _).map _
  cases o with
  | skip => exact inOrder
  | skipPattern => exact inOrder'
  | rules => cases file <;> simpa [spelled] using hperm
  | _ => simpa [spelled] using hperm

/-- The values are well. -/
lemma spelled_proper (root : c.root ≠ []) (program : c.interpreter.program ≠ [])
    (below : secs < 2 ^ 64) (given : ∀ p ∈ file, p ≠ []) :
    Arguments.Proper (c.spelled secs file names texts) where
  once o hr := by cases o <;> cases file <;> simp_all [spelled, Opt.repeats]
  valid o v hv := by
    cases o with
    | timeout =>
      obtain rfl := List.mem_singleton.mp hv
      exact ⟨secs, numeral_toString below⟩
    | rules => exact given v (by simpa [spelled] using hv)
    | skip =>
      obtain ⟨s, -, rfl⟩ := List.mem_map.mp hv
      exact ⟨s, rfl⟩
    | skipPattern =>
      obtain ⟨s, -, rfl⟩ := List.mem_map.mp hv
      exact ⟨s, rfl⟩
    | color => cases hv
    | _ => simp_all [spelled, Arguments.Valid]

end Config

/-! ### Reading the settings -/

namespace Options

variable {c : Config} {secs : ℕ} {file : Option Path} {names texts : List String}

/-- The settings of a configuration are read, whatever the variables are, as options that say the
same. -/
lemma read_settings (e : Help.Env) (root : c.root ≠ []) (program : c.interpreter.program ≠ [])
    (below : secs < 2 ^ 64) (given : ∀ p ∈ file, p ≠ []) {xs : List Setting}
    (values : ∀ o, Setting.values xs o = c.spelled secs file names texts o) :
    read e (xs.map Setting.word) =
      .ok ⟨c.root, c.interpreter.program, c.extension, secs, names, texts, file, .auto, 0⟩ := by
  have hvalues : Arguments.Group.values (xs.map Setting.group) =
      c.spelled secs file names texts := by
    funext o
    rw [Setting.values_group, values]
  have hfits : Arguments.Fits e (xs.map Setting.group) := {
    proper := hvalues ▸ Config.spelled_proper root program below given
    examples := fun h => absurd h (by rw [hvalues]; exact List.cons_ne_nil _ _)
    interpreter := fun h => absurd h (by rw [hvalues]; exact List.cons_ne_nil _ _) }
  rw [Setting.map_word]
  obtain ⟨o, ho⟩ := read_line.2 hfits
  rw [ho]
  obtain ⟨-, gives⟩ := read_line.1 o ho
  obtain ⟨examples, interpreter, extension, timeout, skips, patterns, rules, color, verbose⟩ := o
  obtain rfl : examples = c.root := by simpa [hvalues, Config.spelled] using gives.examples
  obtain rfl : interpreter = c.interpreter.program := by
    simpa [hvalues, Config.spelled] using gives.interpreter
  obtain rfl : extension = c.extension :=
    Bytes.ofString_injective (by simpa [hvalues, Config.spelled] using gives.extension)
  obtain rfl : timeout = secs := by
    have ht : Numeral (.ofString (toString secs)) timeout := by
      simpa [hvalues, Config.spelled] using gives.timeout
    exact ht.unique (numeral_toString below)
  obtain rfl : skips = names :=
    List.map_injective_iff.mpr Bytes.ofString_injective (gives.skips.trans (congrFun hvalues .skip))
  obtain rfl : patterns = texts :=
    List.map_injective_iff.mpr Bytes.ofString_injective
      (gives.patterns.trans (congrFun hvalues .skipPattern))
  obtain rfl : rules = file := by cases file <;> simpa [hvalues, Config.spelled] using gives.rules
  obtain rfl : color = .auto := by
    have hc : color.word = "auto" :=
      Bytes.ofString_injective (by simpa [hvalues, Config.spelled] using gives.color)
    cases color <;> first | rfl | simp [ColorMode.word] at hc
  have hverbose : verbose = 0 := by
    simpa [Arguments.Group.allFlags, Function.comp_def, Setting.group, Arguments.Group.flags]
      using gives.verbose
  rw [hverbose]

/-- The rules that are there before names and texts are added: the standard ones, or those of a
file. -/
inductive Front (d : Disk) (cwd : Place) : Option Path → Exclusions → Prop where
  | standard : Front d cwd none ⟨Exclusions.builtinFiles, Exclusions.builtinPatterns⟩
  | file {p : Path} {text : String} {x : Exclusions} (given : p ≠ [])
      (read : d.readText cwd p = .ok text) (parsed : RuleFile.parse text = .ok x) :
      Front d cwd (some p) x

lemma Front.given {d : Disk} {cwd : Place} {x : Exclusions} (h : Front d cwd file x) :
    ∀ p ∈ file, p ≠ [] := by
  cases h with
  | standard => nofun
  | file given read parsed =>
    rintro _ ⟨⟩
    exact given

lemma Front.baseRules {d : Disk} {cwd : Place} {x : Exclusions} (h : Front d cwd file x) :
    ∃ es, Options.baseRules d cwd file = .ok (x, es) := by
  cases h with
  | standard =>
    have hbuiltin : Exclusions.builtin = ⟨Exclusions.builtinFiles, Exclusions.builtinPatterns⟩ := by
      decide
    exact ⟨[], congrArg (fun x => Except.ok (x, [])) hbuiltin⟩
  | @file p _ _ given read parsed =>
    refine ⟨[.rulesLoaded p x.files.length x.patterns.length], ?_⟩
    rw [Options.baseRules, fileRules, read]
    dsimp only
    rw [parsed]

/-- A configuration is written as settings, in any order that keeps that of the names and that of
the texts, and is found again from these arguments, whatever the variables are. The names and texts
that are not set come first in the rules: they are those of a file that is set, or else the
standard ones. -/
theorem config_settings {σ : Type} (disk : σ → Disk) (cwd : Place) (s : Session σ) (e : Help.Env)
    (c : Config) (secs : ℕ) (file : Option Path) (front : Exclusions) (names texts : List String)
    (xs : List Setting) (root : c.root ≠ []) (program : c.interpreter.program ≠ [])
    (below : secs < 2 ^ 64) (budget : c.interpreter.budget = secs * 1000)
    (files : c.rules.files = front.files ++ names) (filesNodup : c.rules.files.Nodup)
    (patterns : c.rules.patterns = front.patterns ++ texts)
    (patternsNodup : c.rules.patterns.Nodup) (there : Front (disk s.world) cwd file front)
    (perm : xs.Perm (c.settings secs file names texts))
    (inOrder : Setting.values xs .skip = names.map .ofString)
    (inOrder' : Setting.values xs .skipPattern = texts.map .ofString) :
    ∃ o es, read e (xs.map Setting.word) = .ok o ∧
      (o.config disk cwd).run s = .ok c { s with told := s.told ++ es } := by
  obtain ⟨es, hbase⟩ := there.baseRules
  refine ⟨_, es, read_settings e root program below there.given
    (Config.values_of_perm perm inOrder inOrder'), ?_⟩
  rw [config_run, hbase]
  obtain ⟨dir, extension, ⟨path, time⟩, ⟨fs, ps⟩⟩ := c
  dsimp only at budget files filesNodup patterns patternsNodup ⊢
  subst budget files patterns
  rw [settled, Exclusions.addFiles, addNew_of_nodup filesNodup, Exclusions.addPatterns,
    addNew_of_nodup patternsNodup]

/-- The rules of a file with one name, and a configuration whose other name looks like an option,
with one text that is empty and one that has an equals sign. -/
theorem dashed_settings :
    let text := "skip_files: [a.franz]\n"
    let d := Disk.empty.writeFile [] (.ofString "rules") (.ofString text) false
    let c : Config := ⟨[0xFF], "", ⟨.ofString "-x", (2 ^ 64 - 1) * 1000⟩,
      ⟨["a.franz", "--skip"], ["", "b=c"]⟩⟩
    let e : Help.Env := ⟨some [], some (.ofString "sh")⟩
    let xs : List Setting := [(.skipPattern, []), (.rules, .ofString "rules"),
      (.timeout, .ofString "18446744073709551615"), (.skip, .ofString "--skip"),
      (.interpreter, .ofString "-x"), (.extension, []), (.skipPattern, .ofString "b=c"),
      (.examples, [0xFF])]
    ∃ o es, read e (xs.map Setting.word) = .ok o ∧
      (o.config (fun d => d) []).run (.start d none) =
        .ok c { Session.start d none with told := es } := by
  intro text d c e xs
  have hread : d.readText [] (.ofString "rules") = .ok text := by
    rw [eq_ok_iff]
    decide +kernel
  have hparse : RuleFile.parse text = .ok ⟨["a.franz"], []⟩ := by
    rw [eq_ok_iff]
    decide +kernel
  exact config_settings (fun d => d) [] (.start d none) e c (2 ^ 64 - 1) (some (.ofString "rules"))
    ⟨["a.franz"], []⟩ ["--skip"] ["", "b=c"] xs (by decide) (by decide) (by decide) rfl rfl
    (by decide) rfl (by decide) (.file (by decide) hread hparse) (by decide +kernel) (by decide)
    (by decide)

end Options

end ExampleSuite
