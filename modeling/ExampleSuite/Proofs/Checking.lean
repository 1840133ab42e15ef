import ExampleSuite.Machine.System
import ExampleSuite.Proofs.Encoding
import ExampleSuite.Proofs.Runs
import ExampleSuite.Proofs.Yields

/-!
What is checked of an interpreter before a run.

The check counts the parts of the program's path. A path has no more than one part if and only if
nothing but slashes and single dots follows its first slash, so such a path is not checked although
no lookup is made for it: where it leads nowhere, it fails when it is started. Any other path that
has a slash must lead to a file, or the run ends before it has done anything.
-/

namespace ExampleSuite

namespace Path

/-- Nothing but slashes and single dots follows the first slash. -/
def Flat (p : Path) : Prop := ∀ s ∈ (Bytes.splitOn slash p).tail, s = [] ∨ s = here

instance (p : Path) : Decidable p.Flat :=
  inferInstanceAs (Decidable (∀ s ∈ (Bytes.splitOn slash p).tail, s = [] ∨ s = here))

variable {p : Path}

lemma flat_of_notMem (h : slash ∉ p) : p.Flat := by
  intro s hs
  rw [Bytes.splitOn_of_notMem h] at hs
  cases hs

/-- The first part counts, whatever it is, and of the others those that name a step. -/
lemma partCount_cons (b : UInt8) (p : Path) :
    partCount (b :: p) =
      1 + ((Bytes.splitOn slash (b :: p)).tail.filter fun s => s != [] && s != here).length := by
  rw [partCount, steps, Bytes.splitOn]
  by_cases hb : b = slash
  · simp [hb, isAbsolute]
  · rw [if_neg hb]
    cases Bytes.splitOn slash p with
    | nil => by_cases hh : [b] = here <;> simp [hb, hh, isAbsolute]
    | cons q qs =>
      by_cases hh : b :: q = here <;> simp [hb, hh, isAbsolute, Nat.add_comm]

lemma partCount_le_one_iff : partCount p ≤ 1 ↔ p.Flat := by
  cases p with
  | nil => decide
  | cons b p =>
    have hnil (l : List Bytes) : (l.filter fun s => s != [] && s != here).length = 0 ↔
        ∀ s ∈ l, s = [] ∨ s = here := by
      rw [List.length_eq_zero_iff, List.filter_eq_nil_iff]
      refine forall₂_congr fun s _ => ?_
      rw [← not_step_iff, Bool.not_eq_true', Bool.not_eq_true]
    rw [partCount_cons, Flat, ← hnil]
    omega

end Path

/-! ### Starting what is not there -/

namespace Machine

lemma ofText_toText (bs : Bytes) : ofText (toText bs) = bs := by
  rw [ofText, toText, List.map_map]
  refine List.map_id'' (fun b => ?_) bs
  have hb := b.toNat_lt
  have hvalid : b.toNat.isValidChar := .inl (by omega)
  rw [Function.comp_apply, Utf8.toNat_ofNat_of_isValidChar hvalid, UInt8.ofNat_toNat]

lemma contains_slash_toText {p : Path} (h : Path.slash ∈ p) : (toText p).contains '/' := by
  rw [List.contains_iff_mem]
  exact List.mem_map_of_mem h

/-- A program with a slash is not looked up anywhere else. -/
lemma start_of_not_found {m : State} {p arg : Path} {e : Errno} (budget : Nat)
    (hp : Path.slash ∈ p) (hnul : 0 ∉ p) (harg : 0 ∉ arg)
    (missing : m.disk.tree.find home true p = .error e) :
    system.start p arg budget m = (m, .error (.os e)) := by
  have hload (args : List Shell.Text) :
      Exec.load m.disk home Exec.maxScripts (toText p) args = .error e := by
    rw [Exec.maxScripts, Exec.load, ofText_toText, missing]
  have hempty : (toText p).isEmpty = false := by
    cases p with
    | nil => cases hp
    | cons b p => rfl
  show spawn p arg budget m = _
  rw [spawn, if_neg (not_or.mpr ⟨hnul, harg⟩)]
  simp only [Exec.search, hempty, contains_slash_toText hp, hload, Bool.false_eq_true, if_false,
    if_true]

end Machine

namespace Interpreter

section

variable {i : Interpreter} (hi : 0 < i.budget) (t : Tree) (cwd : Place)
include hi

lemma verify_of_flat (h : i.program.Flat) : i.verify t cwd = .ok () := by
  have hcount : ¬ 1 < Path.partCount i.program := Nat.not_lt.mpr (Path.partCount_le_one_iff.mpr h)
  rw [verify, if_neg (Nat.ne_of_gt hi), decide_eq_false hcount]
  rfl

lemma verify_of_not_flat (h : ¬ i.program.Flat) :
    i.verify t cwd =
      if t.isFile cwd i.program then .ok () else .error (.interpreterNotFound i.program) := by
  have hcount : 1 < Path.partCount i.program :=
    Nat.not_le.mp (mt Path.partCount_le_one_iff.mp h)
  rw [verify, if_neg (Nat.ne_of_gt hi), decide_eq_true hcount]
  cases t.isFile cwd i.program <;> rfl

/-- If the time is positive, a program passes that is flat, as one without a slash is, and any other
passes if and only if it leads to a file. If it does not, a run does nothing and tells so. -/
theorem verify_program :
    (Path.slash ∉ i.program → i.verify t cwd = .ok ()) ∧
    (i.program.Flat → i.verify t cwd = .ok ()) ∧
    (¬ i.program.Flat →
      (i.verify t cwd = .ok () ↔ ∃ q id, t.find cwd true i.program = .ok (q, .file id)) ∧
      (i.verify t cwd = .error (.interpreterNotFound i.program) ↔
        ¬ ∃ q id, t.find cwd true i.program = .ok (q, .file id)) ∧
      ∀ {σ : Type} (h : Host σ) (st : Report.Style) (cfg : Config) (s : Session σ),
        cfg.interpreter = i → (h.disk s.world).tree = t → h.cwd = cwd →
        (¬ ∃ q id, t.find cwd true i.program = .ok (q, .file id)) →
        answer (Harness.run h st cfg) s = .error (.interpreterNotFound i.program) ∧
          after (Harness.run h st cfg) s = s) := by
  refine ⟨fun h => verify_of_flat hi t cwd (Path.flat_of_notMem h), verify_of_flat hi t cwd,
    fun h => ?_⟩
  rw [verify_of_not_flat hi t cwd h, ← Tree.isFile_iff]
  refine ⟨by cases t.isFile cwd i.program <;> simp, by cases t.isFile cwd i.program <;> simp,
    fun host st cfg s hcfg htree hcwd missing => ?_⟩
  refine Harness.run_of_unverified host st ?_
  rw [hcfg, htree, hcwd, verify_of_not_flat hi t cwd h, if_neg missing]

end

/-- A disk with nothing but the directory that work is done in. -/
def vacant : Disk :=
  ["/tmp", "/tmp/work"].foldl (fun d s => d.newDir (Machine.names s)) .empty

/-- The program of the repository where it has yet to be built, and two that are not looked for. -/
theorem unbuilt_program :
    let m := Machine.start vacant []
    let s : Session Machine.State := .start m none
    let i : Interpreter := Config.default.interpreter
    0 < i.budget ∧ ¬ i.program.Flat ∧
    (¬ ∃ q id, m.disk.tree.find Machine.home true i.program = .ok (q, .file id)) ∧
    i.verify m.disk.tree Machine.home = .error (.interpreterNotFound i.program) ∧
    answer (Harness.run Machine.system .plain Config.default) s =
      .error (.interpreterNotFound i.program) ∧
    after (Harness.run Machine.system .plain Config.default) s = s ∧
    Path.slash ∉ Bytes.ofString "franz" ∧
    verify ⟨Bytes.ofString "franz", 1⟩ m.disk.tree Machine.home = .ok () ∧
    Path.Flat (Bytes.ofString ".//") ∧
    verify ⟨Bytes.ofString ".//", 1⟩ m.disk.tree Machine.home = .ok () := by
  intro m s i
  have time : 0 < i.budget := by decide
  have deep : ¬ i.program.Flat := by decide
  have missing : ¬ ∃ q id, m.disk.tree.find Machine.home true i.program = .ok (q, .file id) := by
    have hfind : m.disk.tree.find Machine.home true i.program = .error .noEntry := by
      decide +kernel
    simp [hfind]
  have bare : Path.slash ∉ Bytes.ofString "franz" := by decide
  have flat : Path.Flat (Bytes.ofString ".//") := by decide
  obtain ⟨-, -, checked⟩ := verify_program time m.disk.tree Machine.home
  obtain ⟨-, refused, refuses⟩ := checked deep
  obtain ⟨unnamed, -, -⟩ := verify_program (i := ⟨Bytes.ofString "franz", 1⟩) Nat.one_pos
    m.disk.tree Machine.home
  obtain ⟨-, dotted, -⟩ := verify_program (i := ⟨Bytes.ofString ".//", 1⟩) Nat.one_pos
    m.disk.tree Machine.home
  obtain ⟨told, left⟩ := refuses Machine.system .plain Config.default s rfl rfl rfl missing
  exact ⟨time, deep, missing, refused.mpr missing, told, left, bare, unnamed bare, flat,
    dotted flat⟩

/-- A name that no file has passes with a slash behind it, and then cannot be started. -/
theorem trailing_slash_passes :
    let m := Machine.start vacant []
    let i : Interpreter := ⟨Bytes.ofString "none/", 10000⟩
    0 < i.budget ∧ Path.slash ∈ i.program ∧
    (¬ ∃ q id, m.disk.tree.find Machine.home true i.program = .ok (q, .file id)) ∧
    i.verify m.disk.tree Machine.home = .ok () ∧
    Machine.system.start i.program (Bytes.ofString "a.franz") i.budget m =
      (m, .error (.os .noEntry)) := by
  intro m i
  have hfind : m.disk.tree.find Machine.home true i.program = .error .noEntry := by
    decide +kernel
  have slashed : Path.slash ∈ i.program := by decide
  exact ⟨by decide, slashed, by simp [hfind], verify_of_flat (by decide) _ _ (by decide),
    Machine.start_of_not_found i.budget slashed (by decide) (by decide) hfind⟩

end Interpreter

end ExampleSuite
