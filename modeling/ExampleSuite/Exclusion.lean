import ExampleSuite.Path

/-!
Which examples are left out of a run.

Rules are two lists: names that a file may not have, and texts that its path may not hold.
A list keeps the order in which its entries first came and holds each once. Names are looked
at before texts.
-/

namespace ExampleSuite

/-- A file that a run may execute. -/
structure Candidate where
  path : Path
  deriving DecidableEq, Repr

namespace Candidate

/-- The name of the file, empty if the path names none. -/
def basename (c : Candidate) : String := Bytes.display ((Path.fileName c.path).getD [])

/-- The path as shown. -/
def text (c : Candidate) : String := Bytes.display c.path

end Candidate

/-- A list with the items added that it lacks. -/
def addNew {α : Type} [BEq α] (into items : List α) : List α :=
  items.foldl (fun l a => if l.contains a then l else l ++ [a]) into

@[simp] theorem addNew_nil {α : Type} [BEq α] (l : List α) : addNew l [] = l := rfl

theorem addNew_append {α : Type} [BEq α] (l xs ys : List α) :
    addNew l (xs ++ ys) = addNew (addNew l xs) ys := by
  simp [addNew, List.foldl_append]

structure Exclusions where
  files : List String
  patterns : List String
  deriving DecidableEq, Repr

inductive SkipReason where
  | byName
  | byPattern
  deriving DecidableEq, Repr

def SkipReason.text : SkipReason → String
  | .byName => "excluded by name"
  | .byPattern => "excluded by pattern"

inductive Verdict where
  | skip (r : SkipReason)
  | proceed
  deriving DecidableEq, Repr

namespace Exclusions

def none : Exclusions := ⟨[], []⟩

def addFiles (x : Exclusions) (names : List String) : Exclusions :=
  { x with files := addNew x.files names }

def addPatterns (x : Exclusions) (texts : List String) : Exclusions :=
  { x with patterns := addNew x.patterns texts }

def ofLists (files patterns : List String) : Exclusions :=
  (none.addFiles files).addPatterns patterns

def builtinFiles : List String :=
  -- endless or animated
  ["10-print.franz", "game-of-life.franz", "cube.franz", "fish.franz", "car.franz",
  -- waiting for input
    "collatz.franz", "factorial.franz", "gcd.franz", "geometric-mean.franz", "pig-latin.franz",
    "split.franz",
  -- timed
    "countdown.franz"]

/-- Parts of the paths of examples that are meant to fail. -/
def builtinPatterns : List String := ["failing", "circular"]

def builtin : Exclusions := ofLists builtinFiles builtinPatterns

/-- The first text that a path holds. -/
def matching (x : Exclusions) (c : Candidate) : Option String :=
  x.patterns.find? fun p => occursIn p.toList c.text.toList

def evaluate (x : Exclusions) (c : Candidate) : Verdict :=
  if x.files.contains c.basename then .skip .byName
  else if (x.matching c).isSome then .skip .byPattern
  else .proceed

end Exclusions

end ExampleSuite
