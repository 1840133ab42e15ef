import ExampleSuite.Failure
import ExampleSuite.Tree

/-!
The examples of a run: all files with one extension below a directory.

A walk goes through a directory in the order of its names and enters each directory where it
comes. A directory is read when the walk reaches it, and an entry is tested for being a file
when its turn comes. Links to files count as files, and links to directories are not entered,
except at the root.
-/

namespace ExampleSuite

structure Corpus where
  root : Path
  extension : String
  deriving DecidableEq, Repr

namespace Corpus

/-- The corpus below a root, if that is a directory that can be read. -/
def at? (t : Tree) (cwd : Place) (root : Path) (extension : String) : Except Failure Corpus :=
  if t.isDir cwd root then
    match t.list cwd root with
    | .error e => .error (.unreadableCorpus root (.os e))
    | .ok _ => .ok ⟨root, extension⟩
  else .error (.missingCorpus root)

/-- A file that belongs to the corpus if it lies in it. -/
def isExample (t : Tree) (cwd : Place) (extension : Bytes) (p : Path) : Bool :=
  t.isFile cwd p && Path.extension p == some extension

end Corpus

/-- What a walk goes through and what it hands its finds to. -/
structure Walk (σ ε : Type) where
  tree : σ → Tree
  cwd : Place
  extension : Bytes
  found : Candidate → EStateM ε σ Unit
  unread : Path → Errno → EStateM ε σ Unit

namespace Walk

variable {σ ε : Type}

/-- Puts an entry in front of the first one whose name is no less. -/
def place (x : Bytes × Entry) : List (Bytes × Entry) → List (Bytes × Entry)
  | [] => [x]
  | y :: ys => if Bytes.le x.1 y.1 then x :: y :: ys else y :: place x ys

def sorted (es : List (Bytes × Entry)) : List (Bytes × Entry) := es.foldr place []

/-- Hands on a path that is an example now. -/
def offer (w : Walk σ ε) (p : Path) : EStateM ε σ Unit := do
  if Corpus.isExample (w.tree (← get)) w.cwd w.extension p then w.found ⟨p⟩

/-- How deep a walk can go before paths get too long to be read. -/
def maxDepth : Nat := Tree.pathMax + 1

/-- Goes through an entry, and through all below it if it was a directory when listed. -/
def visit (w : Walk σ ε) : Nat → Path → Bool → EStateM ε σ Unit
  | 0, p, isDir => do
    w.offer p
    if isDir then w.unread p .tooLong
  | _ + 1, p, false => w.offer p
  | n + 1, p, true => do
    let listing := (w.tree (← get)).list w.cwd p
    w.offer p
    match listing with
    | .error e => w.unread p e
    | .ok es => (sorted es).forM fun x => visit w n (p.join x.1) (x.2 == .dir)

/-- Goes through all below a root, which may be a link to a directory. -/
def run (w : Walk σ ε) (root : Path) : EStateM ε σ Unit := do
  let t := w.tree (← get)
  match t.find w.cwd false root with
  | .error e => w.unread root e
  | .ok (_, .dir) => w.visit maxDepth root true
  | .ok (_, .link _) =>
    match t.find w.cwd true root with
    | .error e => w.unread root e
    | .ok (_, e) => w.visit maxDepth root (e == .dir)
  | .ok _ => w.visit maxDepth root false

end Walk

namespace Corpus

/-- The walk that only collects what it finds, over a tree that stays as it is. -/
def collector (t : Tree) (cwd : Place) (extension : String) :
    Walk (List Candidate) Empty where
  tree := fun _ => t
  cwd := cwd
  extension := Bytes.ofString extension
  found := fun c => modify (· ++ [c])
  unread := fun _ _ => pure ()

/-- The examples in the order of a walk, over a tree that stays as it is. -/
def examples (c : Corpus) (t : Tree) (cwd : Place) : List Candidate :=
  match ((collector t cwd c.extension).run c.root).run [] with
  | .ok _ l => l
  | .error e _ => nomatch e

end Corpus

end ExampleSuite
