import ExampleSuite.Tree

/-!
Files and what they hold.

A disk is a tree of names and the contents of its files. A file that has lost its name keeps
its contents for those who still hold it.
-/

namespace ExampleSuite

structure File where
  content : Bytes
  executable : Bool
  /-- The program that the file is, if it is not a script. -/
  tool : Option String
  deriving DecidableEq, Repr

structure Disk where
  tree : Tree
  files : Array File

namespace Disk

def empty : Disk := ⟨.empty, #[]⟩

def file (d : Disk) (id : Nat) : File := d.files.getD id ⟨[], false, none⟩

def content (d : Disk) (id : Nat) : Bytes := (d.file id).content

def setFile (d : Disk) (id : Nat) (f : File) : Disk := { d with files := d.files.set! id f }

def setContent (d : Disk) (id : Nat) (bs : Bytes) : Disk :=
  d.setFile id { d.file id with content := bs }

/-- A new file at a place. -/
def newFile (d : Disk) (p : Place) (f : File) : Disk :=
  ⟨d.tree.put p (.file d.files.size), d.files.push f⟩

def newDir (d : Disk) (p : Place) : Disk := { d with tree := d.tree.put p .dir }

/-- What a path holds. -/
def read (d : Disk) (cwd : Place) (p : Path) : Except Cause Bytes :=
  if 0 ∈ p then .error .nulInPath
  else match d.tree.find cwd true p with
    | .error e => .error (.os e)
    | .ok (_, .file id) => .ok (d.content id)
    | .ok (_, .device _) => .ok []
    | .ok _ => .error (.os .isDir)

/-- The text that a path holds. -/
def readText (d : Disk) (cwd : Place) (p : Path) : Except Cause String :=
  match d.read cwd p with
  | .error c => .error c
  | .ok bs => match bs.toString? with
    | none => .error .notText
    | some s => .ok s

/-- Where something new can be put, and what is there already. -/
def spot (d : Disk) (cwd : Place) (follow : Bool) (p : Path) : Except Errno Tree.Spot :=
  d.tree.locate cwd follow p

/-- Makes a directory and those that lead to it. -/
def makeDirs (d : Disk) : Place → List Bytes → Disk
  | _, [] => d
  | cwd, s :: ss =>
    match d.spot cwd true s with
    | .ok (p, none) => (d.newDir p).makeDirs p ss
    | .ok (p, some .dir) => d.makeDirs p ss
    | _ => d

/-- Makes the directory that a path lies in. -/
def makeParents (d : Disk) (cwd : Place) (p : Path) : Disk :=
  d.makeDirs (Tree.start cwd p) (Path.steps p).dropLast

def writeFile (d : Disk) (cwd : Place) (p : Path) (content : Bytes) (executable : Bool) : Disk :=
  match d.spot cwd true p with
  | .ok (q, none) => d.newFile q ⟨content, executable, none⟩
  | .ok (_, some (.file id)) => d.setFile id ⟨content, executable, none⟩
  | _ => d

def makeDir (d : Disk) (cwd : Place) (p : Path) : Disk :=
  d.makeDirs (Tree.start cwd p) (Path.steps p)

def makeLink (d : Disk) (cwd : Place) (p target : Path) : Disk :=
  match d.spot cwd false p with
  | .ok (q, none) => { d with tree := d.tree.put q (.link target) }
  | _ => d

/-- Bars the directory that a path leads to from being listed. -/
def bar (d : Disk) (cwd : Place) (p : Path) : Disk :=
  match d.spot cwd true p with
  | .ok (q, some .dir) => { d with tree := d.tree.bar q }
  | _ => d

/-- Removes what a path leads to, with all below it. -/
def remove (d : Disk) (cwd : Place) (p : Path) : Disk :=
  match d.spot cwd false p with
  | .ok (q, some _) => { d with tree := d.tree.remove q }
  | _ => d

end Disk

end ExampleSuite
