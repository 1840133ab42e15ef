import ExampleSuite.Text.Utf8

/-!
Paths as byte strings.

A path is read as the parts between its slashes. Empty parts and parts that are a single dot
name nothing further, except that a leading dot still counts as a part of the path.
-/

namespace ExampleSuite

abbrev Path := Bytes

namespace Path

def slash : UInt8 := 0x2F
def dot : UInt8 := 0x2E

def here : Bytes := [dot]
def up : Bytes := [dot, dot]

def isAbsolute (p : Path) : Bool := p.head? == some slash

/-- The parts that name a step: neither empty nor a single dot. -/
def steps (p : Path) : List Bytes := (Bytes.splitOn slash p).filter fun s => s != [] && s != here

/-- The last step, unless it leads to a parent. -/
def fileName (p : Path) : Option Bytes :=
  match (steps p).getLast? with
  | none => none
  | some n => if n = up then none else some n

/-- A name cut at its last dot, if that dot is neither missing nor in front. -/
def cutAtDot (n : Bytes) : Option (Bytes × Bytes) :=
  if n = up then none
  else
    let ext := (n.reverse.takeWhile (· != dot)).reverse
    let stem := n.take (n.length - ext.length - 1)
    if ext.length < n.length ∧ stem ≠ [] then some (stem, ext) else none

def extension (p : Path) : Option Bytes := (fileName p).bind fun n => (cutAtDot n).map (·.2)

/-- A name below a directory. -/
def join (dir : Path) (name : Bytes) : Path :=
  if dir = [] then name
  else if dir.getLast? = some slash then dir ++ name
  else dir ++ slash :: name

/-- How many parts a path has: its root, a leading dot, and its steps. -/
def partCount (p : Path) : Nat :=
  let lead :=
    if isAbsolute p then 1
    else if (Bytes.splitOn slash p).head? == some here then 1 else 0
  lead + (steps p).length

end Path

/-- Byte strings in dictionary order. -/
def Bytes.le : Bytes → Bytes → Bool
  | [], _ => true
  | _ :: _, [] => false
  | a :: as, b :: bs => a < b || (a == b && Bytes.le as bs)

end ExampleSuite
