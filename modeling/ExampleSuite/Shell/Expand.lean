import ExampleSuite.Shell.Pattern
import ExampleSuite.Shell.Sum

/-!
From words to fields.

The parts of a word are replaced by what they stand for. What a part outside quotes stands for
is cut into fields at blanks. Outputs of commands have been gathered before and are taken in
the order in which they stand.
-/

namespace ExampleSuite.Shell

/-- What a shell knows by name. -/
structure Scope where
  vars : List (Text × Text)
  params : List Text
  name : Text
  status : Nat
  pid : Nat
  lastJob : Option Nat
  /-- The letters of the flags that are set. -/
  flags : Text
  deriving Repr

/-- Where a character comes from: from the script, from within quotes, or from a value. -/
inductive Origin where
  | script
  | quotes
  | value
  deriving DecidableEq, Repr

/-- A piece of an expanded word. Empty quotes make a field, and a cut ends one. -/
inductive Glyph where
  | char (c : Char) (o : Origin)
  | empty
  | cut
  /-- A list of parameters that has none. -/
  | void
  deriving DecidableEq, Repr

namespace Expand

structure State where
  scope : Scope
  outputs : List Text
  /-- What is wrong, if something is. -/
  fault : Option Text

abbrev M (α : Type) := StateM State α

def decimal (n : Nat) : Text := (toString n).toList

def number (ds : Text) : Nat := ds.foldl (fun n c => n * 10 + (c.toNat - 48)) 0

def ifs (s : Scope) : Text := (s.vars.lookup "IFS".toList).getD " \t\n".toList

def join (sep : Text) (ps : List Text) : Text := sep.intercalate ps

/-- The value of a parameter, if it has one. -/
def valueOf (s : Scope) (name : Text) : Option Text :=
  match name with
  | ['@'] | ['*'] =>
    if s.params.isEmpty then none else some (join ((ifs s).take 1) s.params)
  | ['#'] => some (decimal s.params.length)
  | ['?'] => some (decimal s.status)
  | ['$'] => some (decimal s.pid)
  | ['!'] => s.lastJob.map decimal
  | ['-'] => some s.flags
  | ['0'] => some s.name
  | c :: _ => if c.isDigit then s.params[number name - 1]? else s.vars.lookup name
  | [] => none

def glyphs (o : Origin) (t : Text) : List Glyph := t.map (.char · o)

def ofValue (inQuotes : Bool) (t : Text) : List Glyph :=
  glyphs (if inQuotes then .quotes else .value) t

/-- All parameters, each a field of its own. -/
def allParams (inQuotes : Bool) (ps : List Text) : List Glyph :=
  if ps.isEmpty then [.void]
  else
    [Glyph.cut].intercalate
      (ps.map fun p => (if inQuotes then [Glyph.empty] else []) ++ ofValue inQuotes p)

/-- The characters of an expanded word, with whether each may be part of a pattern. -/
def signs (gs : List Glyph) : List Sign :=
  gs.filterMap fun g => match g with
    | .char c o => some (c, o != .quotes)
    | .cut => some (' ', false)
    | _ => none

def chars (gs : List Glyph) : Text := (signs gs).map (·.1)

/-- The value without the part in front, or behind, that a pattern fits. -/
def cutFront (longest : Bool) (p : List Glob) (t : Text) : Text :=
  let fits := (List.range (t.length + 1)).filter fun n => Glob.fits p (t.take n)
  match if longest then fits.getLast? else fits.head? with
  | some n => t.drop n
  | none => t

def cutBack (longest : Bool) (p : List Glob) (t : Text) : Text :=
  let fits := (List.range (t.length + 1)).filter fun n => Glob.fits p (t.drop n)
  match if longest then fits.head? else fits.getLast? with
  | some n => t.take n
  | none => t

def fail (why : Text) : M Unit :=
  modify fun s => { s with fault := s.fault.or (some why) }

def setVar (name value : Text) : M Unit :=
  modify fun s => { s with scope := { s.scope with
    vars := (name, value) :: s.scope.vars.filter (·.1 != name) } }

def missing (v : Option Text) (empty : Bool) : Bool :=
  match v with
  | none => true
  | some t => empty && t.isEmpty

/-- What a parameter stands for, given the expansion of the word that goes with it. -/
def useOf (q : Bool) (name : Text) (u : Use) (word : List Glyph) : M (List Glyph) := do
  let s := (← get).scope
  let v := valueOf s name
  let plain := if name = ['@'] || (name = ['*'] && !q) then allParams q s.params
    else ofValue q (v.getD [])
  match u with
  | .value =>
    if s.flags.contains 'u' && v.isNone && name != ['@'] && name != ['*'] then
      fail (name ++ ": parameter not set".toList)
    return plain
  | .length =>
    return ofValue q (decimal (if name = ['@'] || name = ['*'] then s.params.length
      else (v.getD []).length))
  | .orElse e => return if missing v e then word else plain
  | .ifSet e => return if missing v e then [] else word
  | .orAssign e =>
    if missing v e then
      setVar name (chars word)
      return word
    else return plain
  | .orFail e =>
    if missing v e then
      let why := chars word
      fail (name ++ ": ".toList ++ if why.isEmpty then "parameter not set".toList else why)
      return []
    else return plain
  | .cutFront l => return ofValue q (cutFront l (pattern (signs word)) (v.getD []))
  | .cutBack l => return ofValue q (cutBack l (pattern (signs word)) (v.getD []))

def trimEnd (t : Text) : Text := (t.reverse.dropWhile (· == '\n')).reverse

def takeOutput : M Text := do
  let s ← get
  set { s with outputs := s.outputs.drop 1 }
  return trimEnd (s.outputs.headD [])

def sumOf (q : Bool) (expr : Text) : M (List Glyph) := do
  let s ← get
  match Sum.eval s.scope.vars expr with
  | some (n, vars) =>
    set { s with scope := { s.scope with vars := vars } }
    return ofValue q (toString n).toList
  | none =>
    fail ("arithmetic expression: expecting primary: \"".toList ++ expr ++ ['"'])
    return []

mutual

def part : Part → M (List Glyph)
  | .plain s => return glyphs .script s
  | .quoted s => return .empty :: glyphs .quotes s
  | .param q name u word => do useOf q name u (← parts word)
  | .output q _ => return ofValue q (← takeOutput)
  | .sum q expr => do sumOf q (chars (← parts expr))

def parts : List Part → M (List Glyph)
  | [] => return []
  | p :: ps => return (← part p) ++ (← parts ps)

end

/-- Cuts an expanded word into fields. The second argument is the field in progress, last
character first. -/
def fieldsFrom (seps : Text) : List Glyph → Option (List Sign) → List (List Sign)
  | [], none => []
  | [], some f => [f.reverse]
  | .void :: gs, f => fieldsFrom seps gs f
  | .empty :: gs, f => fieldsFrom seps gs (some (f.getD []))
  | .cut :: gs, none => fieldsFrom seps gs none
  | .cut :: gs, some f => f.reverse :: fieldsFrom seps gs none
  | .char c .value :: gs, f =>
    if seps.contains c then
      match f with
      | some f => f.reverse :: fieldsFrom seps gs none
      | none =>
        if c == ' ' || c == '\t' || c == '\n' then fieldsFrom seps gs none
        else [] :: fieldsFrom seps gs none
    else fieldsFrom seps gs (some ((c, true) :: f.getD []))
  | .char c .script :: gs, f => fieldsFrom seps gs (some ((c, true) :: f.getD []))
  | .char c .quotes :: gs, f => fieldsFrom seps gs (some ((c, false) :: f.getD []))

/-- The fields of an expanded word. Quotes around nothing but an empty list of parameters make
no field. -/
def fields (seps : Text) (gs : List Glyph) : List (List Sign) :=
  if gs.contains .void && gs.all (fun g => g == .void || g == .empty) then []
  else fieldsFrom seps gs none

/-- The fields of a list of words. -/
def words (ws : List Word) : M (List (List Sign)) := do
  let mut out := []
  for w in ws do
    let gs ← parts w
    out := out ++ fields (ifs (← get).scope) gs
  return out

/-- The text of a word that is not cut into fields. -/
def text (w : Word) : M Text := return chars (← parts w)

/-- The characters of a word that is used as a pattern. -/
def patternOf (w : Word) : M (List Sign) := return signs (← parts w)

/-! ### Commands in words -/

mutual

def sourcesOf : Part → List Text
  | .plain _ | .quoted _ => []
  | .param _ _ _ word => sources word
  | .output _ s => [s]
  | .sum _ expr => sources expr

/-- The commands whose outputs a word needs, in order. -/
def sources : List Part → List Text
  | [] => []
  | p :: ps => sourcesOf p ++ sources ps

end

end Expand

end ExampleSuite.Shell
