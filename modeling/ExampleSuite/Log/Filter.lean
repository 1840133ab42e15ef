import ExampleSuite.Log
import ExampleSuite.Log.Expression

/-!
Which events are told.

A filter is a list of directives. A directive is for the events whose target starts with its
own and that have all its fields, and it names the most detailed level that is told of them.
The most specific of the directives that are for an event decides. What no directive is for is
not told.

A directive may also name spans of work or values of fields. There are no spans here, so such a
directive is read and tells nothing.
-/

namespace ExampleSuite.Log

structure Directive where
  target : Option (List Char)
  fields : List (List Char)
  /-- The most detailed level that is told, if anything is. -/
  level : Option Level
  deriving DecidableEq, Repr

abbrev Filter := List Directive

namespace Directive

/-- A directive for all events. -/
def overall (l : Option Level) : Directive := ⟨none, [], l⟩

def isFor (d : Directive) (e : Event) : Bool :=
  (d.target.getD []).isPrefixOf e.part.target.toList &&
    d.fields.all fun f => e.fieldNames.contains (String.ofList f)

def tells (d : Directive) (e : Event) : Bool :=
  match d.level with
  | none => false
  | some l => e.level.rank ≤ l.rank

/-- How specific a directive is: first by its target, then by its fields. -/
def weight (d : Directive) : Nat × Nat :=
  (match d.target with
    | none => 0
    | some t => t.length + 1, d.fields.length)

def fieldsBefore : List (List Char) → List (List Char) → Bool
  | _, [] => false
  | [], _ :: _ => true
  | a :: as, b :: bs =>
    let a' := String.ofList a
    let b' := String.ofList b
    decide (a' < b') || (a' == b' && fieldsBefore as bs)

/-- Whether a directive takes the place of an earlier one that is for the same event. -/
def outdoes (d earlier : Directive) : Bool :=
  let (t, n) := d.weight
  let (t', n') := earlier.weight
  t' < t || (t' == t && (n' < n || (n' == n && !fieldsBefore d.fields earlier.fields)))

/-! ### Reading -/

def levelNames : List (String × Option Level) :=
  ("off", none) :: [Level.error, .warn, .info, .debug, .trace].map fun l => (l.name.toLower, some l)

/-- A level by its rank. -/
def levelOfRank (n : Nat) : Option (Option Level) := (levelNames[n]?).map (·.2)

def number? (cs : List Char) : Option Nat :=
  let ds := if cs.head? = some '+' then cs.tail else cs
  if ds ≠ [] ∧ ds.all Char.isDigit then some (ds.foldl (fun n c => 10 * n + (c.toNat - 48)) 0)
  else none

/-- A level by its name or its rank. -/
def level? (cs : List Char) : Option (Option Level) :=
  match number? cs with
  | some n => levelOfRank n
  | none => levelNames.lookup (String.ofList (cs.map Char.toLower))

def levelAfterEquals (cs : List Char) : Option (Option Level) :=
  if cs = [] then some (some .trace) else level? cs

/-- Where the reading of a directive stands. -/
inductive Phase where
  | start
  | name
  | span
  | field
  | fieldsDone
  | spanDone
  | level
  deriving DecidableEq, Repr

structure Reading where
  phase : Phase
  /-- Where the part began that is being read. -/
  since : Nat
  target : Option (List Char)
  fields : List (List Char)
  /-- Whether a span or a value is named. -/
  bySpan : Bool
  deriving DecidableEq, Repr

def Reading.init : Reading := ⟨.start, 0, none, [], false⟩

def startsName (c : Char) : Bool :=
  c = '-' || c = ':' || c = '_' || Letters.isLetterOrNumber c

/-- What of a text stands from one place up to another. -/
def between (text : List Char) (i j : Nat) : List Char := (text.drop i).take (j - i)

/-- A field that is named, with a value behind an equals sign or not. A value has to be one that
fields can be compared with. -/
def addField (r : Reading) (cs : List Char) : Option Reading :=
  let name := cs.takeWhile (· ≠ '=')
  let value := (cs.drop (name.length + 1)).takeWhile (· ≠ '=')
  let valued := cs.contains '='
  if cs = [] ∨ (valued ∧ !Expression.isValue value) then none
  else some { r with
    phase := .fieldsDone
    fields := r.fields ++ [name]
    bySpan := r.bySpan || valued }

/-- Reads one character at its place among those that are left once blanks are cut off. Parts
are taken from the text with its blanks. -/
def step (text : List Char) (r : Reading) (i : Nat) (c : Char) : Option Reading :=
  let got := between text r.since i
  match r.phase with
  | .start =>
    if c = '[' then some { r with phase := .span, since := i + 1 }
    else if startsName c then some { r with phase := .name, since := i }
    else none
  | .name =>
    if c = '=' then some { r with phase := .level, since := i + 1, target := some got }
    else if c = '[' then some { r with phase := .span, since := i + 1, target := some got }
    else some r
  | .span =>
    if c = ']' then some { r with phase := .spanDone, bySpan := true }
    else if c = '\x7b' then
      some { r with phase := .field, since := i + 1, bySpan := !got.isEmpty }
    else some r
  | .field => if c = '\x7d' then addField r got else some r
  | .fieldsDone => if c = ']' then some { r with phase := .spanDone } else none
  | .spanDone => if c = '=' then some { r with phase := .level, since := i + 1 } else none
  | .level => some r

def run (text : List Char) : Reading → Nat → List Char → Option Reading
  | r, _, [] => some r
  | r, i, c :: cs => (step text r i c).bind fun r => run text r (i + 1) cs

/-- The directive that has been read, which may be one that tells nothing. -/
def finish (text : List Char) (r : Reading) : Option (Option Directive) :=
  let rest := text.drop r.since
  let known (d : Directive) : Option Directive := if r.bySpan then none else some d
  match r.phase with
  | .name =>
    match level? rest with
    | some l => some (some ⟨none, [], l⟩)
    | none => some (some ⟨some rest, [], some .trace⟩)
  | .level => (levelAfterEquals rest).map fun l => known ⟨r.target, r.fields, l⟩
  | .spanDone => some (known ⟨r.target, r.fields, some .trace⟩)
  | _ => none

/-- Reads a directive. There is none if the text is not well formed. -/
def read? (text : List Char) : Option (Option Directive) :=
  (run text .init 0 (Blank.trim text)).bind (finish text)

end Directive

namespace Filter

/-- The directive that decides on an event. -/
def decider (f : Filter) (e : Event) : Option Directive :=
  (f.filter (·.isFor e)).foldl
    (fun best d => match best with
      | some b => if d.outdoes b then some d else best
      | none => some d)
    none

def enabled (f : Filter) (e : Event) : Bool := (f.decider e).any (·.tells e)

/-- Reads directives between commas. Without any, only errors are told. -/
def read? (s : String) : Option Filter :=
  match (s.splitOn ",").filter (· ≠ "") with
  | [] => some [.overall (some .error)]
  | ds => (ds.mapM fun d => Directive.read? d.toList).map (·.filterMap id)

/-- The more often a detailed log is asked for, the more of it there is. -/
def ofVerbosity : Nat → Filter
  | 0 => [.overall (some .warn)]
  | 1 => [.overall (some .info)]
  | 2 => [.overall (some .debug)]
  | _ => [.overall (some .trace)]

/-- The filter that a variable holds, or else the one for how detailed the log is to be. -/
def choose (value : Option Bytes) (verbose : Nat) : Filter :=
  ((value.bind Bytes.toString?).bind read?).getD (ofVerbosity verbose)

end Filter

end ExampleSuite.Log
