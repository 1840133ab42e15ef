import ExampleSuite.Text.Blank
import ExampleSuite.Text.Letters

/-!
Values that fields can be compared with: numbers and regular expressions.

Only whether a text is well formed matters here. An expression starts in the mode in which all
scripts count, which knows no classes of characters by name, no word boundaries and no ignoring
of case. In the other mode an expression may be for ASCII text alone.
-/

namespace ExampleSuite.Log.Expression

/-- What the flags of an expression say. They hold up to the end of the group they are in. -/
structure Modes where
  /-- Whether upper and lower case are the same. -/
  anyCase : Bool
  /-- Whether the characters of all scripts count, and not only those of ASCII. -/
  allScripts : Bool
  /-- Whether blanks and remarks are skipped. -/
  spaced : Bool
  deriving DecidableEq, Repr

/-- What a backslash and the characters behind it stand for. -/
inductive Escaped where
  /-- A character, which may be written as the number of an octet. -/
  | char (c : Char) (octet : Bool)
  /-- A class of characters, or all others. -/
  | kind (negated : Bool)
  | wordEdge
  | textEdge
  deriving DecidableEq, Repr

/-- Skips blanks and remarks, from within a remark or not. -/
def skipBlanks : Bool → List Char → List Char
  | _, [] => []
  | true, c :: r => skipBlanks (c ≠ '\n') r
  | false, c :: r =>
    if c = '#' then skipBlanks true r
    else if Blank.isBlank c then skipBlanks false r
    else c :: r

namespace Modes

def start : Modes := ⟨false, true, false⟩

def skip (m : Modes) (cs : List Char) : List Char := if m.spaced then skipBlanks false cs else cs

/-- The next character that counts within brackets. -/
def peek (m : Modes) (cs : List Char) : Option Char :=
  if m.spaced then
    let r := cs.dropWhile Blank.isBlank
    (if r.head? = some '#' then r.tail.dropWhile Blank.isBlank else r).head?
  else cs.head?

/-- Whether something may stand for itself. -/
def allows (m : Modes) : Escaped → Bool
  | .char c octet =>
    if m.allScripts then !m.anyCase else !octet || c.toNat < 0x80
  | .kind negated => !m.allScripts && !negated
  | .wordEdge => !m.allScripts
  | .textEdge => true

/-- Whether something may stand within brackets. -/
def allowsMember (m : Modes) : Escaped → Bool
  | .char c _ => if m.allScripts then !m.anyCase else c.toNat < 0x80
  | .kind negated => !m.allScripts && !negated
  | .wordEdge | .textEdge => false

def flagLetters : List Char := "imsUuRx-".toList

/-- Whether a flag is on behind some flags, those to be switched off behind a dash. -/
def flag (letter : Char) (flags : List Char) (old : Bool) : Bool :=
  if (flags.takeWhile (· ≠ '-')).contains letter then true
  else if flags.contains letter then false
  else old

def set (m : Modes) (flags : List Char) : Modes :=
  ⟨flag 'i' flags m.anyCase, flag 'u' flags m.allScripts, flag 'x' flags m.spaced⟩

end Modes

/-! ### Escapes -/

def hexDigit? (c : Char) : Option Nat :=
  if c.isDigit then some (c.toNat - 48)
  else if 'a' ≤ c ∧ c ≤ 'f' then some (c.toNat - 87)
  else if 'A' ≤ c ∧ c ≤ 'F' then some (c.toNat - 55)
  else none

/-- Reads so many digits of a number. -/
def hex? (m : Modes) : Nat → Nat → List Char → Option (Nat × List Char)
  | 0, v, cs => some (v, cs)
  | n + 1, v, c :: r => (hexDigit? c).bind fun d => hex? m n (16 * v + d) (m.skip r)
  | _ + 1, _, [] => none

/-- Reads the number of a character. -/
def numbered? (m : Modes) (digits : Nat) (octet : Bool) (cs : List Char) :
    Option (Escaped × List Char) :=
  (hex? m digits 0 (m.skip cs)).bind fun (n, r) =>
    if n.isValidChar then some (.char (Char.ofNat n) octet, r) else none

/-- Letters that stand for control characters. -/
def controls : List (Char × Char) :=
  [('a', '\x07'), ('f', '\x0c'), ('t', '\t'), ('n', '\n'), ('r', '\r'), ('v', '\x0b')]

/-- Reads what stands behind a backslash. -/
def escaped? (m : Modes) : List Char → Option (Escaped × List Char)
  | [] => none
  | c :: r =>
    match c with
    | 'x' => numbered? m 2 true r
    | 'u' => numbered? m 4 false r
    | 'U' => numbered? m 8 false r
    | 'd' | 's' | 'w' => some (.kind false, r)
    | 'D' | 'S' | 'W' => some (.kind true, r)
    | 'b' | 'B' | '<' | '>' => some (.wordEdge, r)
    | 'A' | 'z' => some (.textEdge, r)
    | _ =>
      match controls.lookup c with
      | some d => some (.char d false, r)
      | none => if c.isAlphanum ∨ 0x80 ≤ c.toNat then none else some (.char c false, r)

/-! ### Brackets -/

def classNames : List String :=
  ["alnum", "alpha", "ascii", "blank", "cntrl", "digit", "graph", "lower", "print", "punct",
    "space", "upper", "word", "xdigit"]

/-- Reads the name of a class behind a bracket, and whether all others are meant. -/
def named? : List Char → Option (Bool × List Char)
  | ':' :: r =>
    let negated := r.head? = some '^'
    let r := if negated then r.tail else r
    let name := r.takeWhile (· ≠ ':')
    match r.drop name.length with
    | ':' :: ']' :: r =>
      if classNames.contains (String.ofList name) then some (negated, r) else none
    | _ => none
  | _ => none

/-- Takes steps up to a state that is a final one. Every step has to use up some of the text. -/
def steps {α : Type} (final : α → List Char → Bool)
    (step : α → List Char → Option (α × List Char)) (a : α) (cs : List Char) :
    Option (α × List Char) :=
  if final a cs then some (a, cs)
  else
    match step a cs with
    | none => none
    | some (a', r) => if r.length < cs.length then steps final step a' r else none
termination_by cs.length

/-- Reads what may stand right behind an opening bracket: a negation, and dashes or a closing
bracket that stand for themselves. -/
def opening? (m : Modes) (cs : List Char) : Option (List Char) :=
  let dash (_ : Unit) : List Char → Option (Unit × List Char)
    | '-' :: r => if m.allowsMember (.char '-' false) then some ((), m.skip r) else none
    | _ => none
  let members (cs : List Char) : Option (List Char) :=
    match cs with
    | ']' :: r => if m.allowsMember (.char ']' false) then some (m.skip r) else none
    | _ => (steps (fun _ cs => cs.head? ≠ some '-') dash () cs).map (·.2)
  match m.skip cs with
  | '^' :: r => if m.allScripts then members (m.skip r) else none
  | r => members r

/-- Reads one character within brackets, or what stands for some. -/
def single? (m : Modes) : List Char → Option (Escaped × List Char)
  | [] => none
  | '\\' :: r => escaped? m r
  | c :: r => some (.char c false, r)

/-- Reads a member of a class, which may be a range. -/
def range? (m : Modes) (cs : List Char) : Option (List Char) :=
  (single? m cs).bind fun (a, r) =>
    match m.skip r with
    | '-' :: t =>
      if m.peek t = some ']' ∨ m.peek t = some '-' then
        if m.allowsMember a then some ('-' :: t) else none
      else
        (single? m (m.skip t)).bind fun (b, r) =>
          match a, b with
          | .char x _, .char y _ =>
            if x ≤ y ∧ m.allowsMember a ∧ m.allowsMember b then some r else none
          | _, _ => none
    | r => if m.allowsMember a then some r else none

/-- Reads on within so many brackets. -/
def member? (m : Modes) (depth : Nat) (cs : List Char) : Option (Nat × List Char) :=
  match m.skip cs with
  | [] => none
  | '[' :: r =>
    match named? r with
    | some (negated, r) =>
      if if m.allScripts then !m.anyCase else !negated then some (depth, r) else none
    | none => (opening? m r).map fun r => (depth + 1, r)
  | ']' :: r => some (depth - 1, r)
  | '&' :: '&' :: r | '-' :: '-' :: r | '~' :: '~' :: r => some (depth, r)
  | r => (range? m r).map fun r => (depth, r)

/-- Reads a class behind its opening bracket. -/
def brackets? (m : Modes) (cs : List Char) : Option (List Char) :=
  (opening? m cs).bind fun r => (steps (fun depth _ => depth = 0) (member? m) 1 r).map (·.2)

/-! ### Expressions -/

structure Reading where
  modes : Modes
  /-- The modes that hold again behind the groups that are open, innermost first. -/
  outer : List Modes
  names : List (List Char)
  /-- Whether there is something that can be repeated. -/
  repeatable : Bool
  deriving DecidableEq, Repr

namespace Reading

def start : Reading := ⟨.start, [], [], false⟩

def enter (s : Reading) (m : Modes) : Reading :=
  { s with modes := m, outer := s.modes :: s.outer, repeatable := false }

/-- Behind something that can be repeated. -/
def past (s : Reading) : Reading := { s with repeatable := true }

end Reading

/-- Reads a group with a name, behind the bracket before the name. -/
def namedGroup? (s : Reading) (cs : List Char) : Option (Reading × List Char) :=
  let name := cs.takeWhile (· ≠ '>')
  let starts (c : Char) : Bool := c = '_' || Letters.isLetter c
  let follows (c : Char) : Bool :=
    c = '_' || c = '.' || c = '[' || c = ']' || Letters.isLetterOrNumber c
  match name, cs.drop name.length with
  | c :: n, _ :: r =>
    if starts c ∧ n.all follows ∧ !s.names.contains name then
      some ({ s.enter s.modes with names := name :: s.names }, r)
    else none
  | _, _ => none

/-- Reads flags, which are for a group behind a colon or else for what follows. -/
def flags? (s : Reading) (cs : List Char) : Option (Reading × List Char) :=
  let fs := cs.takeWhile fun c => c ≠ ':' && c ≠ ')'
  let sound :=
    fs.all Modes.flagLetters.contains && fs.all (fs.count · = 1) && fs.getLast? ≠ some '-'
  match cs.drop fs.length with
  | ':' :: r => if sound then some (s.enter (s.modes.set fs), r) else none
  | _ :: r =>
    if sound && !fs.isEmpty then
      some ({ s with modes := s.modes.set fs, repeatable := false }, r)
    else none
  | [] => none

/-- Reads what stands behind an opening parenthesis. -/
def group? (s : Reading) : List Char → Option (Reading × List Char)
  | '?' :: 'P' :: '<' :: r | '?' :: '<' :: r => namedGroup? s r
  | '?' :: r => flags? s r
  | r => some (s.enter s.modes, r)

/-- Reads the next part of an expression. -/
def part? (s : Reading) (cs : List Char) : Option (Reading × List Char) :=
  let m := s.modes
  match m.skip cs with
  | [] => some (s, [])
  | '(' :: r => group? s (m.skip r)
  | ')' :: r =>
    match s.outer with
    | [] => none
    | o :: os => some ({ s.past with modes := o, outer := os }, r)
  | '|' :: r => some ({ s with repeatable := false }, r)
  | '[' :: r => (brackets? m r).map fun r => (s.past, r)
  | '?' :: r | '*' :: r | '+' :: r =>
    if s.repeatable then some (s, if r.head? = some '?' then r.tail else r) else none
  | '\x7b' :: _ => none
  | '.' :: r => if m.allScripts then some (s.past, r) else none
  | '^' :: r | '$' :: r => some (s.past, r)
  | '\\' :: r =>
    (escaped? m r).bind fun (e, r) => if m.allows e then some (s.past, r) else none
  | c :: r => if m.allows (.char c false) then some (s.past, r) else none

/-- Whether a text is a regular expression. Repetitions by number are not known. -/
def isExpression (cs : List Char) : Bool :=
  (steps (fun _ cs => cs.isEmpty) part? .start cs).any fun s => s.1.outer.isEmpty

/-! ### Numbers -/

def unsigned : List Char → List Char
  | '+' :: r | '-' :: r => r
  | cs => cs

/-- Whether a text is nothing, or a power of ten by which a number is multiplied. -/
def isScale : List Char → Bool
  | [] => true
  | c :: r => (c = 'e' || c = 'E') && unsigned r ≠ [] && (unsigned r).all Char.isDigit

def isDecimal (cs : List Char) : Bool :=
  let whole := cs.takeWhile Char.isDigit
  let r := cs.drop whole.length
  let part := if r.head? = some '.' then r.tail.takeWhile Char.isDigit else []
  let r := if r.head? = some '.' then r.tail.drop part.length else r
  !(whole.isEmpty && part.isEmpty) && isScale r

def isNumber (cs : List Char) : Bool :=
  ["inf", "infinity", "nan"].contains (String.ofList ((unsigned cs).map Char.toLower)) ||
    isDecimal (unsigned cs)

/-- Whether fields can be compared with a value. -/
def isValue (cs : List Char) : Bool := isNumber cs || isExpression cs

end ExampleSuite.Log.Expression
