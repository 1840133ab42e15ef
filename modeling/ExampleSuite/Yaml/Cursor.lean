/-!
Positions in a document and the classes of its characters.

A cursor is the text still to be read together with the position it starts at. Line breaks
come in five spellings, and a carriage return with a line feed is one break.
-/

namespace ExampleSuite.Yaml

structure Mark where
  /-- How many octets precede it. -/
  index : Nat
  line : Nat
  col : Nat
  deriving DecidableEq, Repr

structure Cursor where
  rest : List Char
  mark : Mark

def Mark.origin : Mark := ⟨0, 0, 0⟩
def Mark.past (m : Mark) (c : Char) : Mark := ⟨m.index + c.utf8Size, m.line, m.col + 1⟩
/-- Past `n` characters of one octet. -/
def Mark.skip (m : Mark) (n : Nat) : Mark := ⟨m.index + n, m.line, m.col + n⟩
/-- The start of the next line, past a break of `n` octets. -/
def Mark.newline (m : Mark) (n : Nat) : Mark := ⟨m.index + n, m.line + 1, 0⟩

/-! ### Characters -/

/-- The characters that a document may hold. -/
def isPrintable (c : Char) : Bool :=
  let n := c.toNat
  n == 0x09 || n == 0x0A || n == 0x0D || (0x20 ≤ n && n ≤ 0x7E) || n == 0x85 ||
    (0xA0 ≤ n && n ≤ 0xD7FF) || (0xE000 ≤ n && n ≤ 0xFFFD) || 0x10000 ≤ n

def isBlank (c : Char) : Bool := c == ' ' || c == '\t'

def isBreak (c : Char) : Bool :=
  c == '\r' || c == '\n' || c == '\x85' || c == '\u2028' || c == '\u2029'

def isGap (c : Char) : Bool := isBlank c || isBreak c

/-- The character that a break of one character stands for. -/
def breakText (c : Char) : Char := if c == '\u2028' || c == '\u2029' then c else '\n'

def isWord (c : Char) : Bool :=
  ('0' ≤ c && c ≤ '9') || ('A' ≤ c && c ≤ 'Z') || ('a' ≤ c && c ≤ 'z') || c == '_' || c == '-'

def isFlowMark (c : Char) : Bool := c == ',' || c == '[' || c == ']' || c == '\x7b' || c == '\x7d'

/-- Nothing but a gap or the end comes next. -/
def gapNext : List Char → Bool
  | [] => true
  | c :: _ => isGap c

def lineEndNext : List Char → Bool
  | [] => true
  | c :: _ => isBreak c

/-- The line starts with a separator of documents. -/
def separatorNext : List Char → Bool
  | '-' :: '-' :: '-' :: r => gapNext r
  | '.' :: '.' :: '.' :: r => gapNext r
  | _ => false

def hexValue (c : Char) : Option Nat :=
  if '0' ≤ c ∧ c ≤ '9' then some (c.toNat - 48)
  else if 'a' ≤ c ∧ c ≤ 'f' then some (c.toNat - 87)
  else if 'A' ≤ c ∧ c ≤ 'F' then some (c.toNat - 55)
  else none

/-- The number that hexadecimal digits spell. -/
def hexNumber (cs : List Char) : Option Nat :=
  cs.foldlM (fun n c => (hexValue c).map (n * 16 + ·)) 0

/-! ### Runs of characters -/

def skipWhile (p : Char → Bool) : List Char → Mark → Cursor
  | [], m => ⟨[], m⟩
  | c :: r, m => if p c then skipWhile p r (m.past c) else ⟨c :: r, m⟩

def takeRun (p : Char → Bool) : List Char → Mark → List Char × Cursor
  | [], m => ([], ⟨[], m⟩)
  | c :: r, m =>
    if p c then
      let (t, k) := takeRun p r (m.past c)
      (c :: t, k)
    else ([], ⟨c :: r, m⟩)

namespace Cursor

/-- Past `n` characters of one octet. -/
def drop (k : Cursor) (n : Nat) : Cursor := ⟨k.rest.drop n, k.mark.skip n⟩

def skip (k : Cursor) (p : Char → Bool) : Cursor := skipWhile p k.rest k.mark

def take (k : Cursor) (p : Char → Bool) : List Char × Cursor := takeRun p k.rest k.mark

def head (k : Cursor) : Option Char := k.rest.head?

/-- One line break and the text it stands for. -/
def lineBreak? (k : Cursor) : Option (Char × Cursor) :=
  match k.rest with
  | '\r' :: '\n' :: r => some ('\n', ⟨r, k.mark.newline 2⟩)
  | c :: r => if isBreak c then some (breakText c, ⟨r, k.mark.newline c.utf8Size⟩) else none
  | [] => none

def skipLine (k : Cursor) : Cursor :=
  match k.lineBreak? with
  | some (_, k') => k'
  | none => k

/-- Past the blanks and the comment that may end a line, if only those are left on it. -/
def restOfLine (k : Cursor) : Option Cursor :=
  let k := k.skip isBlank
  let k := if k.head = some '#' then k.skip (!isBreak ·) else k
  if lineEndNext k.rest then some k.skipLine else none

end Cursor

end ExampleSuite.Yaml
