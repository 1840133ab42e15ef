import ExampleSuite.Yaml.Cursor

/-!
The text of scalars: plain, quoted, and block.

A scalar that runs over several lines is folded: a single break between two lines is read as
a space, and of more breaks all but the first are kept. A block scalar says on its first line
whether it folds and what becomes of the breaks at its end.
-/

namespace ExampleSuite.Yaml

/-- Blanks and breaks between two stretches of a scalar. -/
structure Gap where
  /-- A break has been passed. -/
  broken : Bool
  blanks : List Char
  first : List Char
  more : List Char

namespace Gap

def none : Gap := ⟨false, [], [], []⟩
/-- The gap behind an escaped break, which leaves no space. -/
def escaped : Gap := ⟨true, [], [], []⟩

def blank (g : Gap) (c : Char) : Gap :=
  if g.broken then g else { g with blanks := g.blanks ++ [c] }

def break_ (g : Gap) (c : Char) : Gap :=
  if g.broken then { g with more := g.more ++ [c] } else ⟨true, [], [c], []⟩

/-- What the gap reads as. -/
def text (g : Gap) : List Char :=
  if g.broken then
    if g.first = ['\n'] then (if g.more = [] then [' '] else g.more) else g.first ++ g.more
  else g.blanks

end Gap

/-! ### Quoted scalars -/

def readGap : List Char → Mark → Gap → Gap × Cursor
  | '\r' :: '\n' :: r, m, g => readGap r (m.newline 2) (g.break_ '\n')
  | c :: r, m, g =>
    if isBlank c then readGap r (m.past c) (g.blank c)
    else if isBreak c then readGap r (m.newline c.utf8Size) (g.break_ (breakText c))
    else (g, ⟨c :: r, m⟩)
  | [], m, g => (g, ⟨[], m⟩)

/-- A stretch without gaps, and whether an escaped break ends it. -/
structure Stretch where
  text : List Char
  cut : Bool
  rest : Cursor

def Stretch.cons (c : Char) (s : Stretch) : Stretch := { s with text := c :: s.text }

def singleRun : List Char → Mark → Stretch
  | '\'' :: '\'' :: r, m => (singleRun r (m.skip 2)).cons '\''
  | c :: r, m =>
    if c == '\'' || isGap c then ⟨[], false, ⟨c :: r, m⟩⟩ else (singleRun r (m.past c)).cons c
  | [], m => ⟨[], false, ⟨[], m⟩⟩

/-- The character that a backslash and a letter stand for. -/
def shortEscape : Char → Option Char
  | '0' => some '\x00'
  | 'a' => some '\x07'
  | 'b' => some '\x08'
  | 't' => some '\t'
  | '\t' => some '\t'
  | 'n' => some '\n'
  | 'v' => some '\x0b'
  | 'f' => some '\x0c'
  | 'r' => some '\r'
  | 'e' => some '\x1b'
  | ' ' => some ' '
  | '"' => some '"'
  | '/' => some '/'
  | '\\' => some '\\'
  | 'N' => some '\x85'
  | '_' => some '\xa0'
  | 'L' => some '\u2028'
  | 'P' => some '\u2029'
  | _ => none

/-- The character with a number written in hexadecimal. -/
def numbered (digits : List Char) : Option Char :=
  (hexNumber digits).bind fun n => if h : n.isValidChar then some (Char.ofNatAux n h) else none

def doubleRun : List Char → Mark → Option Stretch
  | [], m => some ⟨[], false, ⟨[], m⟩⟩
  | '\\' :: 'x' :: a :: b :: r, m =>
    (numbered [a, b]).bind fun c => (doubleRun r (m.skip 4)).map (·.cons c)
  | '\\' :: 'u' :: a :: b :: c :: d :: r, m =>
    (numbered [a, b, c, d]).bind fun x => (doubleRun r (m.skip 6)).map (·.cons x)
  | '\\' :: 'U' :: a :: b :: c :: d :: e :: f :: g :: h :: r, m =>
    (numbered [a, b, c, d, e, f, g, h]).bind fun x => (doubleRun r (m.skip 10)).map (·.cons x)
  | '\\' :: '\r' :: '\n' :: r, m => some ⟨[], true, ⟨r, (m.skip 1).newline 2⟩⟩
  | '\\' :: c :: r, m =>
    if isBreak c then some ⟨[], true, ⟨r, (m.skip 1).newline c.utf8Size⟩⟩
    else (shortEscape c).bind fun x => (doubleRun r (m.skip 2)).map (·.cons x)
  | c :: r, m =>
    if c == '\\' then none
    else if c == '"' || isGap c then some ⟨[], false, ⟨c :: r, m⟩⟩
    else (doubleRun r (m.past c)).map (·.cons c)

/-- The rest of a quoted scalar, whose opening quote has been read. -/
def quotedRest (quote : Char) : Nat → Cursor → Option (List Char × Cursor)
  | 0, _ => none
  | fuel + 1, k =>
    if k.mark.col = 0 ∧ separatorNext k.rest then none
    else if k.rest = [] then none
    else do
      let s ← if quote = '"' then doubleRun k.rest k.mark else some (singleRun k.rest k.mark)
      if s.rest.head = some quote then return (s.text, s.rest.drop 1)
      let (g, k') := readGap s.rest.rest s.rest.mark (if s.cut then .escaped else .none)
      let (t, k'') ← quotedRest quote fuel k'
      return (s.text ++ g.text ++ t, k'')

def quoted (quote : Char) (k : Cursor) : Option (List Char × Cursor) :=
  quotedRest quote (k.rest.length + 1) (k.drop 1)

/-! ### Plain scalars -/

/-- A gap in a plain scalar, where a tab may not stand for indentation. -/
def plainGap (indent : Nat) : List Char → Mark → Gap → Option (Gap × Cursor)
  | '\r' :: '\n' :: r, m, g => plainGap indent r (m.newline 2) (g.break_ '\n')
  | c :: r, m, g =>
    if isBlank c then
      if g.broken ∧ m.col < indent ∧ c = '\t' then none else plainGap indent r (m.past c) (g.blank c)
    else if isBreak c then plainGap indent r (m.newline c.utf8Size) (g.break_ (breakText c))
    else some (g, ⟨c :: r, m⟩)
  | [], m, g => some (g, ⟨[], m⟩)

def plainRun (flow : Bool) : List Char → Mark → Option (List Char × Cursor)
  | [], m => some ([], ⟨[], m⟩)
  | c :: r, m =>
    if isGap c then some ([], ⟨c :: r, m⟩)
    else if flow ∧ c = ':' ∧ r.head?.any fun d => isFlowMark d || d == '?' then none
    else if (c = ':' ∧ gapNext r) ∨ (flow ∧ isFlowMark c) then some ([], ⟨c :: r, m⟩)
    else (plainRun flow r (m.past c)).map fun (t, k) => (c :: t, k)

structure Plain where
  text : List Char
  stop : Mark
  /-- The line of the last stretch has been left. -/
  left : Bool
  rest : Cursor

/-- The stretches of a plain scalar from a cursor on, behind a gap. -/
def plainRest (flow : Bool) (indent : Nat) : Nat → Cursor → Gap → Mark → Option Plain
  | 0, _, _, _ => none
  | fuel + 1, k, g, stop =>
    if (k.mark.col = 0 ∧ separatorNext k.rest) ∨ k.head = some '#' then
      some ⟨[], stop, g.broken, k⟩
    else do
      let (t, k') ← plainRun flow k.rest k.mark
      if t = [] then return ⟨[], stop, g.broken, k'⟩
      if k'.rest = [] ∨ !gapNext k'.rest then return ⟨g.text ++ t, k'.mark, false, k'⟩
      let (g', k'') ← plainGap indent k'.rest k'.mark .none
      if !flow ∧ k''.mark.col < indent then return ⟨g.text ++ t, k'.mark, g'.broken, k''⟩
      let p ← plainRest flow indent fuel k'' g' k'.mark
      return { p with text := g.text ++ t ++ p.text }

def plain (flow : Bool) (indent : Nat) (k : Cursor) : Option Plain :=
  plainRest flow indent (k.rest.length + 1) k .none k.mark

/-! ### Block scalars -/

inductive Chomp where
  | strip
  | clip
  | keep
  deriving DecidableEq, Repr

def chomp? : Char → Option Chomp
  | '+' => some .keep
  | '-' => some .strip
  | _ => none

def digit? (c : Char) : Option Nat := if '0' ≤ c ∧ c ≤ '9' then some (c.toNat - 48) else none

/-- The indicators behind `|` or `>`: the chomping and the indentation, in either order. -/
def blockHeader (k : Cursor) : Option (Chomp × Nat × Cursor) :=
  match k.head.bind chomp? with
  | some c =>
    let k := k.drop 1
    match k.head.bind digit? with
    | some 0 => none
    | some n => some (c, n, k.drop 1)
    | none => some (c, 0, k)
  | none =>
    match k.head.bind digit? with
    | some 0 => none
    | some n =>
      let k := k.drop 1
      match k.head.bind chomp? with
      | some c => some (c, n, k.drop 1)
      | none => some (.clip, n, k)
    | none => some (.clip, 0, k)

/-- Spaces up to a column, or all of them when the column is not known yet. -/
def skipIndent (indent : Nat) : List Char → Mark → Cursor
  | [], m => ⟨[], m⟩
  | c :: r, m =>
    if c = ' ' ∧ (indent = 0 ∨ m.col < indent) then skipIndent indent r (m.past c) else ⟨c :: r, m⟩

structure Breaks where
  text : List Char
  /-- The deepest column reached. -/
  deepest : Nat
  stop : Mark
  rest : Cursor

/-- Empty lines, up to the first character of a line that is not empty. -/
def blockBreaks (indent : Nat) : Nat → Cursor → Nat → Mark → Option Breaks
  | 0, _, _, _ => none
  | fuel + 1, k, deepest, stop =>
    let k := skipIndent indent k.rest k.mark
    let deepest := max deepest k.mark.col
    if (indent = 0 ∨ k.mark.col < indent) ∧ k.head = some '\t' then none
    else match k.lineBreak? with
      | none => some ⟨[], deepest, stop, k⟩
      | some (c, k') =>
        (blockBreaks indent fuel k' deepest k'.mark).map fun b => { b with text := c :: b.text }

structure Block where
  text : List Char
  stop : Mark
  rest : Cursor

/-- The lines of a block scalar: the break that ended the last one, whether that one began
with a blank, and the empty lines since. -/
def blockLines (literal : Bool) (indent : Nat) (chomp : Chomp) :
    Nat → List Char → Bool → Breaks → Option Block
  | 0, _, _, _ => none
  | fuel + 1, last, blank, b =>
    let k := b.rest
    if k.mark.col = indent ∧ k.rest ≠ [] then do
      let blank' := k.head.any isBlank
      let joint :=
        if !literal ∧ last = ['\n'] ∧ !blank ∧ !blank' then
          (if b.text = [] then [' '] else [])
        else last
      let (t, k') := k.take (!isBreak ·)
      let (last', k'') := match k'.lineBreak? with
        | some (c, k'') => ([c], k'')
        | none => ([], k')
      let b' ← blockBreaks indent (k''.rest.length + 1) k'' 0 k''.mark
      let s ← blockLines literal indent chomp fuel last' blank' b'
      return { s with text := joint ++ b.text ++ t ++ s.text }
    else
      let tail := match chomp with
        | .strip => []
        | .clip => last
        | .keep => last ++ b.text
      some ⟨tail, b.stop, k⟩

/-- A block scalar inside a block whose own indentation is `parent - 1`. -/
def block (parent : Nat) (k : Cursor) : Option Block := do
  let literal := k.head = some '|'
  let (chomp, more, k) ← blockHeader (k.drop 1)
  let k ← k.restOfLine
  let fuel := k.rest.length + 1
  let given := if more = 0 then 0 else (parent - 1) + more
  let b ← blockBreaks given fuel k 0 k.mark
  let indent := if given = 0 then max (max b.deepest parent) 1 else given
  blockLines literal indent chomp fuel [] false b

end ExampleSuite.Yaml
