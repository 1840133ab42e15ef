import ExampleSuite.Yaml.Scalar
import ExampleSuite.Yaml.Tag

/-!
A document as tokens.

Blocks are opened and closed by indentation, so the scan keeps a stack of columns. A mapping
key shows only by the colon behind it: a place where a key may have begun is remembered, and
once the colon comes the key's token is put there afterwards. Such a place is forgotten when
its line ends or 1024 octets have passed.
-/

namespace ExampleSuite.Yaml

inductive TokenKind where
  | directive (d : Directive)
  | documentStart
  | documentEnd
  | blockSeqStart
  | blockMapStart
  | blockEnd
  | flowSeqStart
  | flowSeqEnd
  | flowMapStart
  | flowMapEnd
  | blockEntry
  | flowEntry
  | key
  | value
  | alias (name : List Char)
  | anchor (name : List Char)
  | tag (t : RawTag)
  | scalar (plain : Bool) (text : List Char)
  | streamEnd
  deriving DecidableEq, Repr

structure Token where
  kind : TokenKind
  start : Mark
  stop : Mark
  deriving DecidableEq, Repr

/-- A place where a key may have begun. -/
structure Place where
  required : Bool
  /-- How many tokens precede it. -/
  number : Nat
  mark : Mark

structure Scan where
  at_ : Cursor
  /-- The tokens so far, last first. -/
  tokens : List Token
  count : Nat
  flow : Nat
  indent : Int
  indents : List Int
  /-- The place of each flow level, innermost first. -/
  places : List (Option Place)
  /-- A key may begin here. -/
  allowed : Bool
  ended : Bool

namespace Scan

def start (cs : List Char) : Scan :=
  { at_ := ⟨cs, .origin⟩, tokens := [], count := 0, flow := 0, indent := -1, indents := [],
    places := [none], allowed := true, ended := false }

def push (s : Scan) (t : Token) : Scan := { s with tokens := t :: s.tokens, count := s.count + 1 }

/-- A token in front of all but the first `n`. -/
def insert (s : Scan) (n : Nat) (t : Token) : Scan :=
  let (late, early) := s.tokens.splitAt (s.count - n)
  { s with tokens := late ++ t :: early, count := s.count + 1 }

def col (s : Scan) : Int := s.at_.mark.col

def flowing (s : Scan) : Bool := s.flow != 0

/-! ### Keys -/

def forget (s : Scan) : Option Scan :=
  match s.places with
  | some p :: ps => if p.required then none else some { s with places := none :: ps }
  | _ => some s

def remember (s : Scan) : Option Scan :=
  if s.allowed then
    let p : Place := ⟨!s.flowing && s.indent == s.col, s.count, s.at_.mark⟩
    s.forget.map fun s => { s with places := some p :: s.places.drop 1 }
  else some s

def stale (m : Mark) (p : Place) : Bool := p.mark.line < m.line || p.mark.index + 1024 < m.index

/-- Forgets the places that are out of reach. -/
def refresh (s : Scan) : Option Scan :=
  (s.places.mapM fun
    | none => some none
    | some p =>
      if stale s.at_.mark p then (if p.required then none else some none) else some (some p)).map
    fun ps => { s with places := ps }

/-! ### Indentation -/

/-- Opens a block at a column that is deeper than the present one. -/
def roll (s : Scan) (col : Int) (number : Option Nat) (kind : TokenKind) (m : Mark) : Scan :=
  if !s.flowing ∧ s.indent < col then
    let s := { s with indents := s.indent :: s.indents, indent := col }
    match number with
    | none => s.push ⟨kind, m, m⟩
    | some n => s.insert n ⟨kind, m, m⟩
  else s

def closeTo (col : Int) (m : Mark) : List Int → Int → List Token → Nat →
    List Int × Int × List Token × Nat
  | [], i, ts, n => ([], i, ts, n)
  | j :: js, i, ts, n =>
    if col < i then closeTo col m js j (⟨.blockEnd, m, m⟩ :: ts) (n + 1) else (j :: js, i, ts, n)

/-- Closes the blocks that are deeper than a column. -/
def unroll (s : Scan) (col : Int) : Scan :=
  if s.flowing then s
  else
    let (is, i, ts, n) := closeTo col s.at_.mark s.indents s.indent s.tokens s.count
    { s with indents := is, indent := i, tokens := ts, count := n }

/-! ### Tokens -/

/-- Blanks, comments and breaks before the next token. A tab counts as a blank where no key
may begin. -/
def toNext : Nat → Scan → Scan
  | 0, s => s
  | fuel + 1, s =>
    let k := s.at_
    let k := if k.mark.col = 0 ∧ k.head = some '\uFEFF' then
      ⟨k.rest.drop 1, k.mark.past '\uFEFF'⟩ else k
    let k := k.skip fun c => c == ' ' || ((s.flowing || !s.allowed) && c == '\t')
    let k := if k.head = some '#' then k.skip (!isBreak ·) else k
    match k.lineBreak? with
    | some (_, k') => toNext fuel { s with at_ := k', allowed := s.allowed || !s.flowing }
    | none => { s with at_ := k }

/-- A token of `n` characters. -/
def single (s : Scan) (n : Nat) (kind : TokenKind) : Scan :=
  { s with at_ := s.at_.drop n }.push ⟨kind, s.at_.mark, s.at_.mark.skip n⟩

def endStream (s : Scan) : Option Scan := do
  let m := s.at_.mark
  let m := if m.col = 0 then m else m.newline 0
  let s := { s with at_ := ⟨[], m⟩ }.unroll (-1)
  let s ← s.forget
  return { s with allowed := false, ended := true }.push ⟨.streamEnd, m, m⟩

def separator (s : Scan) (kind : TokenKind) : Option Scan :=
  (s.unroll (-1)).forget.map fun s => { s with allowed := false }.single 3 kind

def readDirective (s : Scan) : Option Scan := do
  let s ← (s.unroll (-1)).forget
  let (d, stop, k) ← directive s.at_
  return { s with at_ := k, allowed := false }.push ⟨.directive d, s.at_.mark, stop⟩

def openFlow (s : Scan) (kind : TokenKind) : Option Scan :=
  s.remember.map fun s =>
    { s with places := none :: s.places, flow := s.flow + 1, allowed := true }.single 1 kind

def closeFlow (s : Scan) (kind : TokenKind) : Option Scan :=
  s.forget.map fun s =>
    let s := if s.flowing then { s with flow := s.flow - 1, places := s.places.drop 1 } else s
    { s with allowed := false }.single 1 kind

def readFlowEntry (s : Scan) : Option Scan :=
  s.forget.map fun s => { s with allowed := true }.single 1 .flowEntry

def readBlockEntry (s : Scan) : Option Scan :=
  if !s.flowing ∧ !s.allowed then none
  else
    (s.roll s.col none .blockSeqStart s.at_.mark).forget.map fun s =>
      { s with allowed := true }.single 1 .blockEntry

def readKey (s : Scan) : Option Scan :=
  if !s.flowing ∧ !s.allowed then none
  else
    (s.roll s.col none .blockMapStart s.at_.mark).forget.map fun s =>
      { s with allowed := !s.flowing }.single 1 .key

def readValue (s : Scan) : Option Scan :=
  match s.places with
  | some p :: ps =>
    let s := s.insert p.number ⟨.key, p.mark, p.mark⟩
    let s := s.roll p.mark.col (some p.number) .blockMapStart p.mark
    some ({ s with places := none :: ps, allowed := false }.single 1 .value)
  | _ =>
    if !s.flowing ∧ !s.allowed then none
    else
      let s := s.roll s.col none .blockMapStart s.at_.mark
      some ({ s with allowed := !s.flowing }.single 1 .value)

/-- A token that is the content of a node, or comes before it. -/
def content (s : Scan) (read : Cursor → Option (TokenKind × Cursor)) : Option Scan := do
  let s ← s.remember
  let (t, k) ← read s.at_
  return { s with at_ := k, allowed := false }.push ⟨t, s.at_.mark, k.mark⟩

def readPlain (s : Scan) : Option Scan := do
  let s ← s.remember
  let p ← plain s.flowing (s.indent + 1).toNat s.at_
  return { s with at_ := p.rest, allowed := p.left }.push ⟨.scalar true p.text, s.at_.mark, p.stop⟩

def readBlock (s : Scan) : Option Scan := do
  let s ← s.forget
  let b ← block (s.indent + 1).toNat s.at_
  return { s with at_ := b.rest, allowed := true }.push ⟨.scalar false b.text, s.at_.mark, b.stop⟩

def isIndicator (c : Char) : Bool :=
  isFlowMark c || ['-', '?', ':', '#', '&', '*', '!', '|', '>', '\'', '"', '%', '@', '\x60'].contains c

/-- The token at the cursor, where no blank is left. -/
def read (s : Scan) : Option Scan :=
  let line := s.at_.mark.col == 0
  match s.at_.rest with
  | [] => s.endStream
  | c :: r =>
    if line ∧ c = '%' then s.readDirective
    else if line ∧ separatorNext (c :: r) then
      s.separator (if c = '-' then .documentStart else .documentEnd)
    else if c = '[' then s.openFlow .flowSeqStart
    else if c = '\x7b' then s.openFlow .flowMapStart
    else if c = ']' then s.closeFlow .flowSeqEnd
    else if c = '\x7d' then s.closeFlow .flowMapEnd
    else if c = ',' then s.readFlowEntry
    else if c = '-' ∧ gapNext r then s.readBlockEntry
    else if c = '?' ∧ (s.flowing ∨ gapNext r) then s.readKey
    else if c = ':' ∧ (s.flowing ∨ gapNext r) then s.readValue
    else if c = '*' then s.content fun k => (anchorName k).map fun (n, k) => (.alias n, k)
    else if c = '&' then s.content fun k => (anchorName k).map fun (n, k) => (.anchor n, k)
    else if c = '!' then s.content fun k => (tag s.flowing k).map fun (t, k) => (.tag t, k)
    else if (c = '|' ∨ c = '>') ∧ !s.flowing then s.readBlock
    else if c = '\'' ∨ c = '"' then
      s.content fun k => (quoted c k).map fun (t, k) => (.scalar false t, k)
    else if (!isGap c ∧ !isIndicator c) ∨ (c = '-' ∧ !r.head?.any isBlank) ∨
        (!s.flowing ∧ (c = '?' ∨ c = ':') ∧ !gapNext r) then s.readPlain
    else none

def step (s : Scan) : Option Scan := do
  let s ← (toNext (s.at_.rest.length + 1) s).refresh
  (s.unroll s.col).read

def run : Nat → Scan → Option Scan
  | 0, s => some s
  | fuel + 1, s => if s.ended then some s else s.step.bind (run fuel)

end Scan

/-- The tokens of a text, the last of which ends it. -/
def tokens (cs : List Char) : Option (List Token) :=
  if cs.all isPrintable then (Scan.run (cs.length + 2) (.start cs)).map (·.tokens.reverse) else none

end ExampleSuite.Yaml
