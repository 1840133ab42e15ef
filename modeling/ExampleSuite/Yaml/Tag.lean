import ExampleSuite.Yaml.Cursor

/-!
Tags, anchors and directives.

A tag is a handle and a suffix. The handle stands for the text that a directive gave it, and
a tag in angle brackets has no handle.
-/

namespace ExampleSuite.Yaml

def isUriChar (verbatim : Bool) (c : Char) : Bool :=
  isWord c || [';', '/', '?', ':', '@', '&', '=', '+', '$', '.', '!', '~', '*', '\'', '(', ')'].contains c
    || (verbatim && [',', '[', ']'].contains c)

/-- An octet written as a percent sign and two digits. -/
def octet? (cs : List Char) : Option Nat :=
  match cs with
  | '%' :: a :: b :: _ => hexNumber [a, b]
  | _ => none

/-- How many octets a character has, by its first. -/
def octets (n : Nat) : Option Nat :=
  if n < 0x80 then some 1
  else if 0xC0 ≤ n ∧ n < 0xE0 then some 2
  else if 0xE0 ≤ n ∧ n < 0xF0 then some 3
  else if 0xF0 ≤ n ∧ n < 0xF8 then some 4
  else none

/-- The further octets of a character. -/
def moreOctets : Nat → Cursor → Option (List Char × Cursor)
  | 0, k => some ([], k)
  | n + 1, k => do
    let o ← octet? k.rest
    if o < 0x80 ∨ 0xC0 ≤ o then none
    else
      let (t, k') ← moreOctets n (k.drop 3)
      return (Char.ofNat o :: t, k')

/-- The octets of one character that is written with percent signs. -/
def escaped (k : Cursor) : Option (List Char × Cursor) := do
  let o ← octet? k.rest
  let n ← octets o
  let (t, k') ← moreOctets (n - 1) (k.drop 3)
  return (Char.ofNat o :: t, k')

def uri (verbatim : Bool) : Nat → Cursor → Option (List Char × Cursor)
  | 0, _ => none
  | fuel + 1, k =>
    match k.head with
    | none => some ([], k)
    | some c =>
      if c = '%' then do
        let (o, k') ← escaped k
        let (t, k'') ← uri verbatim fuel k'
        return (o ++ t, k'')
      else if isUriChar verbatim c then
        (uri verbatim fuel (k.drop 1)).map fun (t, k') => (c :: t, k')
      else some ([], k)

def uriAt (verbatim : Bool) (k : Cursor) : Option (List Char × Cursor) :=
  uri verbatim (k.rest.length + 1) k

/-- A handle: an exclamation mark, a word, and an exclamation mark where one follows. -/
def handle (k : Cursor) : Option (List Char × Cursor) :=
  if k.head = some '!' then
    let (w, k) := (k.drop 1).take isWord
    if k.head = some '!' then some ('!' :: w ++ ['!'], k.drop 1) else some ('!' :: w, k)
  else none

structure RawTag where
  handle : List Char
  suffix : List Char
  deriving DecidableEq, Repr

/-- A text up to its first NUL. What a tag holds behind one does not count. -/
def upToNul (cs : List Char) : List Char := cs.takeWhile (· ≠ '\x00')

/-- A tag at a cursor. In a flow collection a comma may follow it at once. -/
def tag (flow : Bool) (k : Cursor) : Option (RawTag × Cursor) := do
  let (t, k) ←
    if (k.drop 1).head = some '<' then do
      let (s, k) ← uriAt true (k.drop 2)
      if s = [] ∨ k.head ≠ some '>' then none else some (⟨[], upToNul s⟩, k.drop 1)
    else do
      let (h, k) ← handle k
      if 1 < h.length ∧ h.getLast? = some '!' then
        let (s, k) ← uriAt false k
        if s = [] then none else some (RawTag.mk h (upToNul s), k)
      else
        let (s, k) ← uriAt false k
        let s := upToNul (h.drop 1 ++ s)
        if s = [] then some (⟨[], ['!']⟩, k) else some (⟨['!'], s⟩, k)
  if gapNext k.rest ∨ (flow ∧ k.head = some ',') then some (t, k) else none

/-- The name of an anchor or alias, behind its mark. -/
def anchorName (k : Cursor) : Option (List Char × Cursor) :=
  let (n, k) := (k.drop 1).take isWord
  if n ≠ [] ∧ (gapNext k.rest ∨ k.head.any ['?', ':', ',', ']', '\x7d', '%', '@', '\x60'].contains)
  then some (n, k) else none

/-! ### Directives -/

inductive Directive where
  | version (major minor : Nat)
  | tag (handle text : List Char)
  deriving DecidableEq, Repr

def versionPart (k : Cursor) : Option (Nat × Cursor) :=
  let (d, k) := k.take Char.isDigit
  if d = [] ∨ 9 < d.length then none
  else some (d.foldl (fun n c => n * 10 + (c.toNat - 48)) 0, k)

def versionValue (k : Cursor) : Option (Directive × Cursor) := do
  let (a, k) ← versionPart k
  if k.head ≠ some '.' then none
  else
    let (b, k) ← versionPart (k.drop 1)
    return (.version a b, k)

def tagValue (k : Cursor) : Option (Directive × Cursor) := do
  let (h, k) ← handle k
  if h ≠ ['!'] ∧ (h.length < 2 ∨ h.getLast? ≠ some '!') then none
  else if !k.head.any isBlank then none
  else
    let (t, k) ← uriAt true (k.skip isBlank)
    if t = [] ∨ !gapNext k.rest then none else some (.tag h (upToNul t), k)

/-- A directive at a percent sign, and the position behind its value. -/
def directive (k : Cursor) : Option (Directive × Mark × Cursor) := do
  let (name, k) := (k.drop 1).take isWord
  if name = [] ∨ !gapNext k.rest then none
  else
    let k := k.skip isBlank
    let (d, k) ←
      if name = "YAML".toList then versionValue k
      else if name = "TAG".toList then tagValue k
      else none
    let k' ← k.restOfLine
    return (d, k.mark, k')

end ExampleSuite.Yaml
