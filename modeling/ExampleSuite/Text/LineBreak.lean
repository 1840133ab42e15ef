import ExampleSuite.Text.LineClass

/-!
Where a line of text may be broken.

The classes of the characters on both sides of a place decide, together with whether spaces
stand between. Marks count as the character that they combine with. A break never comes before
spaces.
-/

namespace ExampleSuite.LineBreak

namespace Class

def isLetter (a : Class) : Bool := a = letter || a = hebrew

def isPicture (a : Class) : Bool := a = ideograph || a = pictureBase || a = pictureTint

def isHangul (a : Class) : Bool :=
  a = jamoLead || a = jamoVowel || a = jamoTail || a = openSyllable || a = closedSyllable

end Class

/-! ### Places between characters -/

/-- What no line begins with, even if spaces stand before it. -/
def clings : Class → Bool
  | .joiner | .closing | .closingParen | .exclamation | .separator | .slash => true
  | _ => false

/-- What stays together even if spaces stand between. -/
def bound (a b : Class) : Bool :=
  match a, b with
  | .closing, .nonStarter | .closingParen, .nonStarter | .breakBoth, .breakBoth => true
  | _, _ => false

/-- The parts of one syllable of Hangul. -/
def sameSyllable : Class → Class → Bool
  | .jamoLead, b => b = .jamoLead || b = .jamoVowel || b = .openSyllable || b = .closedSyllable
  | .jamoVowel, b | .openSyllable, b => b = .jamoVowel || b = .jamoTail
  | .jamoTail, b | .closedSyllable, b => b = .jamoTail
  | _, _ => false

/-- What stays together with what follows it, as parts of a number or a word do. -/
def linked (a b : Class) : Bool :=
  (match a with
    | .letter | .hebrew => b.isLetter || b = .number || b = .unitBefore || b = .unitAfter ||
      b = .opening
    | .number => b.isLetter || b = .number || b = .unitBefore || b = .unitAfter || b = .opening
    | .unitBefore => b.isLetter || b = .number || b = .opening || b = .wideOpening ||
      b.isPicture || b.isHangul
    | .unitAfter => b.isLetter || b = .number || b = .opening || b = .wideOpening
    | .closingParen => b.isLetter || b = .number || b = .unitBefore || b = .unitAfter
    | .closing => b = .unitBefore || b = .unitAfter
    | .hyphen => b = .number
    | .slash => b = .number || b = .hebrew
    | .separator => b.isLetter || b = .number
    | .pictureBase => b = .pictureTint
    | _ => false) ||
  (b = .unitAfter && (a.isPicture || a.isHangul)) || sameSyllable a b

/-- What stays together if no space stands between. -/
def joined (a b : Class) : Bool :=
  a = .joiner || a = .glue || (b = .glue && a != .breakAfter && a != .hyphen) ||
    a = .quotation || b = .quotation ||
    (a != .contingent && b != .contingent &&
      (b = .breakAfter || b = .hyphen || b = .nonStarter || b = .leader || a = .breakBefore ||
        linked a b))

/-- Whether a line may be broken between two classes with or without spaces between them. -/
def breaks (a : Class) (spaced : Bool) (b : Class) : Bool :=
  if a = .lineEnd then true
  else if b = .lineEnd ∨ b = .zeroSpace then false
  else if a = .zeroSpace then true
  else if clings b ∨ a = .opening ∨ a = .wideOpening ∨ bound a b then false
  else spaced || !joined a b

/-! ### A walk through a text -/

/-- What stands before a place. -/
structure Before where
  /-- The class that counts. -/
  last : Class
  /-- Spaces follow it. -/
  spaced : Bool
  /-- A mark that joins pictures comes last. -/
  tied : Bool
  /-- It is a hyphen behind a Hebrew letter. -/
  hebrew : Bool
  /-- It is the first half of a flag. -/
  half : Bool
  deriving DecidableEq, Repr

namespace Before

/-- Whether a mark has nothing to combine with. -/
def bare (s : Before) : Bool := s.spaced || s.last = .lineEnd || s.last = .zeroSpace

def ofClass (k : Class) : Before := ⟨k, false, false, false, k = .regional⟩

def start (k : Class) : Before :=
  match k with
  | .space => { ofClass .space with spaced := true }
  | .combining => ofClass .letter
  | .zeroJoiner => { ofClass .letter with tied := true }
  | k => ofClass k

def next (s : Before) (k : Class) : Before :=
  match k with
  | .space =>
    if s.last = .lineEnd then start .space else { s with spaced := true, tied := false }
  | .combining => if s.bare then start k else { s with tied := false }
  | .zeroJoiner => if s.bare then start k else { s with tied := true }
  | k => { ofClass k with
    hebrew := !s.spaced && s.last = .hebrew && (k = .hyphen || k = .breakAfter)
    half := k = .regional && !(s.half && !s.spaced) }

/-- Whether a line may be broken before a character. -/
def allows (s : Before) (k : Class) : Bool :=
  match k with
  | .space => s.last = .lineEnd && !s.spaced
  | .combining | .zeroJoiner =>
    if s.tied && !s.spaced then false else s.bare && breaks s.last s.spaced .letter
  | k =>
    if s.last = .lineEnd || s.last = .zeroSpace then breaks s.last s.spaced k
    else if !s.spaced && (s.tied || (s.half && k = .regional)) then false
    else if !s.spaced && s.hebrew then k = .contingent && breaks s.last false k
    else breaks s.last s.spaced k

end Before

/-- For each character whether a line may be broken after it. -/
def marksFrom (s : Before) : List Char → List Bool
  | [] => [true]
  | c :: cs => s.allows (classOf c) :: marksFrom (s.next (classOf c)) cs

/-- For each character of a text whether a line may be broken after it, as it may after the
last. -/
def marks : List Char → List Bool
  | [] => []
  | c :: cs => marksFrom (.start (classOf c)) cs

end ExampleSuite.LineBreak
