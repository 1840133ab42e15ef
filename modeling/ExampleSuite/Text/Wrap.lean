import ExampleSuite.Text.Letters
import ExampleSuite.Text.LineBreak
import ExampleSuite.Text.Width

/-!
Setting a text in lines of a given width.

A text is cut into words where a line may be broken. A word is cut once more behind hyphens
between letters or numbers, and wherever the line ends if it is wider than a line. A line takes
words as long as they fit.
-/

namespace ExampleSuite.Wrap

open Width (Cell)

/-- A part of a text that is set as one, and the spaces after it. -/
structure Word where
  cells : List Cell
  blanks : List Cell
  deriving DecidableEq, Repr

namespace Word

def empty : Word := ⟨[], []⟩

def width (w : Word) : Nat := Width.ofCells w.cells

/-- The width with the spaces. -/
def fullWidth (w : Word) : Nat := w.width + w.blanks.length

def isBlank (c : Cell) : Bool := c.char = ' '

def ofCells (cs : List Cell) : Word :=
  let back := cs.reverse
  ⟨(back.dropWhile isBlank).reverse, (back.takeWhile isBlank).reverse⟩

end Word

/-! ### Words of a text -/

/-- A list cut behind each marked element. -/
def cut {α : Type} : List (α × Bool) → List (List α)
  | [] => []
  | (a, true) :: r => [a] :: cut r
  | (a, false) :: r =>
    match cut r with
    | [] => [[a]]
    | w :: ws => (a :: w) :: ws

/-- Marks for all cells, of which those of control sequences get none. -/
def spread : List Cell → List Bool → List (Cell × Bool)
  | [], _ => []
  | c :: cs, [] => (c, false) :: spread cs []
  | c :: cs, b :: bs =>
    if c.control then (c, false) :: spread cs (b :: bs) else (c, b) :: spread cs bs

def clearFirst : List (Cell × Bool) → List (Cell × Bool)
  | [] => []
  | (c, true) :: r => (c, false) :: r
  | (c, false) :: r => (c, false) :: clearFirst r

/-- A text needs no break at its end. -/
def clearLast (l : List (Cell × Bool)) : List (Cell × Bool) := (clearFirst l.reverse).reverse

/-- Whether a line is never broken into words behind a character. -/
def isHyphen (c : Cell) : Bool := c.char = '-' || c.char = '\u00ad'

def marked (cs : List Cell) : List (Cell × Bool) :=
  let plain := (cs.filter fun c => !c.control).map (·.char)
  (spread cs (LineBreak.marks plain)).map fun m => (m.1, m.2 && !isHyphen m.1)

def words (cs : List Cell) : List Word := (cut (clearLast (marked cs))).map Word.ofCells

def isWordChar (c : Cell) : Bool := Letters.isLetterOrNumber c.char

/-- Marks behind the hyphens between letters or numbers. -/
def hyphens : Option Cell → List Cell → List (Cell × Bool)
  | _, [] => []
  | before, [c] => let _ := before; [(c, false)]
  | before, c :: d :: r =>
    (c, c.char = '-' && before.any isWordChar && isWordChar d) :: hyphens (some c) (d :: r)

/-- Marks behind the cells at which a line is full, after a width that is in use. -/
def full (width : Nat) : Nat → List Cell → List (Cell × Bool)
  | _, [] => []
  | _, [c] => [(c, false)]
  | used, c :: d :: r =>
    let used := used + c.width
    if 0 < used ∧ width < used + d.width ∧ d.control = false then
      (c, true) :: full width 0 (d :: r)
    else (c, false) :: full width used (d :: r)

/-- The parts of a word, of which the last keeps the spaces. -/
def split (marks : List Cell → List (Cell × Bool)) (w : Word) : List Word :=
  match (cut (marks w.cells)).reverse with
  | [] => [w]
  | last :: front => (front.reverse.map fun p => ⟨p, []⟩) ++ [⟨last, w.blanks⟩]

def breakWide (width : Nat) (w : Word) : List Word :=
  if width < w.width then split (full width 0) w else [w]

/-- All that is set as one, after an empty word with which the first line may stay empty. -/
def parts (width : Nat) (cs : List Cell) : List Word :=
  .empty :: ((words cs).flatMap (split (hyphens none))).flatMap (breakWide width)

/-! ### Lines of words -/

/-- Fills a line, which already has some words, the last one first, and that width with the
spaces behind them. -/
def fill (width : Nat) : List Word → Nat → List Word → List (List Word)
  | line, _, [] => [line.reverse]
  | line, used, w :: ws =>
    if width < used + w.width ∧ line ≠ [] then line.reverse :: fill width [w] w.fullWidth ws
    else fill width (w :: line) (used + w.fullWidth) ws

/-- The words of each line. -/
def layout (width : Nat) (ws : List Word) : List (List Word) := fill width [] 0 ws

/-! ### Lines of text -/

/-- The text of a line, without the spaces at its end. -/
def lineText : List Word → List Cell
  | [] => []
  | [w] => w.cells
  | w :: ws => w.cells ++ w.blanks ++ lineText ws

def text (cs : List Cell) : String := String.ofList (cs.map (·.char))

/-- The lines of a text, each of which starts with an indent. The width is that of the text
beside the indent. -/
def lines (first rest : String) (width : Nat) (s : String) : List String :=
  let set := (s.splitOn "\n").flatMap fun l =>
    (layout width (parts width (Width.cells l.toList))).map fun ws => text (lineText ws)
  match set with
  | [] => []
  | l :: ls => (first ++ l) :: ls.map (rest ++ ·)

end ExampleSuite.Wrap
