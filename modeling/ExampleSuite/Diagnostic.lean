import ExampleSuite.Failure
import ExampleSuite.Text.Utf8
import ExampleSuite.Text.Wrap

/-!
How a failure that ends the program is shown.

The code stands first, then what went wrong, the cause and what may help, each set in lines of
its own width under a mark. Where no marks are wanted all of it is told in words, a line for
each.
-/

namespace ExampleSuite.Diagnostic

/-- What a diagnostic may be made of. -/
inductive Look where
  | words
  /-- Lines under marks, which are those of ASCII or others. -/
  | marks (ascii : Bool)
  deriving DecidableEq, Repr

namespace Look

/-- The character set that the first variable names that is set. -/
def charset (get : String → Option String) : String :=
  ((["LC_ALL", "LC_CTYPE", "LANG"].filterMap get).headD "").toUpper

/-- The look that the variables ask for. -/
def ofVariables (get : String → Option String) : Look :=
  if (get "NO_GRAPHICS").any (· ≠ "0") then words
  else
    let wide := (charset get).endsWith "UTF8" || (charset get).endsWith "UTF-8"
    marks (get "TERM" = some "linux" || !wide)

end Look

/-- A part of a diagnostic: the mark before its first line, what stands before the others, and
the width that is left beside them. -/
structure Block where
  first : String
  rest : String
  width : Nat
  deriving DecidableEq, Repr

def message (ascii : Bool) : Block := if ascii then ⟨"  x ", "  | ", 74⟩ else ⟨"  × ", "  │ ", 74⟩
def cause (ascii : Bool) : Block := ⟨if ascii then "  `-> " else "  ╰─▶ ", "      ", 72⟩
def help : Block := ⟨"  help: ", "        ", 68⟩

def Block.lines (b : Block) (s : String) : List String := Wrap.lines b.first b.rest b.width s

def told (f : Failure) : List String :=
  f.message :: "    Diagnostic severity: error" ::
    (f.source.map ("    Caused by: " ++ ·)).toList ++
    (f.help.map ("diagnostic help: " ++ ·)).toList ++ ["diagnostic code: " ++ f.code, ""]

def drawn (ascii : Bool) (f : Failure) : List String :=
  f.code :: "" :: (message ascii).lines f.message ++
    (f.source.map (cause ascii).lines).getD [] ++ (f.help.map help.lines).getD [] ++ [""]

def lines : Look → Failure → List String
  | .words, f => told f
  | .marks ascii, f => drawn ascii f

end ExampleSuite.Diagnostic
