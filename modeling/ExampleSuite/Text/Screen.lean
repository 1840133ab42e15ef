/-!
What a screen shows of a text.

A text may hold commands to the screen. They begin with an escape character and are not shown,
nor are control characters, except those that move on to a new place. Such a one, and an escape
character, puts an end to a command that is not complete.
-/

namespace ExampleSuite.Screen

/-- Where the reading of a command stands. -/
inductive Mode where
  /-- Outside of all commands. -/
  | plain
  /-- Right behind an escape character. -/
  | escape
  /-- In a command that a letter or a digit ends. -/
  | short
  /-- In a command with numbers, which a letter ends. -/
  | sequence
  /-- In a title, which a bell ends. -/
  | title
  /-- In a message to a device. -/
  | message
  deriving DecidableEq, Repr

/-- Control characters that move on to a new place. -/
def moves (c : Char) : Bool := c = '\t' || c = '\n' || c = '\x0c' || c = '\r'

def isControl (c : Char) : Bool := c < ' ' || c = '\x7f'

/-- The mode behind a character of a command that is no control character. -/
def Mode.next : Mode → Char → Mode
  | .escape, c =>
    if c < '0' then .short
    else if c = '[' then .sequence
    else if c = ']' then .title
    else if c = 'P' ∨ c = 'X' ∨ c = '^' ∨ c = '_' then .message
    else .plain
  | .short, c => if c < '0' then .short else .plain
  | .sequence, c => if c < '@' then .sequence else .plain
  | m, _ => m

/-- The mode behind a character, and whether the character is shown. -/
def step (m : Mode) (c : Char) : Mode × Bool :=
  if c = '\x1b' then (.escape, false)
  else if c = '\x18' ∨ c = '\x1a' then (.plain, false)
  else
    match m with
    | .plain => (.plain, moves c || !isControl c)
    | .title => (if c = '\x07' then .plain else .title, false)
    | .message => (.message, false)
    | _ =>
      if moves c then (.plain, true)
      else if isControl c ∨ '\x7f' < c then (m, false)
      else (m.next c, false)

def shownFrom (m : Mode) : List Char → List Char
  | [] => []
  | c :: cs =>
    let (m', seen) := step m c
    if seen then c :: shownFrom m' cs else shownFrom m' cs

def shown (s : String) : String := String.ofList (shownFrom .plain s.toList)

/-- A text that stands out where the screen can do that. -/
def bold (s : String) : String := "\x1b[1m" ++ s ++ "\x1b[0m"

end ExampleSuite.Screen
