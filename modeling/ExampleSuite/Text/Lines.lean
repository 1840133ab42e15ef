/-!
The lines of a text.

A line ends with a newline. A carriage return right before the newline belongs to the end of the
line and not to the line.
-/

namespace ExampleSuite.Lines

def dropReturn (cs : List Char) : List Char := if cs.getLast? = some '\r' then cs.dropLast else cs

/-- The lines of a text that a newline follows. -/
def ended (s : String) : List String :=
  (s.splitOn "\n").map fun l => String.ofList (dropReturn l.toList)

def head (s : String) : String := (ended s).headD ""

end ExampleSuite.Lines
