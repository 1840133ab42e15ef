import ExampleSuite.Outcome
import ExampleSuite.Sink

/-!
The run log: a banner, a line for each outcome and a closing summary.

A part of the log is a list of pieces, each a text or a change of colour. Only outcome markers
and the closing line of a clean run are coloured. In plain style the changes of colour leave
no trace.
-/

namespace ExampleSuite.Report

inductive Colour where
  | red
  | green
  | yellow
  deriving DecidableEq, Repr

inductive Piece where
  | text (s : String)
  | path (p : Path)
  /-- Bold text of a colour from here on. -/
  | paint (c : Colour)
  | unpaint
  deriving DecidableEq, Repr

inductive Style where
  | plain
  | ansi
  deriving DecidableEq, Repr

def Colour.digit : Colour → String
  | .red => "1"
  | .green => "2"
  | .yellow => "3"

def reset : String := "\x1b[0m"

def Piece.render : Style → Piece → Bytes
  | _, .text s => Bytes.ofString s
  | _, .path p => Utf8.encode (Utf8.lossy p)
  | .plain, .paint _ | .plain, .unpaint => []
  | .ansi, .paint c => Bytes.ofString (reset ++ "\x1b[1m\x1b[3" ++ c.digit ++ "m")
  | .ansi, .unpaint => Bytes.ofString reset

def render (st : Style) (ps : List Piece) : Bytes := ps.flatMap (Piece.render st)

/-! ### Parts of the log -/

def banner : List Piece := [.text "=== Testing All Franz Examples ===\n", .text "\n"]

def mark (c : Colour) (s : String) : List Piece := [.paint c, .text s, .unpaint]

def marker : Outcome → Colour × String
  | .passed => (.green, "✓ PASS")
  | .failed _ => (.red, "✗ FAIL")
  | .timedOut => (.red, "✗ TIMEOUT")
  | .skipped _ => (.yellow, "⊘ SKIP")

/-- What follows the path on the line of an outcome. -/
def remark : Outcome → String
  | .passed | .timedOut => ""
  | .failed n => s!" (exit code: {n})"
  | .skipped r => s!" ({r.text})"

def outcome (c : Candidate) (o : Outcome) : List Piece :=
  mark (marker o).1 (marker o).2 ++
    [.text ": ", .path c.path, .text (remark o ++ "\n")]

def counter (name : String) (n : Nat) : Piece := .text s!"{name}: {n}\n"

def verdict (s : Summary) : List Piece :=
  if s.hasFailures then
    .text "Failed files:\n" ::
      s.failing.flatMap fun p => [.text "  - ", .path p, .text "\n"]
  else mark .green "✅ All tests passed!" ++ [.text "\n"]

def summary (s : Summary) : List Piece :=
  [.text "\n", .text "=== Summary ===\n", counter "Passed" s.passed, counter "Failed" s.failed,
    counter "Skipped" s.skipped, counter "Total" s.total, .text "\n"] ++ verdict s

/-- Writes a part of the log, as far as it fits. -/
def print (st : Style) (out : Sink) (ps : List Piece) : Sink × Bool :=
  out.writeAll (ps.map (Piece.render st))

theorem render_append (st : Style) (ps qs : List Piece) :
    render st (ps ++ qs) = render st ps ++ render st qs := by
  simp [render]

end ExampleSuite.Report
