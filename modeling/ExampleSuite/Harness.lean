import ExampleSuite.Corpus
import ExampleSuite.Execution
import ExampleSuite.Interpreter
import ExampleSuite.Report

/-!
A whole run: every example of a corpus is skipped or executed, one after the other, and its
outcome is counted and printed before the next example is looked at.

What can be checked is checked before anything is printed. An interrupt ends the run without
a summary.
-/

namespace ExampleSuite.Harness

variable {σ : Type}

open Act (act look tell)

/-- Opens the corpus below a root and tells so. -/
def openCorpus (disk : σ → Disk) (cwd : Place) (root : Path) (extension : String) :
    Act σ Corpus := do
  let c ← Act.ofExcept (Corpus.at? (← look disk).tree cwd root extension)
  tell (.opened root extension)
  return c

def print (st : Report.Style) (ps : List Report.Piece) : Act σ Unit := do
  let s ← get
  let r := Report.print st s.out ps
  set { s with out := r.1 }
  if !r.2 then throw (.output .sinkFull)

/-- The outcome of an example, which is executed unless the rules leave it out. -/
def process (h : Host σ) (cfg : Config) (c : Candidate) : Act σ Outcome := do
  match Log.ofVerdict cfg.rules c with
  | some e => tell e
  | none => pure ()
  match cfg.rules.evaluate c with
  | .skip r => return .skipped r
  | .proceed =>
    tell (.running c.path)
    Execution.execute h cfg.interpreter c

def count (c : Candidate) (o : Outcome) : Act σ Unit :=
  modify fun s => { s with tally := s.tally.record c o }

/-- Deals with one example from the verdict to its line in the log. -/
def turn (h : Host σ) (st : Report.Style) (cfg : Config) (c : Candidate) : Act σ Unit := do
  let o ← process h cfg c
  count c o
  print st (Report.outcome c o)
  if ← act h.check then throw .interrupted

def walk (h : Host σ) (st : Report.Style) (cfg : Config) : Walk (Session σ) Failure where
  tree := fun s => (h.disk s.world).tree
  cwd := h.cwd
  extension := Bytes.ofString cfg.extension
  found := turn h st cfg
  unread := fun p e => tell (.unreadable p e)

def run (h : Host σ) (st : Report.Style) (cfg : Config) : Act σ Summary := do
  Act.ofExcept (cfg.interpreter.verify (← look h.disk).tree h.cwd)
  let corpus ← openCorpus h.disk h.cwd cfg.root cfg.extension
  act fun s => (h.listen s, ())
  print st Report.banner
  modify fun s => { s with tally := .empty }
  (walk h st cfg).run corpus.root
  let sum := (← get).tally
  tell (.finished sum.passed sum.failed sum.skipped sum.total)
  print st (Report.summary sum)
  return sum

end ExampleSuite.Harness
