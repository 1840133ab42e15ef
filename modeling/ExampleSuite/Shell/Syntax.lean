/-!
Commands of the shell.

A word is a list of parts, of which some stand for themselves and some are replaced when the
command runs. Commands whose output is to be inserted are kept as text.
-/

namespace ExampleSuite.Shell

/-- Text in which each character stands for one byte. -/
abbrev Text := List Char

/-- How the value of a parameter is used. The flag says that an empty value counts as none, or
that the longest match is cut. -/
inductive Use where
  | value
  | length
  | orElse (empty : Bool)
  | orAssign (empty : Bool)
  | orFail (empty : Bool)
  | ifSet (empty : Bool)
  | cutFront (longest : Bool)
  | cutBack (longest : Bool)
  deriving DecidableEq, Repr

inductive Part where
  | plain (s : Text)
  | quoted (s : Text)
  | param (inQuotes : Bool) (name : Text) (use : Use) (word : List Part)
  | output (inQuotes : Bool) (source : Text)
  | sum (inQuotes : Bool) (expr : List Part)
  deriving Repr

abbrev Word := List Part

inductive RedirKind where
  | read
  | write
  | append
  | both
  | dup
  | text
  deriving DecidableEq, Repr

structure Redir where
  fd : Nat
  kind : RedirKind
  target : Word
  deriving Repr

inductive Command where
  | skip
  | simple (assigns : List (Text × Word)) (words : List Word) (redirs : List Redir)
  | pipe (negated : Bool) (parts : List Command)
  | both (a b : Command)
  | either (a b : Command)
  | seq (a b : Command)
  | background (c : Command)
  | subshell (c : Command)
  | redirected (c : Command) (rs : List Redir)
  | cond (test yes no : Command)
  | loop (expected : Bool) (test body : Command)
  | each (name : Text) (words : Option (List Word)) (body : Command)
  | choose (word : Word) (arms : List (List Word × Command))
  | define (name : Text) (body : Command)
  deriving Repr

def isNameStart (c : Char) : Bool := c.isAlpha || c == '_'
def isNameChar (c : Char) : Bool := c.isAlphanum || c == '_'

def isName : Text → Bool
  | [] => false
  | c :: cs => isNameStart c && cs.all isNameChar

end ExampleSuite.Shell
