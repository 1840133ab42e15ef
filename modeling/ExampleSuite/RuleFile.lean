import ExampleSuite.Exclusion
import ExampleSuite.Text.Quoted
import ExampleSuite.Yaml.Value

/-!
Rule files.

A rule file holds at most one document: nothing, or a mapping with the two keys `skip_files`
and `skip_patterns`, each with a list of scalars, whose source texts are the entries. The
first thing in the document that is not so is reported with its place.
-/

namespace ExampleSuite.RuleFile

open Yaml (Mark Node Document Value)

inductive Field where
  | files
  | patterns
  deriving DecidableEq, Repr

def Field.name : Field → String
  | .files => "skip_files"
  | .patterns => "skip_patterns"

def field? (s : List Char) : Option Field :=
  if s = Field.files.name.toList then some .files
  else if s = Field.patterns.name.toList then some .patterns
  else none

/-- What stands where something else should. -/
inductive Found where
  | map
  | seq
  | value (v : Value)

def Found.text : Found → String
  | .map => "map"
  | .seq => "sequence"
  | .value .null => "unit value"
  | .value (.bool b) => s!"boolean `{b}`"
  | .value (.int n none) => s!"integer `{n}`"
  | .value (.int n (some w)) => s!"integer `{n}` as {w}"
  | .value (.float x) => s!"floating point `{x.text}`"
  | .value (.infinite neg) => if neg then "floating point `-inf`" else "floating point `inf`"
  | .value .notANumber => "floating point `NaN`"
  | .value (.text s) => s!"string {Quoted.quote (String.ofList s)}"

inductive Problem where
  | wrongType (found : Found) (expected : String)
  | wrongValue (text : List Char) (expected : String)
  | unknownField (name : List Char)
  | duplicateField (f : Field)

def Problem.text : Problem → String
  | .wrongType f e => s!"invalid type: {f.text}, expected {e}"
  | .wrongValue s e => s!"invalid value: string {Quoted.quote (String.ofList s)}, expected {e}"
  | .unknownField n =>
    s!"unknown field `{String.ofList n}`, expected `skip_files` or `skip_patterns`"
  | .duplicateField f => s!"duplicate field `{f.name}`"

/-- The part of the document that a problem lies in. -/
inductive Spot where
  | document
  /-- The value of a key, which is unnamed where the key is an alias. -/
  | value (key : Option Field)
  | item (key : Option Field) (index : Nat)

def keyText : Option Field → String
  | none => "?"
  | some f => f.name

def Spot.text : Spot → String
  | .document => ""
  | .value k => keyText k ++ ": "
  | .item k i => s!"{keyText k}[{i}]: "

inductive FormatError where
  | malformed
  | manyDocuments
  /-- A problem without a place. -/
  | bare (p : Problem)
  | located (s : Spot) (p : Problem) (m : Mark)

def FormatError.message : FormatError → String
  | .malformed => "not well-formed YAML"
  | .manyDocuments =>
    "deserializing from YAML containing more than one document is not supported"
  | .bare p => p.text
  | .located s p m =>
    s.text ++ p.text ++
      (if m.line = 0 ∧ m.col = 0 then "" else s!" at line {m.line + 1} column {m.col + 1}")

/-! ### Decoding -/

def core (name : String) : List Char := ("tag:yaml.org,2002:" ++ name).toList

/-- Why a scalar is not what was expected. A tag of the core schema is held against the text
first, and a local tag, which starts with an exclamation mark, says nothing about it. -/
def scalarProblem (tag : Option (List Char)) (plain : Bool) (s : List Char) (expected : String) :
    Problem :=
  let off (v : Value) : Problem := .wrongType (.value v) expected
  match tag with
  | none => off (if plain then Value.ofPlain s else .text s)
  | some t =>
    if t = core "bool" then
      match Value.bool? s with
      | some b => off (.bool b)
      | none => .wrongValue s "a boolean"
    else if t = core "int" then
      match Value.int? s with
      | some v => off v
      | none => .wrongValue s "an integer"
    else if t = core "float" then
      match Value.float? s with
      | some v => off v
      | none => .wrongValue s "a float"
    else if t = core "null" then
      if Value.isNull s then off .null else .wrongValue s "null"
    else if plain ∧ t.head? = some '!' then off (Value.ofPlain s)
    else off (.text s)

def problem (n : Node) (expected : String) : Problem :=
  match n with
  | .scalar _ tag plain s => scalarProblem tag plain s expected
  | .seq _ _ => .wrongType .seq expected
  | .map _ _ => .wrongType .map expected
  | .alias _ _ => .wrongType (.value .null) expected

def place : Node → Mark
  | .scalar m _ _ _ => m
  | .seq m _ => m
  | .map m _ => m
  | .alias m _ => m

/-- The node that a node stands for. -/
def resolve (d : Document) (n : Node) : Node :=
  match n with
  | .alias _ k => (d.anchored.lookup k).getD n
  | _ => n

def fail {α : Type} (s : Spot) (n : Node) (expected : String) : Except FormatError α :=
  .error (.located s (problem n expected) (place n))

def items (d : Document) (key : Option Field) : Nat → List Node → Except FormatError (List String)
  | _, [] => .ok []
  | i, n :: ns =>
    match resolve d n with
    | .scalar _ _ _ s => (items d key (i + 1) ns).map (String.ofList s :: ·)
    | n => fail (.item key i) n "a string"

/-- The list under a key. A key without any value has an empty one. -/
def entries (d : Document) (key : Option Field) (n : Node) : Except FormatError (List String) :=
  match resolve d n with
  | .seq _ ns => items d key 0 ns
  | .scalar m tag plain s =>
    if s = [] ∧ plain then .ok []
    else fail (.value key) (.scalar m tag plain s) "a sequence"
  | n => fail (.value key) n "a sequence"

structure Lists where
  files : Option (List String)
  patterns : Option (List String)

def Lists.has (l : Lists) : Field → Bool
  | .files => l.files.isSome
  | .patterns => l.patterns.isSome

def Lists.put (l : Lists) (f : Field) (v : List String) : Lists :=
  match f with
  | .files => { l with files := some v }
  | .patterns => { l with patterns := some v }

/-- The name under which a key's value is reported. -/
def keyName (key : Node) (f : Field) : Option Field :=
  match key with
  | .alias _ _ => none
  | _ => some f

def fields (d : Document) (m : Mark) : Lists → List (Node × Node) → Except FormatError Lists
  | l, [] => .ok l
  | l, (k, v) :: es =>
    match resolve d k with
    | .scalar km _ _ s =>
      match field? s with
      | none => .error (.located .document (.unknownField s) km)
      | some f =>
        if l.has f then .error (.located .document (.duplicateField f) m)
        else
          match entries d (keyName k f) v with
          | .error e => .error e
          | .ok vs => fields d m (l.put f vs) es
    | n => fail .document n "field identifier"

def toExclusions (l : Lists) : Exclusions :=
  .ofLists (l.files.getD []) (l.patterns.getD [])

def decode (d : Document) : Except FormatError Exclusions :=
  match d.root with
  | .map m es => (fields d m ⟨none, none⟩ es).map toExclusions
  | .scalar m tag plain s =>
    if plain ∧ tag = some (core "null") then
      if Value.isNull s then .ok .none else .error (.bare (.wrongValue s "null"))
    else if plain ∧ (s = [] ∨ (tag = none ∧ Value.isNull s)) then .ok .none
    else fail .document (.scalar m tag plain s) "struct RuleFile"
  | n => fail .document n "struct RuleFile"

/-- The rules of a text. -/
def parse (text : String) : Except FormatError Exclusions :=
  match Yaml.read text.toList with
  | none => .error .malformed
  | some [] => .ok .none
  | some [d] => decode d
  | some (d :: _) => (decode d).bind fun _ => .error .manyDocuments

end ExampleSuite.RuleFile
