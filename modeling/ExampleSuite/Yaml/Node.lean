import ExampleSuite.Yaml.Token

/-!
Documents as trees.

A node is a scalar, a sequence, a mapping, or an alias for an anchored node of its document.
Each node keeps the position where it begins. An anchor is known by how many different names
were anchored before it, so a name that is anchored anew shares its number with the next new
name, and an alias stands for the node that took its number last.
-/

namespace ExampleSuite.Yaml

inductive Node where
  | scalar (at_ : Mark) (tag : Option (List Char)) (plain : Bool) (text : List Char)
  | seq (at_ : Mark) (items : List Node)
  | map (at_ : Mark) (entries : List (Node × Node))
  | alias (at_ : Mark) (number : Nat)

structure Document where
  root : Node
  /-- The node that each number stands for. -/
  anchored : List (Nat × Node)

structure Parse where
  toks : List Token
  tags : List (List Char × List Char)
  /-- The anchored names and their numbers. -/
  names : List (List Char × Nat)
  /-- The number and the order of each anchored node, last first. -/
  slots : List (Nat × Nat)
  /-- The anchored nodes that are complete, by their order. -/
  built : List (Nat × Node)

namespace Parse

def kind (p : Parse) : TokenKind := (p.toks.head?.map (·.kind)).getD .streamEnd
def mark (p : Parse) : Mark := (p.toks.head?.map (·.start)).getD .origin
def next (p : Parse) : Parse := { p with toks := p.toks.drop 1 }

def anchor (p : Parse) (name : List Char) : Parse :=
  let n := p.names.length
  let names := if (p.names.lookup name).isSome then
    p.names.map fun e => if e.1 = name then (name, n) else e
    else p.names ++ [(name, n)]
  { p with names, slots := (n, p.slots.length) :: p.slots }

def record (p : Parse) (order : Option Nat) (node : Node) : Parse :=
  match order with
  | none => p
  | some k => { p with built := (k, node) :: p.built }

/-- What a tag stands for under the directives in force. -/
def expand (p : Parse) (t : RawTag) : Option (List Char) :=
  if t.handle = [] then some t.suffix else (p.tags.lookup t.handle).map (· ++ t.suffix)

def blank (m : Mark) : Node := .scalar m none true []

/-- The anchor and the tag in front of a node, in either order. -/
def properties (p : Parse) : Option (List Char) × Option RawTag × Parse :=
  match p.kind with
  | .anchor a =>
    match p.next.kind with
    | .tag t => (some a, some t, p.next.next)
    | _ => (some a, none, p.next)
  | .tag t =>
    match p.next.kind with
    | .anchor a => (some a, some t, p.next.next)
    | _ => (none, some t, p.next)
  | _ => (none, none, p)

mutual

/-- A node, which may be a block where `inBlock` holds, and a sequence without indentation
where `loose` holds. -/
def node (inBlock loose : Bool) : Nat → Parse → Option (Node × Parse)
  | 0, _ => none
  | fuel + 1, p =>
    match p.kind with
    | .alias a => (p.names.lookup a).map fun n => (.alias p.mark n, p.next)
    | _ => do
      let m := p.mark
      let (name, raw, p) := p.properties
      let tag ← match raw with
        | none => some none
        | some t => (p.expand t).map some
      let order := name.map fun _ => p.slots.length
      let p := match name with
        | none => p
        | some a => p.anchor a
      let (n, p) ← match p.kind with
        | .scalar plain text => some (.scalar m tag plain text, p.next)
        | .flowSeqStart => (flowItems true fuel p.next).map fun (is, p) => (.seq m is, p)
        | .flowMapStart => (flowEntries true fuel p.next).map fun (es, p) => (.map m es, p)
        | .blockEntry =>
          if loose then (looseItems fuel p).map fun (is, p) => (.seq m is, p)
          else if name.isSome || tag.isSome then some (.scalar m tag true [], p) else none
        | .blockSeqStart =>
          if inBlock then (blockItems fuel p.next).map fun (is, p) => (.seq m is, p)
          else if name.isSome || tag.isSome then some (.scalar m tag true [], p) else none
        | .blockMapStart =>
          if inBlock then (blockEntries fuel p.next).map fun (es, p) => (.map m es, p)
          else if name.isSome || tag.isSome then some (.scalar m tag true [], p) else none
        | _ => if name.isSome || tag.isSome then some (.scalar m tag true [], p) else none
      return (n, p.record order n)

def blockItems : Nat → Parse → Option (List Node × Parse)
  | 0, _ => none
  | fuel + 1, p =>
    match p.toks with
    | ⟨.blockEntry, _, stop⟩ :: _ => do
      let p := p.next
      let (n, p) ← match p.kind with
        | .blockEntry => some (blank stop, p)
        | .blockEnd => some (blank stop, p)
        | _ => node true false fuel p
      let (ns, p) ← blockItems fuel p
      return (n :: ns, p)
    | ⟨.blockEnd, _, _⟩ :: _ => some ([], p.next)
    | _ => none

def looseItems : Nat → Parse → Option (List Node × Parse)
  | 0, _ => none
  | fuel + 1, p =>
    match p.toks with
    | ⟨.blockEntry, _, stop⟩ :: _ => do
      let p := p.next
      let (n, p) ← match p.kind with
        | .blockEntry => some (blank stop, p)
        | .key => some (blank stop, p)
        | .value => some (blank stop, p)
        | .blockEnd => some (blank stop, p)
        | _ => node true false fuel p
      let (ns, p) ← looseItems fuel p
      return (n :: ns, p)
    | _ => some ([], p)

/-- The entries of a block mapping. A key may lack its value, but not the other way round. -/
def blockEntries : Nat → Parse → Option (List (Node × Node) × Parse)
  | 0, _ => none
  | fuel + 1, p =>
    match p.toks with
    | ⟨.key, _, stop⟩ :: _ => do
      let p := p.next
      let (k, p) ← match p.kind with
        | .key => some (blank stop, p)
        | .value => some (blank stop, p)
        | .blockEnd => some (blank stop, p)
        | _ => node true true fuel p
      let (v, p) ← match p.toks with
        | ⟨.value, _, stop⟩ :: _ =>
          let p := p.next
          match p.kind with
          | .key => some (blank stop, p)
          | .value => some (blank stop, p)
          | .blockEnd => some (blank stop, p)
          | _ => node true true fuel p
        | _ => some (blank p.mark, p)
      let (es, p) ← blockEntries fuel p
      return ((k, v) :: es, p)
    | ⟨.blockEnd, _, _⟩ :: _ => some ([], p.next)
    | _ => none

/-- The items of a flow sequence. A key among them makes a mapping of one entry. -/
def flowItems (first : Bool) : Nat → Parse → Option (List Node × Parse)
  | 0, _ => none
  | fuel + 1, p =>
    match p.kind with
    | .flowSeqEnd => some ([], p.next)
    | _ => do
      let p ← if first then some p else if p.kind = .flowEntry then some p.next else none
      match p.kind with
      | .flowSeqEnd => return ([], p.next)
      | .key =>
        let m := p.mark
        let p := p.next
        -- a key without content takes the token behind it along
        let (k, p) ← match p.toks with
          | ⟨.value, _, stop⟩ :: _ => some (blank stop, p.next)
          | ⟨.flowEntry, _, stop⟩ :: _ => some (blank stop, p.next)
          | ⟨.flowSeqEnd, _, stop⟩ :: _ => some (blank stop, p.next)
          | _ => node false false fuel p
        let (v, p) ← match p.kind with
          | .value =>
            let p := p.next
            match p.kind with
            | .flowEntry => some (blank p.mark, p)
            | .flowSeqEnd => some (blank p.mark, p)
            | _ => node false false fuel p
          | _ => some (blank p.mark, p)
        let (ns, p) ← flowItems false fuel p
        return (.map m [(k, v)] :: ns, p)
      | _ =>
        let (n, p) ← node false false fuel p
        let (ns, p) ← flowItems false fuel p
        return (n :: ns, p)

def flowEntries (first : Bool) : Nat → Parse → Option (List (Node × Node) × Parse)
  | 0, _ => none
  | fuel + 1, p =>
    match p.kind with
    | .flowMapEnd => some ([], p.next)
    | _ => do
      let p ← if first then some p else if p.kind = .flowEntry then some p.next else none
      match p.kind with
      | .flowMapEnd => return ([], p.next)
      | .key =>
        let p := p.next
        let (k, p) ← match p.kind with
          | .value => some (blank p.mark, p)
          | .flowEntry => some (blank p.mark, p)
          | .flowMapEnd => some (blank p.mark, p)
          | _ => node false false fuel p
        let (v, p) ← match p.kind with
          | .value =>
            let p := p.next
            match p.kind with
            | .flowEntry => some (blank p.mark, p)
            | .flowMapEnd => some (blank p.mark, p)
            | _ => node false false fuel p
          | _ => some (blank p.mark, p)
        let (es, p) ← flowEntries false fuel p
        return ((k, v) :: es, p)
      | _ =>
        let (k, p) ← node false false fuel p
        let v := blank p.mark
        let (es, p) ← flowEntries false fuel p
        return ((k, v) :: es, p)

end

/-! ### Documents -/

def defaultTags : List (List Char × List Char) :=
  [(['!'], ['!']), (['!', '!'], "tag:yaml.org,2002:".toList)]

/-- The directives in front of a document: at most one version, and each handle once. -/
def directives : List Token → Bool → List (List Char × List Char) →
    Option (List (List Char × List Char) × List Token)
  | ⟨.directive (.version a b), _, _⟩ :: ts, seen, tags =>
    if seen ∨ a ≠ 1 ∨ (b ≠ 1 ∧ b ≠ 2) then none else directives ts true tags
  | ⟨.directive (.tag h t), _, _⟩ :: ts, seen, tags =>
    if (tags.lookup h).isSome then none else directives ts seen (tags ++ [(h, t)])
  | ts, _, tags =>
    some (tags ++ defaultTags.filter fun d => (tags.lookup d.1).isNone, ts)

def start (toks : List Token) (tags : List (List Char × List Char)) : Parse :=
  ⟨toks, tags, [], [], []⟩

def document (p : Parse) (root : Node) : Document :=
  ⟨root, p.slots.filterMap fun (n, k) => (p.built.lookup k).map (n, ·)⟩

/-- One document with content, up to and including the mark of its end. -/
def oneDocument (p : Parse) (fuel : Nat) : Option (Document × List Token) := do
  let (n, p) ← node true false fuel p
  return (p.document n, p.toks)

def isBoundary : TokenKind → Bool
  | .directive _ => true
  | .documentStart => true
  | .documentEnd => true
  | .streamEnd => true
  | _ => false

/-- A document that begins with its separator. -/
def explicit (ts : List Token) (fuel : Nat) : Option (Document × List Token) := do
  let (tags, ts) ← directives ts false []
  match ts with
  | ⟨.documentStart, _, _⟩ :: ts =>
    let p := start ts tags
    if isBoundary p.kind then return (p.document (blank p.mark), ts) else p.oneDocument fuel
  | _ => none

def skipEnds (ts : List Token) : List Token := ts.dropWhile (·.kind == .documentEnd)

/-- The documents behind the first one. -/
def more : Nat → List Token → Option (List Document)
  | 0, _ => none
  | fuel + 1, ts =>
    match skipEnds ts with
    | ⟨.streamEnd, _, _⟩ :: _ => some []
    | ts => do
      let (d, ts) ← explicit ts (4 * ts.length + 8)
      let ds ← more fuel ts
      return d :: ds

def documents (ts : List Token) : Option (List Document) :=
  let fuel := 4 * ts.length + 8
  match ts with
  | ⟨.streamEnd, _, _⟩ :: _ => some []
  | ⟨.directive _, _, _⟩ :: _ => do
    let (d, ts) ← explicit ts fuel
    return d :: (← more fuel ts)
  | ⟨.documentStart, _, _⟩ :: _ => do
    let (d, ts) ← explicit ts fuel
    return d :: (← more fuel ts)
  | _ => do
    let (d, ts) ← (start ts defaultTags).oneDocument fuel
    return d :: (← more fuel ts)

end Parse

/-- The documents of a text, unless it is malformed. -/
def read (text : List Char) : Option (List Document) := (tokens text).bind Parse.documents

end ExampleSuite.Yaml
