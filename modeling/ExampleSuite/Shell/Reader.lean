import ExampleSuite.Shell.Syntax

/-!
Reading commands from text.

A script is read one line of commands at a time, so that what stands before a mistake still
runs. The depth of the reading is bounded by the length of the text.
-/

namespace ExampleSuite.Shell

/-- What is wrong with a text. -/
inductive Fault where
  | openQuote
  | unexpected (what : Text)
  | endOfText (expected : String)
  | openBrace
  | badSubstitution
  deriving DecidableEq, Repr

namespace Reader

def isMeta (c : Char) : Bool := " \t\n;&|<>()".toList.contains c

def skipBlank : Text → Text
  | '\\' :: '\n' :: r => skipBlank r
  | '#' :: r => r.dropWhile (· != '\n')
  | c :: r => if c == ' ' || c == '\t' then skipBlank r else c :: r
  | [] => []

/-- Skips blanks, comments and line ends. -/
def skipLines : Nat → Text → Text
  | 0, t => t
  | n + 1, t =>
    match skipBlank t with
    | '\n' :: r => skipLines n r
    | t => t

/-! ### Words -/

/-- Where a run of parts ends and what is special in it. -/
inductive Mode where
  | word
  | quotes
  | brace
  | braceInQuotes
  | all
  deriving DecidableEq, Repr

namespace Mode

def inQuotes : Mode → Bool
  | word | brace => false
  | quotes | braceInQuotes | all => true

def stops : Mode → Char → Bool
  | word, c => isMeta c
  | quotes, c => c == '"'
  | brace, c | braceInQuotes, c => c == '\x7d'
  | all, _ => false

def mayEnd : Mode → Bool
  | word | all => true
  | _ => false

def quoteOpens : Mode → Bool
  | word | brace | braceInQuotes => true
  | quotes | all => false

end Mode

/-- Puts a character in front of a run of parts. -/
def addChar (q : Bool) (c : Char) : List Part → List Part
  | .plain s :: ps => if q then .quoted [c] :: .plain s :: ps else .plain (c :: s) :: ps
  | .quoted s :: ps => if q then .quoted (c :: s) :: ps else .plain [c] :: .quoted s :: ps
  | ps => (if q then .quoted [c] else .plain [c]) :: ps

/-- The text up to the closing of a number of open brackets, and what follows. -/
def closing (quote : Option Char) : Nat → Text → Option (Text × Text)
  | _, [] => none
  | d, '\\' :: c :: r =>
    if quote == some '\'' then
      (closing quote d (c :: r)).map fun x => ('\\' :: x.1, x.2)
    else (closing quote d r).map fun x => ('\\' :: c :: x.1, x.2)
  | d, c :: r =>
    match quote with
    | some q => (closing (if c == q then none else quote) d r).map fun x => (c :: x.1, x.2)
    | none =>
      if c == ')' && d == 0 then some ([], r)
      else
        let d' := if c == '(' then d + 1 else if c == ')' then d - 1 else d
        let q := if c == '"' || c == '\'' then some c else none
        (closing q d' r).map fun x => (c :: x.1, x.2)

/-- The text up to a back quote, where a backslash keeps one from closing. -/
def backquoted : Text → Option (Text × Text)
  | [] => none
  | '`' :: r => some ([], r)
  | '\\' :: c :: r =>
    (backquoted r).map fun x =>
      if c == '`' || c == '\\' || c == '$' then (c :: x.1, x.2) else ('\\' :: c :: x.1, x.2)
  | c :: r => (backquoted r).map fun x => (c :: x.1, x.2)

/-- The way in which a parameter is used, and what follows it. -/
def use? : Text → Option (Use × Text)
  | ':' :: '-' :: r => some (.orElse true, r)
  | ':' :: '=' :: r => some (.orAssign true, r)
  | ':' :: '?' :: r => some (.orFail true, r)
  | ':' :: '+' :: r => some (.ifSet true, r)
  | '-' :: r => some (.orElse false, r)
  | '=' :: r => some (.orAssign false, r)
  | '?' :: r => some (.orFail false, r)
  | '+' :: r => some (.ifSet false, r)
  | '#' :: '#' :: r => some (.cutFront true, r)
  | '#' :: r => some (.cutFront false, r)
  | '%' :: '%' :: r => some (.cutBack true, r)
  | '%' :: r => some (.cutBack false, r)
  | _ => none

def isSpecial (c : Char) : Bool := "@*#?-$!".toList.contains c

/-- The name of a parameter. In braces a number may have many digits. -/
def paramName (braces : Bool) : Text → Option (Text × Text)
  | [] => none
  | c :: r =>
    if isNameStart c then some ((c :: r).takeWhile isNameChar, (c :: r).dropWhile isNameChar)
    else if c.isDigit then
      if braces then some ((c :: r).takeWhile (·.isDigit), (c :: r).dropWhile (·.isDigit))
      else some ([c], r)
    else if isSpecial c then some ([c], r)
    else none

mutual

def parts : Nat → Mode → Text → Except Fault (List Part × Text)
  | 0, _, _ => .error .badSubstitution
  | _ + 1, m, [] =>
    if m.mayEnd then .ok ([], [])
    else .error (if m = .quotes then .openQuote else .openBrace)
  | n + 1, m, c :: r =>
    if m.stops c then .ok ([], c :: r)
    else
      let add (q : Bool) (c : Char) (r : Text) : Except Fault (List Part × Text) := do
        let (ps, r) ← parts n m r
        return (addChar q c ps, r)
      match c with
      | '\\' =>
        match r with
        | [] => add m.inQuotes '\\' []
        | '\n' :: r => parts n m r
        | d :: r =>
          if m.inQuotes && !("$`\"\\".toList.contains d && (d != '"' || m != .all)) then do
            let (ps, r) ← parts n m (d :: r)
            return (addChar true '\\' ps, r)
          else add true d r
      | '\'' =>
        if m.inQuotes then add true c r
        else
          let s := r.takeWhile (· != '\'')
          match r.drop s.length with
          | [] => .error .openQuote
          | _ :: r => do
            let (ps, r) ← parts n m r
            return (.quoted s :: ps, r)
      | '"' =>
        if m.quoteOpens then do
          let (inner, r) ← parts n .quotes r
          let (ps, r) ← parts n m (r.drop 1)
          return (.quoted [] :: inner ++ ps, r)
        else add true c r
      | '`' =>
        match backquoted r with
        | none => .error .openQuote
        | some (s, r) => do
          let (ps, r) ← parts n m r
          return (.output m.inQuotes s :: ps, r)
      | '$' => do
        let (p, r) ← dollar n m.inQuotes r
        let (ps, r) ← parts n m r
        return (p :: ps, r)
      | c => add m.inQuotes c r

/-- What stands behind a dollar sign. -/
def dollar : Nat → Bool → Text → Except Fault (Part × Text)
  | 0, _, _ => .error .badSubstitution
  | n + 1, q, '(' :: '(' :: r =>
    match closing none 1 r with
    | none => .error (.endOfText "))")
    | some (s, r) => do
      let (ps, _) ← parts n .all (s.take (s.length - 1))
      return (.sum q ps, r)
  | _ + 1, q, '(' :: r =>
    match closing none 0 r with
    | none => .error (.endOfText ")")
    | some (s, r) => .ok (.output q s, r)
  | n + 1, q, '\x7b' :: r =>
    let isLength := match r with
      | '#' :: c :: _ => isNameChar c || c == '@' || c == '*'
      | _ => false
    match paramName true (if isLength then r.drop 1 else r) with
    | none => .error .badSubstitution
    | some (name, r) =>
      match r with
      | '\x7d' :: r => .ok (.param q name (if isLength then .length else .value) [], r)
      | r =>
        match use? r with
        | none => .error (if r.isEmpty then .openBrace else .badSubstitution)
        | some (u, r) => do
          let isCut := match u with
            | .cutFront _ | .cutBack _ => true
            | _ => false
          let (ps, r) ← parts n (if q && !isCut then .braceInQuotes else .brace) r
          return (.param q name u ps, r.drop 1)
  | _ + 1, q, r =>
    match paramName false r with
    | some (name, r) => .ok (.param q name .value [], r)
    | none => .ok (if q then .quoted ['$'] else .plain ['$'], r)

end

/-! ### Commands -/

def token (t : Text) : Text := t.takeWhile fun c => !isMeta c

def closers : List Text :=
  ["then", "fi", "do", "done", "else", "elif", "esac", "\x7d"].map String.toList

/-- Whether a list of commands ends here. -/
def atCloser (t : Text) : Bool :=
  match t with
  | [] => true
  | ')' :: _ => true
  | ';' :: ';' :: _ => true
  | t => closers.contains (token t)

def unexpected (t : Text) : Fault :=
  match t with
  | [] => .unexpected "end of file".toList
  | '\n' :: _ => .unexpected "newline".toList
  | ';' :: ';' :: _ => .unexpected "\";;\"".toList
  | '&' :: '&' :: _ => .unexpected "\"&&\"".toList
  | '|' :: '|' :: _ => .unexpected "\"||\"".toList
  | c :: _ => .unexpected ('"' :: (if isMeta c then [c] else token t) ++ ['"'])

/-- Takes a word that has to come here. -/
def expect (n : Nat) (w : String) (t : Text) : Except Fault Text :=
  let t := skipLines n t
  if token t = w.toList then .ok (t.drop w.length)
  else .error (if t.isEmpty then .endOfText w else unexpected t)

/-- The operator of a redirection, with the file that it is for by default. -/
def redirOp : Text → Option (RedirKind × Nat × Text)
  | '>' :: '>' :: r => some (.append, 1, r)
  | '>' :: '&' :: r => some (.dup, 1, r)
  | '>' :: '|' :: r => some (.write, 1, r)
  | '>' :: r => some (.write, 1, r)
  | '<' :: '<' :: r => some (.text, 0, r)
  | '<' :: '&' :: r => some (.dup, 0, r)
  | '<' :: '>' :: r => some (.both, 0, r)
  | '<' :: r => some (.read, 0, r)
  | _ => none

def redirHead (t : Text) : Option (RedirKind × Nat × Text) :=
  let ds := t.takeWhile (·.isDigit)
  match redirOp (t.drop ds.length) with
  | none => none
  | some (k, fd, r) =>
    some (k, if ds.isEmpty then fd else ds.foldl (fun n c => n * 10 + (c.toNat - 48)) 0, r)

def unquote : List Part → Text
  | [] => []
  | .plain s :: ps | .quoted s :: ps => s ++ unquote ps
  | _ :: ps => unquote ps

/-- The lines up to one that is the mark, and what follows it. -/
def untilMark (tabs : Bool) (mark : Text) : Nat → Text → Text × Text
  | 0, t => (t, [])
  | n + 1, t =>
    let full := t.takeWhile (· != '\n')
    let rest := (t.drop full.length).drop 1
    let line := if tabs then full.dropWhile (· == '\t') else full
    if line = mark then ([], rest)
    else if full.length = t.length then (line, [])
    else
      let x := untilMark tabs mark n rest
      (line ++ '\n' :: x.1, x.2)

/-- The lines behind the current one, up to a mark, taken out of the text. -/
def hereText (n : Nat) (t : Text) : Except Fault (Word × Text) := do
  let tabs := t.head? == some '-'
  let (w, r) ← parts n .word (skipBlank (if tabs then t.drop 1 else t))
  let line := r.takeWhile (· != '\n')
  let (body, after) := untilMark tabs (unquote w) n ((r.drop line.length).drop 1)
  let ps ←
    if w.all (fun p => match p with | .plain _ => true | _ => false) then
      (parts n .all body).map (·.1)
    else pure [Part.quoted body]
  return (ps, line ++ '\n' :: after)

def redir? (n : Nat) (t : Text) : Except Fault (Option (Redir × Text)) :=
  match redirHead t with
  | none => .ok none
  | some (.text, fd, r) => do
    let (w, r) ← hereText n r
    return some (⟨fd, .text, w⟩, r)
  | some (k, fd, r) => do
    let r := skipBlank r
    let (w, r') ← parts n .word r
    if w.isEmpty then throw (unexpected r) else return some (⟨fd, k, w⟩, r')

def redirs : Nat → Text → Except Fault (List Redir × Text)
  | 0, t => .ok ([], t)
  | n + 1, t => do
    match ← redir? n (skipBlank t) with
    | none => return ([], t)
    | some (x, t) =>
      let (xs, t) ← redirs n t
      return (x :: xs, t)

/-- The words up to the end of a command. -/
def words : Nat → Text → Except Fault (List Word × Text)
  | 0, t => .ok ([], t)
  | n + 1, t =>
    match skipBlank t with
    | [] => .ok ([], [])
    | c :: r =>
      if isMeta c then .ok ([], c :: r)
      else do
        let (w, t) ← parts n .word (c :: r)
        let (ws, t) ← words n t
        return (w :: ws, t)

/-- A name in front of an equals sign. -/
def assigned (t : Text) : Option (Text × Text) :=
  let name := t.takeWhile isNameChar
  match t.drop name.length with
  | '=' :: r => if isName name then some (name, r) else none
  | _ => none

def simple : Nat → List (Text × Word) → List Word → List Redir → Text → Except Fault (Command × Text)
  | 0, as, ws, rs, t => .ok (.simple as ws rs, t)
  | n + 1, as, ws, rs, t => do
    let t := skipBlank t
    match ← redir? n t with
    | some (x, t) => simple n as ws (rs ++ [x]) t
    | none =>
      match t with
      | [] => return (.simple as ws rs, [])
      | c :: r =>
        if isMeta c then return (.simple as ws rs, c :: r)
        else
          match if ws.isEmpty then assigned t else none with
          | some (name, r) => do
            let (w, t) ← parts n .word r
            simple n (as ++ [(name, w)]) ws rs t
          | none => do
            let (w, t) ← parts n .word t
            simple n as (ws ++ [w]) rs t

/-- The patterns of an arm, up to the closing bracket. -/
def patterns : Nat → Text → Except Fault (List Word × Text)
  | 0, t => .ok ([], t)
  | n + 1, t => do
    let (w, t) ← parts n .word (skipBlank t)
    match skipBlank t with
    | '|' :: t => do
      let (ws, t) ← patterns n t
      return (w :: ws, t)
    | ')' :: t => return ([w], t)
    | [] => throw (.endOfText ")")
    | t => throw (unexpected t)

def andThen (a b : Command) : Command :=
  match a, b with
  | .skip, b => b
  | a, .skip => a
  | a, b => .seq a b

def withRedirs (c : Command) (rs : List Redir) : Command :=
  if rs.isEmpty then c else .redirected c rs

/-- A name with an empty pair of brackets behind it. -/
def functionHead (t : Text) : Option (Text × Text) :=
  let name := token t
  if isName name then
    match skipBlank (t.drop name.length) with
    | '(' :: r =>
      match skipBlank r with
      | ')' :: r => some (name, r)
      | _ => none
    | _ => none
  else none

mutual

/-- Commands up to where a list ends. -/
def list : Nat → Text → Except Fault (Command × Text)
  | 0, t => .error (unexpected t)
  | n + 1, t =>
    let t := skipLines n t
    if atCloser t then .ok (.skip, t)
    else do
      let (c, t) ← andOr n t
      match skipBlank t with
      | '&' :: t => do
        let (d, t) ← list n t
        return (andThen (.background c) d, t)
      | ';' :: ';' :: t => return (c, ';' :: ';' :: t)
      | ';' :: t | '\n' :: t => do
        let (d, t) ← list n t
        return (andThen c d, t)
      | t => return (c, t)

/-- Commands of which there has to be one. -/
def someList : Nat → Text → Except Fault (Command × Text)
  | 0, t => .error (unexpected t)
  | n + 1, t =>
    let t := skipLines n t
    if atCloser t then .error (unexpected t) else list n t

def andOr : Nat → Text → Except Fault (Command × Text)
  | 0, t => .error (unexpected t)
  | n + 1, t => do
    let (c, t) ← pipeline n t
    andOrRest n c t

def andOrRest : Nat → Command → Text → Except Fault (Command × Text)
  | 0, _, t => .error (unexpected t)
  | n + 1, c, t =>
    match skipBlank t with
    | '&' :: '&' :: t => do
      let (d, t) ← pipeline n (skipLines n t)
      andOrRest n (.both c d) t
    | '|' :: '|' :: t => do
      let (d, t) ← pipeline n (skipLines n t)
      andOrRest n (.either c d) t
    | t => .ok (c, t)

def pipeline : Nat → Text → Except Fault (Command × Text)
  | 0, t => .error (unexpected t)
  | n + 1, t => do
    let t := skipBlank t
    let negated := token t == ['!']
    let (cs, t) ← pipes n (if negated then skipBlank (t.drop 1) else t)
    match cs with
    | [c] => return (if negated then .pipe true [c] else c, t)
    | cs => return (.pipe negated cs, t)

def pipes : Nat → Text → Except Fault (List Command × Text)
  | 0, t => .error (unexpected t)
  | n + 1, t => do
    let (c, t) ← command n t
    match skipBlank t with
    | '|' :: '|' :: r => return ([c], '|' :: '|' :: r)
    | '|' :: r => do
      let (cs, t) ← pipes n (skipLines n r)
      return (c :: cs, t)
    | t => return ([c], t)

def command : Nat → Text → Except Fault (Command × Text)
  | 0, t => .error (unexpected t)
  | n + 1, t => do
    let t := skipBlank t
    match functionHead t with
    | some (name, r) => do
      let (c, t) ← command n (skipLines n r)
      return (.define name c, t)
    | none =>
      let finish (c : Command) (t : Text) : Except Fault (Command × Text) := do
        let (rs, t) ← redirs n t
        return (withRedirs c rs, t)
      match t with
      | '(' :: r => do
        let (c, t) ← someList n r
        match skipLines n t with
        | ')' :: t => finish (.subshell c) t
        | [] => throw (.endOfText ")")
        | t => throw (unexpected t)
      | t =>
        match String.ofList (token t) with
        | "\x7b" => do
          let (c, t) ← someList n (t.drop 1)
          finish c (← expect n "\x7d" t)
        | "if" => do
          let (c, t) ← ifRest n (t.drop 2)
          finish c t
        | "while" => do
          let (c, t) ← loopRest n true (t.drop 5)
          finish c t
        | "until" => do
          let (c, t) ← loopRest n false (t.drop 5)
          finish c t
        | "for" => do
          let t := skipBlank (t.drop 3)
          let name := token t
          if !isName name then throw (unexpected t)
          let t := skipLines n (t.drop name.length)
          let (ws, t) ←
            if token t = "in".toList then do
              let (ws, t) ← words n (t.drop 2)
              pure (some ws, t)
            else pure (none, t)
          let t := match skipBlank t with
            | ';' :: t => t
            | t => t
          let (body, t) ← someList n (← expect n "do" t)
          finish (.each name ws body) (← expect n "done" t)
        | "case" => do
          let (w, t) ← parts n .word (skipBlank (t.drop 4))
          let (as, t) ← arms n (← expect n "in" t)
          finish (.choose w as) t
        | _ =>
          if atCloser t then throw (unexpected t)
          else match t with
            | c :: _ =>
              if isMeta c && c != '<' && c != '>' then throw (unexpected t)
              else simple n [] [] [] t
            | [] => throw (unexpected [])

/-- A condition and its branches. -/
def ifRest : Nat → Text → Except Fault (Command × Text)
  | 0, t => .error (unexpected t)
  | n + 1, t => do
    let (test, t) ← someList n t
    let (yes, t) ← someList n (← expect n "then" t)
    let t := skipLines n t
    if token t = "elif".toList then do
      let (no, t) ← ifRest n (t.drop 4)
      return (.cond test yes no, t)
    else if token t = "else".toList then do
      let (no, t) ← someList n (t.drop 4)
      return (.cond test yes no, ← expect n "fi" t)
    else return (.cond test yes .skip, ← expect n "fi" t)

def loopRest : Nat → Bool → Text → Except Fault (Command × Text)
  | 0, _, t => .error (unexpected t)
  | n + 1, expected, t => do
    let (test, t) ← someList n t
    let (body, t) ← someList n (← expect n "do" t)
    return (.loop expected test body, ← expect n "done" t)

def arms : Nat → Text → Except Fault (List (List Word × Command) × Text)
  | 0, t => .error (unexpected t)
  | n + 1, t => do
    let t := skipLines n t
    if token t = "esac".toList then return ([], t.drop 4)
    else
      let t := match t with
        | '(' :: t => t
        | t => t
      let (ws, t) ← patterns n t
      let (c, t) ← list n t
      match skipLines n t with
      | ';' :: ';' :: t => do
        let (as, t) ← arms n t
        return ((ws, c) :: as, t)
      | t => return ([(ws, c)], ← expect n "esac" t)

end

/-- The commands of a line, as far as they belong together. -/
def lineRest : Nat → Command → Text → Except Fault (Command × Text)
  | 0, c, t => .ok (c, t)
  | n + 1, c, t =>
    match skipBlank t with
    | [] => .ok (c, [])
    | '\n' :: t => .ok (c, t)
    | t => do
      let (d, t) ← andOr n t
      match skipBlank t with
      | '&' :: t => lineRest n (andThen c (.background d)) t
      | ';' :: ';' :: t => throw (unexpected (';' :: ';' :: t))
      | ';' :: t => lineRest n (andThen c d) t
      | [] => return (andThen c d, [])
      | '\n' :: t => return (andThen c d, t)
      | t => throw (unexpected t)

def depth (t : Text) : Nat := 8 * t.length + 16

/-- The next line of commands of a text, if there is one. -/
def line? (t : Text) : Option (Except Fault (Command × Text)) :=
  match skipLines t.length t with
  | [] => none
  | t => some (lineRest (depth t) .skip t)

/-- All commands of a text. -/
def program (t : Text) : Except Fault Command := do
  let (c, r) ← list (depth t) t
  if r.isEmpty then return c else throw (unexpected r)

end Reader

end ExampleSuite.Shell
