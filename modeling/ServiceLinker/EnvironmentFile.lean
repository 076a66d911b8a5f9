import ServiceLinker.Config.Layers
import ServiceLinker.Text.Alphanumeric
import ServiceLinker.Text.Blank

/-!
# Environment files

A file may set environment variables that are not set yet, one assignment a line. A line may be a
comment, a value may be quoted and then go on over several lines, and a dollar sign inserts the
value of a variable. A line that cannot be read ends the file; the assignments before it stay.
-/

namespace ServiceLinker.EnvironmentFile

/-! ## Lines -/

/-- What is open at some place of a line. -/
inductive Scan where
  /-- Nothing. -/
  | settled
  /-- Blanks, after which a number sign starts a comment. -/
  | blank
  /-- An escape outside of quotes. -/
  | escape
  /-- Single quotes, or an escape between them. -/
  | single
  | singleEscape
  /-- Double quotes, or an escape between them. -/
  | double
  | doubleEscape
  deriving DecidableEq, Repr

/-- What a character outside of quotes opens. -/
def Scan.opened (c : Char) : Scan :=
  if c = '\\' then .escape
  else if c = '\x22' then .double
  else if c = '\x27' then .single
  else .settled

/-- What is open behind a character. -/
def Scan.step (s : Scan) (c : Char) : Scan :=
  match s with
  | .blank => opened c
  | .escape => .settled
  | .settled =>
    if Text.isBlank c && c != '\n' && c != '\r' then .blank else opened c
  | .single => if c = '\\' then .singleEscape else if c = '\x27' then .settled else .single
  | .singleEscape => .single
  | .double => if c = '\\' then .doubleEscape else if c = '\x22' then .settled else .double
  | .doubleEscape => .double

/-- A physical line with its line feed, and what follows it. -/
def splitLine : List Char → List Char × List Char
  | [] => ([], [])
  | c :: cs =>
    if c = '\n' then ([c], cs)
    else
      let (line, rest) := splitLine cs
      (c :: line, rest)

/-- What is open at the end of a line, and the line up to a comment. -/
def scanLine : Scan → List Char → List Char × Option Scan
  | s, [] => ([], some s)
  | s, c :: cs =>
    if s = .blank && c = '#' then ([], none)
    else
      let (kept, last) := scanLine (s.step c) cs
      (c :: kept, last)

/-- A line without its line feed and a carriage return before it. -/
def dropLineEnd (line : List Char) : List Char :=
  match line.reverse with
  | '\n' :: '\r' :: rest => rest.reverse
  | '\n' :: rest => rest.reverse
  | _ => line

/-- The next logical line and what follows it. A line goes on while something is open; the file
must not end there. -/
def nextLine? : Nat → Scan → List Char → List Char → Option (List Char × List Char)
  | 0, _, _, _ => none
  | fuel + 1, s, before, cs =>
    if cs.isEmpty then none
    else
      let (line, rest) := splitLine cs
      if (Text.trimStart (before ++ line)).head? = some '#' then some ([], rest)
      else
        match scanLine s line with
        | (kept, none) => some (before ++ kept, rest)
        | (_, some .settled) => some (dropLineEnd (before ++ line), rest)
        | (_, some s) => nextLine? fuel s (before ++ line) rest

/-! ## Values -/

/-- How far a variable that is inserted was read. -/
inductive Insertion where
  | none
  /-- A name behind a dollar sign. -/
  | bare (name : List Char)
  /-- A name between braces. -/
  | braced (name : List Char)
  deriving DecidableEq, Repr

/-- The part of a value that was read. -/
structure ValueScan where
  /-- The value so far. -/
  output : List Char
  single : Bool
  double : Bool
  escaped : Bool
  /-- A blank ended the value. -/
  ended : Bool
  insertion : Insertion

/-- The value of a variable, empty if it is not set. -/
def insert (env : Environment) (name : List Char) : List Char :=
  ((env (String.ofList name)).getD "").toList

/-- What an escaped character stands for. -/
def unescape? (c : Char) : Option Char :=
  if c = '\\' || c = '\x27' || c = '\x22' || c = '$' || c = ' ' then some c
  else if c = 'n' then some '\n'
  else none

/-- A character outside of insertions, escapes and single quotes. -/
def ValueScan.plain (v : ValueScan) (c : Char) : ValueScan :=
  if c = '$' then { v with insertion := .bare [] }
  else if v.double then
    if c = '\x22' then { v with double := false }
    else if c = '\\' then { v with escaped := true }
    else { v with output := v.output ++ [c] }
  else if c = '\x27' then { v with single := true }
  else if c = '\x22' then { v with double := true }
  else if c = '\\' then { v with escaped := true }
  else if c = ' ' || c = '\t' then { v with ended := true }
  else { v with output := v.output ++ [c] }

/-- A character behind a dollar sign. -/
def ValueScan.inInsertion (env : Environment) (v : ValueScan) (c : Char) : ValueScan :=
  match v.insertion with
  | .none => v
  | .bare name =>
    if Text.isAlphanumeric c then { v with insertion := .bare (name ++ [c]) }
    else if c = '\x7b' && name.isEmpty then { v with insertion := .braced [] }
    else if c = '$' then
      { v with output := v.output ++ insert env name, insertion := .bare [] }
    else { v with output := v.output ++ insert env name ++ [c], insertion := .none }
  | .braced name =>
    if c = '\x7d' then { v with output := v.output ++ insert env name, insertion := .none }
    else { v with insertion := .braced (name ++ [c]) }

def readValue? (env : Environment) : ValueScan → List Char → Option (List Char)
  | v, [] =>
    if v.single || v.double then none
    else
      match v.insertion with
      | .none => some v.output
      | .bare name => some (v.output ++ insert env name)
      | .braced _ => none
  | v, c :: cs =>
    if v.ended then
      if c = ' ' || c = '\t' then readValue? env v cs
      else if c = '#' then readValue? env v []
      else none
    else if v.escaped then
      match unescape? c with
      | some u => readValue? env { v with output := v.output ++ [u], escaped := false } cs
      | none => none
    else if v.single then
      readValue? env
        (if c = '\x27' then { v with single := false } else { v with output := v.output ++ [c] }) cs
    else if v.insertion ≠ .none then readValue? env (v.inInsertion env c) cs
    else readValue? env (v.plain c) cs

/-- The value that a text denotes. -/
def value? (env : Environment) (cs : List Char) : Option String :=
  (readValue? env ⟨[], false, false, false, false, .none⟩ cs).map String.ofList

/-! ## Assignments -/

/-- The character may stand in the name of a variable. -/
def isNameChar (c : Char) : Bool := c.isAlphanum || c = '_' || c = '.'

/-- The name of a variable and what follows it. -/
def name? (cs : List Char) : Option (String × List Char) :=
  match cs with
  | c :: _ =>
    if c.isAlpha || c = '_' then
      some (String.ofList (cs.takeWhile isNameChar), cs.dropWhile isNameChar)
    else none
  | [] => none

/-- A variable and the text behind its equals sign. The word `export` may stand before it. -/
def assignment? (cs : List Char) : Option (String × List Char) := do
  let (name, rest) ← name? cs
  match Text.trimStart rest with
  | '=' :: value => some (name, value)
  | rest =>
    if name = "export" then
      let (name, rest) ← name? rest
      match Text.trimStart rest with
      | '=' :: value => some (name, value)
      | _ => none
    else none

/-- What a line says. -/
inductive Line where
  | blank
  | malformed
  | assignment (name value : String)
  deriving DecidableEq, Repr

/-- Reads a line. -/
def Line.of (env : Environment) (cs : List Char) : Line :=
  match Text.trim cs with
  | [] => .blank
  | '#' :: _ => .blank
  | cs =>
    match assignment? cs with
    | none => .malformed
    | some (name, value) =>
      match Text.trimStart value with
      | [] => .assignment name ""
      | '#' :: _ => .assignment name ""
      | value =>
        match value? env value with
        | none => .malformed
        | some value => .assignment name value

/-- The environment with a variable, unless it is set. -/
def define (env : Environment) (name value : String) : Environment := fun n =>
  match env n with
  | some v => some v
  | none => if n = name then some value else none

/-- The environment after the lines of a text. -/
def readLines : Nat → List Char → Environment → Environment
  | 0, _, env => env
  | fuel + 1, cs, env =>
    match nextLine? (cs.length + 1) .settled [] cs with
    | none => env
    | some (line, rest) =>
      match Line.of env line with
      | .blank => readLines fuel rest env
      | .malformed => env
      | .assignment name value => readLines fuel rest (define env name value)

/-- The maximal rows of characters of a class. -/
def rowsOf (p : Char → Bool) : List Char → List Char → List String
  | row, [] => if row.isEmpty then [] else [String.ofList row.reverse]
  | row, c :: cs =>
    if p c then rowsOf p (c :: row) cs
    else if row.isEmpty then rowsOf p [] cs
    else String.ofList row.reverse :: rowsOf p [] cs

/-- The names of variables that a text may assign or insert. -/
def mentioned (text : String) : List String :=
  rowsOf isNameChar [] text.toList ++ rowsOf Text.isAlphanumeric [] text.toList

/-- The environment after a file with the given text; a byte order mark may start it. -/
def load (text : String) (env : Environment) : Environment :=
  let cs := text.toList
  let cs := if cs.head? = some '\ufeff' then cs.tail else cs
  readLines (cs.length + 1) cs env

end ServiceLinker.EnvironmentFile
