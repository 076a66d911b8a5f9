import ServiceLinker.CommandLine.Basic

/-!
# Reading the command line

Arguments are read from left to right. A value is checked when the next parameter begins or the
line ends, so an argument that belongs to no parameter is reported before a value in front of it.
-/

namespace ServiceLinker.CommandLine

/-- What was read of a part of the command line. -/
structure Reading where
  /-- The parameters with their checked values, the last one first. -/
  given : List (Parameter × String)
  /-- A parameter whose value was not checked yet, or is still to come. -/
  pending : Option (Parameter × Option String)

namespace Reading

/-- Nothing was read. -/
def empty : Reading := ⟨[], none⟩

/-- A parameter was given. -/
def has (r : Reading) (p : Parameter) : Bool := r.given.any (·.1 = p)

def value? (r : Reading) (p : Parameter) : Option String := r.given.lookup p

/-- The parameter that waits for its value. -/
def isWaiting (r : Reading) : Bool :=
  match r.pending with
  | some (_, none) => true
  | _ => false

def note (r : Reading) (p : Parameter) (value : String) : Except UsageError Reading :=
  if r.has p then .error .repeated
  else (p.check value).map fun _ => { r with given := (p, value) :: r.given }

/-- Checks the pending value. -/
def settle (r : Reading) : Except UsageError Reading :=
  match r.pending with
  | none => .ok r
  | some (_, none) => .error .unusableValue
  | some (p, some value) => note { r with pending := none } p value

/-- A flag was given. Help and version end the reading. -/
def flag (r : Reading) (p : Parameter) : Except UsageError Reading := do
  let r ← r.settle
  match p with
  | .help => .error .helpRequested
  | .version => .error .versionRequested
  | _ => r.note p ""

/-- A parameter was given whose value is attached or follows. -/
def option (r : Reading) (p : Parameter) (attached : Option String) : Except UsageError Reading := do
  let r ← r.settle
  match attached with
  | some value => r.note p value
  | none => .ok { r with pending := some (p, none) }

/-- The root was given, or is pending. -/
def hasRoot (r : Reading) : Bool := r.has .root || r.pending.any (·.1 = .root)

end Reading

/-- A name and what stands behind the first equals sign. -/
def splitValue : List Char → List Char × Option (List Char)
  | [] => ([], none)
  | c :: cs =>
    if c = '=' then ([], some cs)
    else
      let (name, value) := splitValue cs
      (c :: name, value)

/-- An argument behind two hyphens. -/
def readLong (g : Grammar) (cs : List Char) (r : Reading) : Except UsageError Reading :=
  let (name, value) := splitValue cs
  match g.withName? (String.ofList name) with
  | none => .error (.unknownArgument ("--" ++ String.ofList name))
  | some p =>
    if p.hasValue then r.option p (value.map String.ofList)
    else if value.isSome then .error (.valueOfFlag ("--" ++ String.ofList name))
    else r.flag p

/-- The letters behind a single hyphen. What follows the letter of a parameter with a value is its
value. -/
def readLetters (g : Grammar) : List Char → Reading → Except UsageError Reading
  | [], r => .ok r
  | c :: cs, r =>
    match g.withLetter? c with
    | none => .error (.unknownArgument (String.ofList ['-', c]))
    | some p =>
      if p.hasValue then
        match cs with
        | [] => r.option p none
        | '=' :: value => r.option p (some (String.ofList value))
        | value => r.option p (some (String.ofList value))
      else do
        let r ← r.flag p
        readLetters g cs r

/-- An argument that belongs to no parameter by its spelling: the root, or a word out of place.
A command word counts as misplaced rather than unknown where no command may follow. -/
def readWord (g : Grammar) (trailing : Bool) (word : String) (r : Reading) :
    Except UsageError Reading :=
  if g.parameters.contains .root && !r.hasRoot then do
    let r ← r.settle
    .ok { r with pending := some (.root, some word) }
  else if g.commands.isEmpty || (trailing && g.commands.contains word) then
    .error (.unknownArgument word)
  else .error (.unknownCommand word)

/-- How an argument is spelled. -/
inductive Spelling where
  /-- Two hyphens by themselves: only words follow. -/
  | divider
  | long (text : List Char)
  | letters (text : List Char)
  | word
  deriving DecidableEq, Repr

def Spelling.of (argument : String) : Spelling :=
  match argument.toList with
  | ['-', '-'] => .divider
  | '-' :: '-' :: text => .long text
  | ['-'] => .word
  | '-' :: text => .letters text
  | _ => .word

/-- Reads arguments up to a command word, which is returned with the arguments behind it. -/
def readArguments (g : Grammar) :
    Bool → List String → Reading → Except UsageError (Reading × Option (String × List String))
  | _, [], r => do
    let r ← r.settle
    .ok (r, none)
  | true, argument :: rest, r => do
    let r ← readWord g true argument r
    readArguments g true rest r
  | false, argument :: rest, r =>
    if !r.isWaiting && g.commands.contains argument then do
      let r ← r.settle
      .ok (r, some (argument, rest))
    else
      match Spelling.of argument with
      | .divider => readArguments g true rest r
      | .long text => do
        let r ← readLong g text r
        readArguments g false rest r
      | .letters text => do
        let r ← readLetters g text r
        readArguments g false rest r
      | .word =>
        match r.pending with
        | some (p, none) =>
          readArguments g false rest { r with pending := some (p, some argument) }
        | _ => do
          let r ← readWord g false argument r
          readArguments g false rest r

/-! ## Commands -/

/-- A command line that names a command to run. -/
structure Invocation where
  verbose : Bool
  command : Command
  deriving DecidableEq, Repr

namespace Reading

/-- The options that both commands have. -/
def options? (r : Reading) : Option LinkOptions :=
  (r.value? .root).map fun root =>
    ⟨root, r.value? .config,
      (r.value? .ambiguity).bind fun text => (AmbiguityPolicy.ofText text).toOption⟩

def link? (r : Reading) : Option Command :=
  r.options?.map fun options =>
    .link options (((r.value? .format).bind ReportFormat.ofTag?).getD .text) (r.value? .output)
      (r.has .strict)

def bundle? (r : Reading) : Option Command := do
  let options ← r.options?
  let out ← r.value? .out
  pure (.bundle options out)

end Reading

/-- A request for help: every further word must be a command of the one before. -/
def readHelp : List String → UsageError
  | [] => .helpRequested
  | [word] => if Grammar.commandWords.contains word then .helpRequested else .unknownCommand word
  | word :: next :: _ =>
    if Grammar.commandWords.contains word then .unknownCommand next else .unknownCommand word

/-- Reads the arguments of a command. -/
def readCommand (g : Grammar) (make? : Reading → Option Command) (verbose : Bool)
    (rest : List String) : Except UsageError Invocation := do
  let (r, _) ← readArguments g false rest .empty
  match make? r with
  | some command => .ok ⟨verbose || r.has .verbose, command⟩
  | none => .error .parameterMissing

/-- Reads a command line without the name of the program. -/
def read (arguments : List String) : Except UsageError Invocation := do
  let (r, command) ← readArguments .front false arguments .empty
  match command with
  | none => .error (if r.given.isEmpty then .nothingGiven else .commandMissing)
  | some (word, rest) =>
    if word = "link" then readCommand .link Reading.link? (r.has .verbose) rest
    else if word = "bundle" then readCommand .bundle Reading.bundle? (r.has .verbose) rest
    else .error (readHelp rest)

end ServiceLinker.CommandLine
