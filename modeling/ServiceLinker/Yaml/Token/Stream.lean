import ServiceLinker.Yaml.Token.Scalar

/-!
# From text to tokens

A key of a block mapping is known as one only when its colon is met. Every place where a key may
start therefore leaves an empty slot among the tokens, and the colon fills the slot with the key
mark, together with the start of a mapping if the key is indented more than what surrounds it.
-/

namespace ServiceLinker.Yaml

/-- A place where a key may have started. -/
structure KeyCandidate where
  slot : Nat
  /-- The place can be nothing but a key. -/
  required : Bool
  index : Nat
  line : Nat
  column : Nat

/-- The state between two tokens. -/
structure Tokenizer where
  cursor : Cursor
  /-- The tokens so far; slots of possible keys may still be empty. -/
  pieces : Array (List Token)
  /-- The key candidate of each open bracket, the innermost first, and of the text around them. -/
  candidates : List (Option KeyCandidate)
  /-- The indentation of the current block and of the blocks around it. -/
  indent : Int
  outer : List Int
  /-- A key may start here. -/
  keyAllowed : Bool

namespace Tokenizer

/-- The start of a text. -/
def start (s : String) : Tokenizer := ⟨.start s, #[], [none], -1, [], true⟩

/-- Some bracket is open. -/
def inFlow (t : Tokenizer) : Bool := 1 < t.candidates.length

/-- Adds a token. -/
def push (t : Tokenizer) (token : Token) : Tokenizer := { t with pieces := t.pieces.push [token] }

def moveTo (t : Tokenizer) (c : Cursor) : Tokenizer := { t with cursor := c }

/-- Whether keys may start from now on. -/
def allowKey (t : Tokenizer) (allowed : Bool) : Tokenizer := { t with keyAllowed := allowed }

/-- The innermost candidate. -/
def candidate? (t : Tokenizer) : Option KeyCandidate := (t.candidates.head?).join

/-- Replaces the innermost candidate. -/
def setCandidate (t : Tokenizer) (k : Option KeyCandidate) : Tokenizer :=
  { t with candidates := k :: t.candidates.tail }

/-- Gives the innermost candidate up, which is refused if it had to be a key. -/
def dropCandidate (t : Tokenizer) : Option Tokenizer :=
  match t.candidate? with
  | some k => if k.required then none else some (t.setCandidate none)
  | none => some t

/-- Gives up the candidates on earlier lines and those more than 1024 characters back. -/
def dropStale (t : Tokenizer) : Option Tokenizer :=
  let stale (k : KeyCandidate) : Bool :=
    k.line < t.cursor.line || k.index + 1024 < t.cursor.index
  let tooLate := t.candidates.any fun k => k.any fun k => stale k && k.required
  if tooLate then none
  else some { t with candidates := t.candidates.map fun k => k.filter fun k => !stale k }

/-- Notes that a key may start here. -/
def offerKey (t : Tokenizer) : Option Tokenizer :=
  if t.keyAllowed then do
    let c := t.cursor
    let required := !t.inFlow && t.indent = (c.column : Int)
    let t ← t.dropCandidate
    let k : KeyCandidate := ⟨t.pieces.size, required, c.index, c.line, c.column⟩
    pure { t with pieces := t.pieces.push [], candidates := some k :: t.candidates.tail }
  else some t

/-- Opens a block at a column to the right of the current one. -/
def enter (t : Tokenizer) (column : Nat) : Tokenizer × Bool :=
  if !t.inFlow && t.indent < (column : Int) then
    ({ t with indent := column, outer := t.indent :: t.outer }, true)
  else (t, false)

/-- Opens a block with its mark. -/
def enterWith (t : Tokenizer) (column : Nat) (token : Token) : Tokenizer :=
  let (t, opened) := t.enter column
  if opened then t.push token else t

/-- Ends the blocks to the right of a column. -/
def leaveTo (column : Int) : List Int → Tokenizer → Tokenizer
  | [], t => t
  | i :: outer, t =>
    if column < t.indent then
      leaveTo column outer ({ t with indent := i, outer := outer }.push .blockEnd)
    else t

/-- Ends the blocks to the right of a column, unless brackets are open. -/
def leave (t : Tokenizer) (column : Int) : Tokenizer :=
  if t.inFlow then t else leaveTo column t.outer t

/-- Past blanks, comments and line breaks. A line break in block context allows a key. -/
def skipToToken : Nat → Tokenizer → Tokenizer
  | 0, t => t
  | fuel + 1, t =>
    let c := t.cursor
    let c := if c.column = 0 && c.isAt byteOrderMark then c.skip 1 else c
    let tabs := t.inFlow || !t.keyAllowed
    let (_, c) := c.takeWhile fun x => x = ' ' || (tabs && x = '\t')
    let (_, c) := if c.isAt '#' then c.takeWhile (!isBreak ·) else ([], c)
    if c.atBreak then
      skipToToken fuel { t with cursor := c.skipBreak, keyAllowed := t.keyAllowed || !t.inFlow }
    else t.moveTo c

/-! ## Tokens without content -/

/-- The end of the text ends every block. -/
def finish (t : Tokenizer) : Option Tokenizer := do
  let t ← (t.leave (-1)).dropCandidate
  pure (t.allowKey false)

def documentMark (t : Tokenizer) (token : Token) : Option Tokenizer := do
  let t ← (t.leave (-1)).dropCandidate
  pure (((t.allowKey false).push token).moveTo (t.cursor.skip 3))

/-- An opening bracket, which may itself be the start of a key. -/
def openBracket (t : Tokenizer) (token : Token) : Option Tokenizer := do
  let t ← t.offerKey
  let t := { t with candidates := none :: t.candidates }
  pure (((t.allowKey true).push token).moveTo (t.cursor.skip 1))

def closeBracket (t : Tokenizer) (token : Token) : Option Tokenizer := do
  let t ← t.dropCandidate
  let t := if t.inFlow then { t with candidates := t.candidates.tail } else t
  pure (((t.allowKey false).push token).moveTo (t.cursor.skip 1))

/-- A comma between the items of brackets. -/
def comma (t : Tokenizer) : Option Tokenizer := do
  let t ← t.dropCandidate
  pure (((t.allowKey true).push .comma).moveTo (t.cursor.skip 1))

/-- The hyphen of a list item. -/
def dash (t : Tokenizer) : Option Tokenizer := do
  if !t.inFlow && !t.keyAllowed then none
  let t := t.enterWith t.cursor.column .blockList
  let t ← t.dropCandidate
  pure (((t.allowKey true).push .dash).moveTo (t.cursor.skip 1))

/-- The question mark of an explicit key. -/
def explicitKey (t : Tokenizer) : Option Tokenizer := do
  if !t.inFlow && !t.keyAllowed then none
  let t := t.enterWith t.cursor.column .blockMap
  let t ← t.dropCandidate
  pure (((t.allowKey !t.inFlow).push .key).moveTo (t.cursor.skip 1))

/-- The colon of a value. It turns the innermost candidate into a key. -/
def value (t : Tokenizer) : Option Tokenizer :=
  let mark (t : Tokenizer) : Tokenizer := (t.push .value).moveTo (t.cursor.skip 1)
  match t.candidate? with
  | some k =>
    let (t, opened) := t.enter k.column
    let tokens := if opened then [.blockMap, .key] else [Token.key]
    let t := { t with pieces := t.pieces.setIfInBounds k.slot tokens }
    some (mark ((t.setCandidate none).allowKey false))
  | none =>
    if !t.inFlow && !t.keyAllowed then none
    else some (mark ((t.enterWith t.cursor.column .blockMap).allowKey !t.inFlow))

/-! ## Directives -/

/-- A number of at most nine digits. -/
def number? (c : Cursor) : Option (Nat × Cursor) :=
  let (ds, c) := c.takeWhile Char.isDigit
  if ds.isEmpty || 9 < ds.length then none
  else some (ds.foldl (fun n d => 10 * n + (d.toNat - '0'.toNat)) 0, c)

/-- One percent-encoded byte. -/
def percentByte? (c : Cursor) : Option (Nat × Cursor) :=
  match c.rest with
  | '%' :: a :: b :: _ => do
    let a ← Scalar.hexValue? a
    let b ← Scalar.hexValue? b
    pure (16 * a + b, c.skip 3)
  | _ => none

/-- The value of a lead byte and how many continuation bytes follow it. -/
def leadByte? (n : Nat) : Option (Nat × Nat) :=
  if n < 0x80 then some (n, 0)
  else if n / 32 = 6 then some (n % 32, 1)
  else if n / 16 = 14 then some (n % 16, 2)
  else if n / 8 = 30 then some (n % 8, 3)
  else none

/-- The continuation bytes of a percent-encoded character. -/
def continuation? : Nat → Nat → Cursor → Option (Nat × Cursor)
  | 0, n, c => some (n, c)
  | k + 1, n, c => do
    let (b, c) ← percentByte? c
    if b / 64 = 2 then continuation? k (64 * n + b % 64) c else none

/-- A percent-encoded character. -/
def percentChar? (c : Cursor) : Option (Char × Cursor) := do
  let (b, c) ← percentByte? c
  let (n, k) ← leadByte? b
  let (n, c) ← continuation? k n c
  pure (Char.ofNat n, c)

/-- The characters of tag names besides letters; brackets and commas only between angle
brackets. -/
def isTagChar (verbatim : Bool) (x : Char) : Bool :=
  isNameChar x || ";/?:@&=+$.!~*\x27()".toList.contains x ||
    (verbatim && [',', '[', ']'].contains x)

/-- A tag name, its percent escapes resolved. -/
def tagName (verbatim : Bool) : Nat → List Char → Cursor → Option (List Char × Cursor)
  | 0, _, _ => none
  | fuel + 1, acc, c =>
    match c.head? with
    | none => some (acc.reverse, c)
    | some x =>
      if x = '%' then
        match percentChar? c with
        | some (y, c) => tagName verbatim fuel (y :: acc) c
        | none => none
      else if isTagChar verbatim x then tagName verbatim fuel (x :: acc) (c.skip 1)
      else some (acc.reverse, c)

/-- A tag handle: exclamation marks around a possibly empty name, or a single one. -/
def tagHandle (directive : Bool) (c : Cursor) : Option (List Char × Cursor) :=
  if c.isAt '!' then
    let (name, next) := (c.skip 1).takeWhile isNameChar
    if next.isAt '!' then some ('!' :: name ++ ['!'], next.skip 1)
    else if directive && !name.isEmpty then none
    else some ('!' :: name, next)
  else none

/-- Nothing but blanks and a comment follows on the line. -/
def endOfLine? (c : Cursor) : Option Cursor :=
  let (_, c) := c.takeWhile isGap
  let (_, c) := if c.isAt '#' then c.takeWhile (!isBreak ·) else ([], c)
  if c.rest.isEmpty then some c else if c.atBreak then some c.skipBreak else none

/-- A directive: the version of the format or a shorthand for tags. -/
def directive? (c : Cursor) : Option (Token × Cursor) := do
  let (name, c) := (c.skip 1).takeWhile isNameChar
  if !c.endsWord 0 then none
  if name = "YAML".toList then
    let (_, c) := c.takeWhile isGap
    let (major, c) ← number? c
    if !c.isAt '.' then none
    let (minor, c) ← number? (c.skip 1)
    pure (.version major minor, ← endOfLine? c)
  else if name = "TAG".toList then
    let (_, c) := c.takeWhile isGap
    let (handle, c) ← tagHandle true c
    if !c.atGap then none
    let (_, c) := c.takeWhile isGap
    let (text, c) ← tagName true (c.rest.length + 1) [] c
    if text.isEmpty || !c.endsWord 0 then none
    pure (.shorthand (String.ofList handle) (String.ofList text), ← endOfLine? c)
  else none

/-- A directive ends every block. -/
def directive (t : Tokenizer) : Option Tokenizer := do
  let t ← (t.leave (-1)).dropCandidate
  let (token, c) ← directive? t.cursor
  pure (((t.allowKey false).push token).moveTo c)

/-! ## Nodes -/

/-- The name of an anchor or an alias. -/
def nodeName? (c : Cursor) : Option (String × Cursor) :=
  let (name, c) := (c.skip 1).takeWhile isNameChar
  if name.isEmpty || !(c.endsWord 0 || c.aheadIn 0 "?:,]\x7d%@\x60".toList) then none
  else some (String.ofList name, c)

/-- An anchor or an alias. -/
def named (t : Tokenizer) (token : String → Token) : Option Tokenizer := do
  let t ← t.offerKey
  let (name, c) ← nodeName? t.cursor
  pure (((t.allowKey false).push (token name)).moveTo c)

/-- A tag: between angle brackets, behind a handle, or behind a single exclamation mark, which
alone stands for itself. -/
def tag? (c : Cursor) : Option (Token × Cursor) :=
  if c.aheadIn 1 ['<'] then do
    let (text, c) ← tagName true (c.rest.length + 1) [] (c.skip 2)
    if text.isEmpty || !c.isAt '>' then none
    pure (.tag "" (String.ofList text), c.skip 1)
  else do
    let (handle, c) ← tagHandle false c
    if 1 < handle.length && handle.getLast? = some '!' then
      let (text, c) ← tagName false (c.rest.length + 1) [] c
      if text.isEmpty then none
      pure (.tag (String.ofList handle) (String.ofList text), c)
    else
      let (text, c) ← tagName false (c.rest.length + 1) [] c
      let suffix := handle.drop 1 ++ text
      if suffix.isEmpty then pure (.tag "" "!", c)
      else pure (.tag "!" (String.ofList suffix), c)

/-- A tag ends at a blank; between brackets also at a comma. -/
def tag (t : Tokenizer) : Option Tokenizer := do
  let t ← t.offerKey
  let (token, c) ← tag? t.cursor
  if !(c.endsWord 0 || (t.inFlow && c.isAt ',')) then none
  pure (((t.allowKey false).push token).moveTo c)

/-- A block scalar cannot be a key. -/
def blockScalar (t : Tokenizer) (literal : Bool) : Option Tokenizer := do
  let t ← t.dropCandidate
  let (text, c) ← Scalar.block literal t.indent t.cursor
  let style : Style := if literal then .literal else .folded
  pure (((t.allowKey true).push (.scalar style (String.ofList text))).moveTo c)

def quotedScalar (t : Tokenizer) (single : Bool) : Option Tokenizer := do
  let t ← t.offerKey
  let (text, c) ← Scalar.quoted single t.cursor
  let style : Style := if single then .singleQuoted else .doubleQuoted
  pure (((t.allowKey false).push (.scalar style (String.ofList text))).moveTo c)

/-- A plain scalar; a key may follow it if it ended in a line break. -/
def plainScalar (t : Tokenizer) : Option Tokenizer := do
  let t ← t.offerKey
  let (text, broken, c) ← Scalar.plain t.inFlow (t.indent + 1).toNat t.cursor
  pure (((t.allowKey broken).push (.scalar .plain (String.ofList text))).moveTo c)

/-- The characters that cannot start a plain scalar. -/
def indicators : List Char := "-?:,[]\x7b\x7d#&*!|>\x27\x22%@\x60".toList

/-- A plain scalar may start here: not at an indicator, except that a hyphen, and outside of
brackets a question mark or a colon, may start a word. -/
def startsPlain (t : Tokenizer) (x : Char) : Bool :=
  let c := t.cursor
  !(c.endsWord 0 || indicators.contains x) ||
    (x = '-' && !c.aheadIn 1 [' ', '\t']) ||
    (!t.inFlow && (x = '?' || x = ':') && !c.endsWord 1)

/-- The next token, which starts with `x`. -/
def next (t : Tokenizer) (x : Char) : Option Tokenizer :=
  let c := t.cursor
  if c.column = 0 && x = '%' then t.directive
  else if c.atDocumentMark then t.documentMark (if x = '-' then .documentStart else .documentEnd)
  else if x = '[' then t.openBracket .openList
  else if x = '\x7b' then t.openBracket .openMap
  else if x = ']' then t.closeBracket .closeList
  else if x = '\x7d' then t.closeBracket .closeMap
  else if x = ',' then t.comma
  else if x = '-' && c.endsWord 1 then t.dash
  else if x = '?' && (t.inFlow || c.endsWord 1) then t.explicitKey
  else if x = ':' && (t.inFlow || c.endsWord 1) then t.value
  else if x = '*' then t.named .alias
  else if x = '&' then t.named .anchor
  else if x = '!' then t.tag
  else if x = '|' && !t.inFlow then t.blockScalar true
  else if x = '>' && !t.inFlow then t.blockScalar false
  else if x = '\x27' then t.quotedScalar true
  else if x = '\x22' then t.quotedScalar false
  else if t.startsPlain x then t.plainScalar
  else none

/-- All tokens; each takes at least one character. -/
def run : Nat → Tokenizer → Option Tokenizer
  | 0, _ => none
  | fuel + 1, t => do
    let t ← (skipToToken (t.cursor.rest.length + 1) t).dropStale
    let t := t.leave t.cursor.column
    match t.cursor.head? with
    | none => t.finish
    | some x => run fuel (← t.next x)

end Tokenizer

/-- The tokens of a text, if it is made of allowed characters and every token is complete. -/
def Token.ofText? (s : String) : Option (List Token) :=
  if s.toList.all isAllowed then
    (Tokenizer.run (s.length + 1) (.start s)).map fun t => t.pieces.toList.flatten
  else none

end ServiceLinker.Yaml
