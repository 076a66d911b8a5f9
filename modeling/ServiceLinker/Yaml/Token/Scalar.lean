import ServiceLinker.Yaml.Cursor
import ServiceLinker.Yaml.Token.Basic

/-!
# Scalars of YAML

Plain, quoted and block scalars. Inside a scalar a single line break stands for a space and
further breaks stand for themselves, except in literal blocks, where every break counts.
-/

namespace ServiceLinker.Yaml

/-- What separates two words of a scalar: spaces within a line, or the first break and the
further breaks. -/
structure Gap where
  /-- A break was crossed. -/
  broken : Bool
  spaces : List Char
  first : List Char
  further : List Char

namespace Gap

/-- A gap before which no break was crossed, or one that an escaped break opened. -/
def empty (broken : Bool) : Gap := ⟨broken, [], [], []⟩

/-- The text that a gap contributes: a single line feed becomes a space. -/
def text (g : Gap) : List Char :=
  if g.broken then
    if g.first = ['\n'] then if g.further.isEmpty then [' '] else g.further
    else g.first ++ g.further
  else g.spaces

/-- Takes the spaces, tabs and breaks that follow. After a break, a tab left of `limit` is
refused. -/
def scan (limit : Nat) : Nat → Gap → Cursor → Option (Gap × Cursor)
  | 0, _, _ => none
  | fuel + 1, g, c =>
    match c.head? with
    | none => some (g, c)
    | some x =>
      if isGap x then
        if g.broken then
          if x = '\t' && c.column < limit then none else scan limit fuel g (c.skip 1)
        else scan limit fuel { g with spaces := g.spaces ++ [x] } (c.skip 1)
      else if isBreak x then
        if g.broken then
          scan limit fuel { g with further := g.further ++ c.breakText } c.skipBreak
        else scan limit fuel ⟨true, [], c.breakText, []⟩ c.skipBreak
      else some (g, c)

end Gap

namespace Scalar

/-! ## Plain scalars -/

/-- Where a word of a plain scalar ends: before a colon that ends a word and, between brackets,
before a bracket or a comma. A colon before a bracket is refused there. -/
def plainWord (inFlow : Bool) : Nat → List Char → Cursor → Option (List Char × Cursor)
  | 0, _, _ => none
  | fuel + 1, acc, c =>
    match c.head? with
    | none => some (acc.reverse, c)
    | some x =>
      if isGap x || isBreak x then some (acc.reverse, c)
      else if inFlow && x = ':' && c.aheadIn 1 [',', '?', '[', ']', '\x7b', '\x7d'] then none
      else if x = ':' && c.endsWord 1 then some (acc.reverse, c)
      else if inFlow && [',', '[', ']', '\x7b', '\x7d'].contains x then some (acc.reverse, c)
      else plainWord inFlow fuel (x :: acc) (c.skip 1)

/-- The words of a plain scalar, continued on lines indented to at least `limit` unless brackets
are open. Also tells whether the scalar ended in a line break. -/
def plainWords (inFlow : Bool) (limit : Nat) :
    Nat → List Char → Gap → Cursor → Option (List Char × Bool × Cursor)
  | 0, _, _, _ => none
  | fuel + 1, acc, g, c =>
    if c.atDocumentMark || c.isAt '#' then some (acc, g.broken, c)
    else do
      let (word, next) ← plainWord inFlow (c.rest.length + 1) [] c
      let acc := if word.isEmpty then acc else acc ++ g.text ++ word
      let broken := if word.isEmpty then g.broken else false
      if !(next.atGap || next.atBreak) then pure (acc, broken, next)
      else
        let (g, next) ← Gap.scan limit (next.rest.length + 1) (.empty false) next
        if !inFlow && next.column < limit then pure (acc, g.broken, next)
        else plainWords inFlow limit fuel acc g next

/-- A plain scalar; also tells whether it ended in a line break. -/
def plain (inFlow : Bool) (limit : Nat) (c : Cursor) : Option (List Char × Bool × Cursor) :=
  plainWords inFlow limit (c.rest.length + 1) [] (.empty false) c

/-! ## Quoted scalars -/

/-- The character that a one-letter escape names. -/
def escape? (x : Char) : Option Char :=
  match x with
  | '0' => some '\x00'
  | 'a' => some '\x07'
  | 'b' => some '\x08'
  | 't' => some '\t'
  | '\t' => some '\t'
  | 'n' => some '\n'
  | 'v' => some '\x0b'
  | 'f' => some '\x0c'
  | 'r' => some '\r'
  | 'e' => some '\x1b'
  | ' ' => some ' '
  | '\x22' => some '\x22'
  | '/' => some '/'
  | '\\' => some '\\'
  | 'N' => some '\x85'
  | '_' => some '\xa0'
  | 'L' => some '\u2028'
  | 'P' => some '\u2029'
  | _ => none

/-- How many hexadecimal digits follow a numeric escape. -/
def escapeWidth? (x : Char) : Option Nat :=
  match x with
  | 'x' => some 2
  | 'u' => some 4
  | 'U' => some 8
  | _ => none

/-- The value of a hexadecimal digit. -/
def hexValue? (c : Char) : Option Nat :=
  if '0' ≤ c ∧ c ≤ '9' then some (c.toNat - 48)
  else if 'a' ≤ c ∧ c ≤ 'f' then some (c.toNat - 87)
  else if 'A' ≤ c ∧ c ≤ 'F' then some (c.toNat - 55)
  else none

/-- The character with the given hexadecimal code point. -/
def codePoint? (digits : List Char) : Option Char := do
  let n ← digits.foldlM (fun n d => (hexValue? d).map (16 * n + ·)) 0
  if (0xd800 ≤ n ∧ n ≤ 0xdfff) ∨ 0x10ffff < n then none else pure (Char.ofNat n)

/-- The characters of a quoted word, up to a space, a break or the closing quote. Also tells
whether an escaped line break ended it. -/
def quotedWord (single : Bool) : Nat → List Char → Cursor → Option (List Char × Bool × Cursor)
  | 0, _, _ => none
  | fuel + 1, acc, c =>
    match c.head? with
    | none => some (acc.reverse, false, c)
    | some x =>
      if isGap x || isBreak x then some (acc.reverse, false, c)
      else if single then
        if x = '\x27' then
          if c.ahead? 1 = some '\x27' then quotedWord single fuel (x :: acc) (c.skip 2)
          else some (acc.reverse, false, c)
        else quotedWord single fuel (x :: acc) (c.skip 1)
      else if x = '\x22' then some (acc.reverse, false, c)
      else if x = '\\' then
        match c.ahead? 1 with
        | none => none
        | some y =>
          if isBreak y then some (acc.reverse, true, (c.skip 1).skipBreak)
          else
            match escapeWidth? y with
            | some n =>
              let digits := (c.skip 2).rest.take n
              if digits.length = n then
                match codePoint? digits with
                | some z => quotedWord single fuel (z :: acc) (c.skip (2 + n))
                | none => none
              else none
            | none =>
              match escape? y with
              | some z => quotedWord single fuel (z :: acc) (c.skip 2)
              | none => none
      else quotedWord single fuel (x :: acc) (c.skip 1)

/-- The words of a quoted scalar up to its closing quote. -/
def quotedWords (single : Bool) : Nat → List Char → Cursor → Option (List Char × Cursor)
  | 0, _, _ => none
  | fuel + 1, acc, c =>
    if c.atDocumentMark || c.rest.isEmpty then none
    else do
      let (word, escaped, next) ← quotedWord single (c.rest.length + 1) [] c
      if next.isAt (if single then '\x27' else '\x22') then pure (acc ++ word, next.skip 1)
      else
        let (g, next) ← Gap.scan 0 (next.rest.length + 1) (.empty escaped) next
        quotedWords single fuel (acc ++ word ++ g.text) next

/-- A quoted scalar at its opening quote. -/
def quoted (single : Bool) (c : Cursor) : Option (List Char × Cursor) :=
  quotedWords single (c.rest.length + 1) [] (c.skip 1)

/-! ## Block scalars -/

/-- What happens to the breaks at the end of a block scalar. -/
inductive Chomping where
  | strip
  | clip
  | keep
  deriving DecidableEq

/-- The chomping that a sign asks for. -/
def chomping? (x : Char) : Option Chomping :=
  if x = '-' then some .strip else if x = '+' then some .keep else none

/-- An indentation digit if one follows; zero is refused. -/
def increment? (c : Cursor) : Option (Nat × Cursor) :=
  match c.head? with
  | some x =>
    if x.isDigit then if x = '0' then none else some (x.toNat - '0'.toNat, c.skip 1)
    else some (0, c)
  | none => some (0, c)

/-- A chomping sign if one follows. -/
def chomping (c : Cursor) : Option Chomping × Cursor :=
  match c.head?.bind chomping? with
  | some m => (some m, c.skip 1)
  | none => (none, c)

/-- The chomping and the indentation digit of a block scalar, in either order; no digit is
zero. -/
def blockHeader (c : Cursor) : Option (Chomping × Nat × Cursor) := do
  match chomping c with
  | (some m, c) =>
    let (n, c) ← increment? c
    pure (m, n, c)
  | (none, c) =>
    let (n, c) ← increment? c
    if n = 0 then pure (.clip, 0, c)
    else
      let (m, c) := chomping c
      pure (m.getD .clip, n, c)

/-- The empty lines before the next line of a block scalar, whose indentation is `indent`, or is
not known yet if that is zero. Returns the breaks and the widest indentation seen. -/
def blockBreaks (indent : Nat) :
    Nat → List Char → Nat → Cursor → Option (List Char × Nat × Cursor)
  | 0, _, _, _ => none
  | fuel + 1, breaks, widest, c =>
    let spaces := (c.rest.takeWhile (· = ' ')).length
    let c := c.skip (if indent = 0 then spaces else min spaces (indent - c.column))
    let widest := max widest c.column
    if (indent = 0 || c.column < indent) && c.isAt '\t' then none
    else if c.atBreak then blockBreaks indent fuel (breaks ++ c.breakText) widest c.skipBreak
    else some (breaks, widest, c)

/-- The lines of a block scalar. The last break and the breaks before the current line are still
to be joined. -/
def blockLines (literal : Bool) (indent : Nat) :
    Nat → List Char → List Char → List Char → Bool → Cursor →
      Option (List Char × List Char × List Char × Cursor)
  | 0, _, _, _, _, _ => none
  | fuel + 1, text, last, breaks, afterGap, c =>
    if c.column = indent && !c.rest.isEmpty then do
      let gap := c.atGap
      let text :=
        if !literal && last = ['\n'] && !afterGap && !gap then
          text ++ (if breaks.isEmpty then [' '] else breaks)
        else text ++ last ++ breaks
      let (line, c) := c.takeWhile (!isBreak ·)
      let last := c.breakText
      let c := if c.atBreak then c.skipBreak else c
      let (breaks, _, c) ← blockBreaks indent (c.rest.length + 1) [] 0 c
      blockLines literal indent fuel (text ++ line) last breaks gap c
    else some (text, last, breaks, c)

/-- A block scalar at its mark, inside a block of the given indentation. -/
def block (literal : Bool) (parent : Int) (c : Cursor) : Option (List Char × Cursor) := do
  let (mode, digit, c) ← blockHeader (c.skip 1)
  let (_, c) := c.takeWhile isGap
  let (_, c) := if c.isAt '#' then c.takeWhile (!isBreak ·) else ([], c)
  if !(c.rest.isEmpty || c.atBreak) then none
  let c := if c.atBreak then c.skipBreak else c
  let known : Nat := if digit = 0 then 0 else if 0 ≤ parent then parent.toNat + digit else digit
  let (breaks, widest, c) ← blockBreaks known (c.rest.length + 1) [] 0 c
  let indent := if known = 0 then max (max widest (parent + 1).toNat) 1 else known
  let (text, last, breaks, c) ←
    blockLines literal indent (c.rest.length + 2) [] [] breaks false c
  match mode with
  | .strip => pure (text, c)
  | .clip => pure (text ++ last, c)
  | .keep => pure (text ++ last ++ breaks, c)

end Scalar

end ServiceLinker.Yaml
