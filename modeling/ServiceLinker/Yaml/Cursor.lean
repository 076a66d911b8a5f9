/-!
# Positions in a YAML text

The rest of the text together with the place it starts at. Columns decide about structure in
YAML, so every step keeps count.
-/

namespace ServiceLinker.Yaml

/-- The characters that may stand in a YAML text. -/
def isAllowed (c : Char) : Bool :=
  let n := c.toNat
  n == 9 || n == 10 || n == 13 || (0x20 ≤ n && n ≤ 0x7e) || n == 0x85 ||
    (0xa0 ≤ n && n ≤ 0xfffd) || 0x10000 ≤ n

/-- The characters that end a line. -/
def isBreak (c : Char) : Bool :=
  let n := c.toNat
  n == 10 || n == 13 || n == 0x85 || n == 0x2028 || n == 0x2029

/-- A space or a tab. -/
def isGap (c : Char) : Bool := c = ' ' || c = '\t'

/-- The mark that may open a line without counting as content. -/
def byteOrderMark : Char := '\ufeff'

/-- The letters of names: ASCII letters and digits, hyphen and underscore. -/
def isNameChar (c : Char) : Bool := c.isAlphanum || c = '-' || c = '_'

/-- The rest of a text and where it starts. -/
structure Cursor where
  rest : List Char
  index : Nat
  line : Nat
  column : Nat

namespace Cursor

/-- The start of a text. -/
def start (s : String) : Cursor := ⟨s.toList, 0, 0, 0⟩

/-- The next character. -/
def head? (c : Cursor) : Option Char := c.rest.head?

/-- The character `n` places ahead. -/
def ahead? (c : Cursor) (n : Nat) : Option Char := (c.rest.drop n).head?

/-- The next character is `x`. -/
def isAt (c : Cursor) (x : Char) : Bool := c.head? = some x

/-- A character `n` places ahead is one of the given ones. -/
def aheadIn (c : Cursor) (n : Nat) (xs : List Char) : Bool :=
  match c.ahead? n with
  | some x => xs.contains x
  | none => false

/-- The text ends `n` places ahead, or a space, a tab or a line break stands there. -/
def endsWord (c : Cursor) (n : Nat) : Bool :=
  match c.ahead? n with
  | some x => isGap x || isBreak x
  | none => true

/-- The next character ends a line. -/
def atBreak (c : Cursor) : Bool :=
  match c.head? with
  | some x => isBreak x
  | none => false

/-- The next character is a space or a tab. -/
def atGap (c : Cursor) : Bool :=
  match c.head? with
  | some x => isGap x
  | none => false

/-- Past `n` characters of the current line. -/
def skip (c : Cursor) (n : Nat) : Cursor :=
  { c with rest := c.rest.drop n, index := c.index + n, column := c.column + n }

/-- The longest run of characters of a class that contains no line break, and the place after
it. -/
def takeWhile (c : Cursor) (p : Char → Bool) : List Char × Cursor :=
  let run := c.rest.takeWhile p
  (run, c.skip run.length)

/-- Past a line break; a carriage return with a line feed is one break. -/
def skipBreak (c : Cursor) : Cursor :=
  match c.rest with
  | '\r' :: '\n' :: cs => ⟨cs, c.index + 2, c.line + 1, 0⟩
  | _ :: cs => ⟨cs, c.index + 1, c.line + 1, 0⟩
  | [] => c

/-- What a line break contributes to a text: a line feed, except that the line and paragraph
separators stay themselves. -/
def breakText (c : Cursor) : List Char :=
  match c.head? with
  | some x => if x = '\u2028' || x = '\u2029' then [x] else if isBreak x then ['\n'] else []
  | none => []

/-- A line that starts with three hyphens or three points marks the start or the end of a
document. -/
def atDocumentMark (c : Cursor) : Bool :=
  c.column == 0 && c.endsWord 3 &&
    (c.rest.take 3 == ['-', '-', '-'] || c.rest.take 3 == ['.', '.', '.'])

end Cursor

end ServiceLinker.Yaml
