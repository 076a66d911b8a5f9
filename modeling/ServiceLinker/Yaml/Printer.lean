import ServiceLinker.Text.Digits
import ServiceLinker.Json.Printer
import ServiceLinker.Yaml.Cursor
import ServiceLinker.Yaml.Resolution
import ServiceLinker.Yaml.Token.Basic

/-!
# Writing YAML

Values in block style with an indentation of two. A text is written in the first of the forms
literal, plain, single-quoted and double-quoted that keeps it: literal if it has a line feed,
plain if nothing in it could be taken for structure or for another kind of value.
-/

namespace ServiceLinker.Yaml

/-- The characters that stand for themselves outside of double quotes. -/
def isPrintable (c : Char) : Bool :=
  let n := c.toNat
  n == 10 || (0x20 ≤ n && n ≤ 0x7e) || (0xa0 ≤ n && n ≤ 0xfffd && n != 0xfeff) || 0x10000 ≤ n

/-- Two neighbouring characters of which the first satisfies `p` and the second `q`. -/
def hasPair (p q : Char → Bool) : List Char → Bool
  | a :: b :: cs => (p a && q b) || hasPair p q (b :: cs)
  | _ => false

/-- The blank of the line. -/
def isSpace (c : Char) : Bool := c = ' '

/-- The text is over, or a blank or a break follows. -/
def endsWord : List Char → Bool
  | [] => true
  | c :: _ => isGap c || isBreak c

/-- A character behind the first that could be taken for structure: a colon that ends a word or a
number sign that starts one. -/
def marksInside : Bool → List Char → Bool
  | _, [] => false
  | afterWord, c :: cs =>
    (c = ':' && endsWord cs) || (c = '#' && afterWord) || marksInside (isGap c || isBreak c) cs

/-- The characters that never start a plain text. -/
def openers : List Char := "#,[]\x7b\x7d&*!|>\x27\x22%@\x60".toList

/-- A start that could be taken for structure: three hyphens or points, an indicator, or a mark
that ends a word. -/
def marksStart (cs : List Char) : Bool :=
  cs.take 3 == ['-', '-', '-'] || cs.take 3 == ['.', '.', '.'] ||
    match cs with
    | [] => false
    | c :: rest => openers.contains c || ((c = '?' || c = ':' || c = '-') && endsWord rest)

/-- Something in the text could be taken for structure. -/
def hasMarks (cs : List Char) : Bool :=
  marksStart cs || match cs with
    | [] => false
    | c :: rest => marksInside (isGap c || isBreak c) rest

/-- Every form but the double-quoted one would lose something: a character that is not shown as
itself, or a space before a break. -/
def mustEscape (cs : List Char) : Bool :=
  cs.any (!isPrintable ·) || hasPair isSpace isBreak cs

/-- The text can stand between single quotes. -/
def singleQuotable (cs : List Char) : Bool := !mustEscape cs && !hasPair isBreak isSpace cs

/-- The text can stand as a literal block. -/
def literalAllowed (cs : List Char) : Bool := !mustEscape cs && !cs.getLast?.any isSpace

/-- The text can stand without quotes. -/
def plainAllowed (cs : List Char) : Bool :=
  singleQuotable cs && !cs.any isBreak && !cs.head?.any isSpace && !cs.getLast?.any isSpace &&
    !hasMarks cs

/-- The form in which a text is written. -/
def styleOf (s : String) : Style :=
  let cs := s.toList
  if cs.contains '\n' then if literalAllowed cs then .literal else .doubleQuoted
  else if !Resolved.needsQuotes s && plainAllowed cs then .plain
  else if singleQuotable cs then .singleQuoted
  else .doubleQuoted

def spaces (n : Nat) : List Char := List.replicate n ' '

/-- The text with an indentation before the first character of every line that has one. -/
def indentLines (n : Nat) : Bool → List Char → List Char
  | _, [] => []
  | fresh, c :: cs =>
    if isBreak c then c :: indentLines n true cs
    else (if fresh then spaces n else []) ++ c :: indentLines n false cs

/-- The header of a literal block: an indentation digit if the text starts with a space or a
break, and a sign unless the text ends in exactly one break. -/
def literalHeader (cs : List Char) : List Char :=
  let digit := if cs.head?.any fun c => isSpace c || isBreak c then ['2'] else []
  let sign :=
    match cs.reverse with
    | [] => ['-']
    | a :: rest =>
      if !isBreak a then ['-']
      else match rest with
        | [] => ['+']
        | b :: _ => if isBreak b then ['+'] else []
  '|' :: digit ++ sign

/-- Upper-case hexadecimal digits, padded to a width. -/
def hexPadded (width n : Nat) : List Char :=
  Text.padZeros width ((Nat.toDigits 16 n).map Char.toUpper)

/-- A character between double quotes. -/
def escapeChar (c : Char) : List Char :=
  match c with
  | '\x00' => ['\\', '0']
  | '\x07' => ['\\', 'a']
  | '\x08' => ['\\', 'b']
  | '\t' => ['\\', 't']
  | '\n' => ['\\', 'n']
  | '\x0b' => ['\\', 'v']
  | '\x0c' => ['\\', 'f']
  | '\r' => ['\\', 'r']
  | '\x1b' => ['\\', 'e']
  | '\x22' => ['\\', c]
  | '\\' => ['\\', c]
  | '\x85' => ['\\', 'N']
  | '\u2028' => ['\\', 'L']
  | '\u2029' => ['\\', 'P']
  | _ =>
    let n := c.toNat
    if isPrintable c then [c]
    else if n ≤ 0xff then '\\' :: 'x' :: hexPadded 2 n
    else if n ≤ 0xffff then '\\' :: 'u' :: hexPadded 4 n
    else '\\' :: 'U' :: hexPadded 8 n

/-- A text whose continuation lines are indented by `n`. -/
def printText (n : Nat) (s : String) : List Char :=
  let cs := s.toList
  match styleOf s with
  | .plain => cs
  | .singleQuoted =>
    let body := cs.flatMap fun c => if c = '\x27' then [c, c] else [c]
    let close := if cs.getLast?.any isBreak then spaces n else []
    '\x27' :: (indentLines n false body ++ close ++ ['\x27'])
  | .literal | .folded => literalHeader cs ++ '\n' :: indentLines n true cs
  | .doubleQuoted => '\x22' :: (cs.flatMap escapeChar ++ ['\x22'])

/-- A key fits on the line of its value. -/
def isSimpleKey (key : String) : Bool := key.utf8ByteSize ≤ 128 && !key.toList.any isBreak

/-- The text with its line ended. -/
def endLine (cs : List Char) : List Char :=
  if cs.getLast?.any isBreak then cs else cs ++ ['\n']

/-- A value without parts whose continuation lines are indented by `n`. -/
def printLeaf (n : Nat) : Json → List Char
  | .null => "null".toList
  | .bool true => "true".toList
  | .bool false => "false".toList
  | .number x => Json.printNumber x
  | .text s => printText n s
  | .list _ => ['[', ']']
  | .object _ => ['\x7b', '\x7d']

/-- An entry of a mapping indented by `n`, given the text behind its colon. A key that does not
fit on the line of its value stands behind a question mark. -/
def entryText (n : Nat) (key : String) (behind : List Char) : List Char :=
  if isSimpleKey key then spaces n ++ endLine (printText (n + 2) key ++ ':' :: behind)
  else
    spaces n ++ endLine ('?' :: ' ' :: printText (n + 2) key) ++
      spaces n ++ endLine (':' :: behind)

mutual

/-- A value behind a mark that stands at the indentation `n`: behind the colon of a key on the
same line, where a collection starts on the next line and a list is not indented further, or
behind another mark, where the first part of a collection stays on the line. -/
def printBehind (afterKey : Bool) (n : Nat) : Json → List Char
  | .list items =>
    if items.isEmpty then ' ' :: printLeaf n (.list [])
    else if afterKey then '\n' :: printItems n items
    else ' ' :: (printItems (n + 2) items).drop (n + 2)
  | .object fields =>
    if fields.isEmpty then ' ' :: printLeaf n (.object [])
    else if afterKey then '\n' :: printEntries (n + 2) fields
    else ' ' :: (printEntries (n + 2) fields).drop (n + 2)
  | .null => ' ' :: printLeaf (n + 2) .null
  | .bool b => ' ' :: printLeaf (n + 2) (.bool b)
  | .number x => ' ' :: printLeaf (n + 2) (.number x)
  | .text s => ' ' :: printLeaf (n + 2) (.text s)

/-- The items of a list indented by `n`. -/
def printItems (n : Nat) : List Json → List Char
  | [] => []
  | item :: items =>
    spaces n ++ endLine ('-' :: printBehind false n item) ++ printItems n items

/-- The entries of a mapping indented by `n`. -/
def printEntries (n : Nat) : List (String × Json) → List Char
  | [] => []
  | (key, value) :: fields =>
    entryText n key (printBehind (isSimpleKey key) n value) ++ printEntries n fields

end

/-- The document of a value. -/
def print (v : Json) : String :=
  String.ofList <| match v with
    | .list (item :: items) => printItems 0 (item :: items)
    | .object (field :: fields) => printEntries 0 (field :: fields)
    | v => endLine (printLeaf 2 v)

end ServiceLinker.Yaml
