import ServiceLinker.Text.Blank
import ServiceLinker.Text.Quoted
import ServiceLinker.Text.Search
import ServiceLinker.Log

/-!
# Patterns of source texts

The four things the linker recognises in a text: the attribute of a descriptor that names a
service, the header of a class or an interface of a given name, and the first base interface that
a class header lists. Names are taken literally. A search for an oversized name fails with a
warning.
-/

namespace ServiceLinker.Pattern

open Text (isBlank after? leftmost?)

/-! ## The service attribute -/

/-- What a service attribute starts with. -/
def attributeOpening : List Char := "Service=\x22".toList

/-- The attribute that starts right here, if its value is closed and not empty. -/
def attributeHere? (cs : List Char) : Option (List Char) :=
  match after? attributeOpening cs with
  | some rest =>
    let value := rest.takeWhile (· ≠ '\x22')
    if value.isEmpty || value.length = rest.length then none else some value
  | none => none

/-- The value of the first service attribute of a text. -/
def serviceAttribute? (text : String) : Option String :=
  (leftmost? attributeHere? text.toList).map String.ofList

/-! ## Declaration headers -/

/-- What can be declared. -/
inductive Kind where
  | classKind
  | interfaceKind
  deriving DecidableEq, Repr

namespace Kind

/-- The keyword of a declaration. -/
def keyword : Kind → String
  | .classKind => "class"
  | .interfaceKind => "interface"

/-- The mark that may follow the name without a blank. -/
def mark : Kind → Char
  | .classKind => ':'
  | .interfaceKind => '\x7b'

end Kind

/-- The first result behind some of the blanks that a text starts with. -/
def afterBlanks? (f : List Char → Option α) : List Char → Option α
  | [] => f []
  | c :: cs =>
    match f (c :: cs) with
    | some a => some a
    | none => if isBlank c then afterBlanks? f cs else none

/-- The first result behind at least one blank. -/
def afterSomeBlanks? (f : List Char → Option α) : List Char → Option α
  | c :: cs => if isBlank c then afterBlanks? f cs else none
  | [] => none

/-- A blank or the mark of the kind follows the name. -/
def headerEnds (kind : Kind) (name : List Char) (cs : List Char) : Option Unit :=
  match after? name cs with
  | some (c :: _) => if isBlank c || c = kind.mark then some () else none
  | _ => none

/-- A header starts right here: the keyword, blanks, the name, and a blank or the mark. -/
def headerHere? (kind : Kind) (name : List Char) (cs : List Char) : Option Unit :=
  (after? kind.keyword.toList cs).bind (afterSomeBlanks? (headerEnds kind name))

/-- The text holds a header that declares the name. -/
def declares (kind : Kind) (name text : String) : Bool :=
  (leftmost? (headerHere? kind name.toList) text.toList).isSome

/-! ## Base interfaces -/

/-- The characters of a base name behind its first. -/
def isNameChar (c : Char) : Bool := c.isAlphanum || c = '_'

/-- The longest name of an interface that starts right here: a capital I and at least one more
character. -/
def baseName? : List Char → Option (List Char)
  | 'I' :: cs =>
    let rest := cs.takeWhile isNameChar
    if rest.isEmpty then none else some ('I' :: rest)
  | _ => none

/-- A colon and a base name, with blanks around the colon. -/
def baseHere? (cs : List Char) : Option (List Char) :=
  afterBlanks? (fun cs => (after? [':'] cs).bind (afterBlanks? baseName?)) cs

/-- A class header with a base interface that starts right here. -/
def inheritanceHere? (name : List Char) (cs : List Char) : Option (List Char) :=
  (after? Kind.classKind.keyword.toList cs).bind
    (afterSomeBlanks? fun cs => (after? name cs).bind baseHere?)

/-- The base interface of the leftmost class header for the name that lists one first. -/
def inheritedInterface? (name text : String) : Option String :=
  (leftmost? (inheritanceHere? name.toList) text.toList).map String.ofList

/-! ## Oversized names -/

/-- Names of at least this many bytes cannot be searched for. A pattern that is too large is refused,
and how large a pattern becomes depends on its kind and on the characters of the name as well. One
number for all of them is an approximation. -/
def nameLimit : Nat := 327000

/-- A name that can be searched for. -/
def searchable (name : String) : Bool := name.utf8ByteSize < nameLimit

/-- The characters that the description of a pattern marks as literal. -/
def isOperator (c : Char) : Bool := "\\.+*?()|[]\x7b\x7d^$#&-~".toList.contains c

/-- A name in the description of a pattern. -/
def literal (name : String) : String :=
  String.ofList (name.toList.flatMap fun c => if isOperator c then ['\\', c] else [c])

/-- The warning about a pattern that is too large to search for. -/
def oversized (pattern : String) : String :=
  "Cannot compile pattern " ++ Text.quote pattern ++
    ": Compiled regex exceeds size limit of 10485760 bytes."

/-- How a message describes the header of a declaration. -/
def headerDescription (kind : Kind) (name : String) : String :=
  match kind with
  | .classKind => "class\\s+" ++ literal name ++ "(\\s|:)"
  | .interfaceKind => "interface\\s+" ++ literal name ++ "(\\s|\\\x7b)"

/-- How a message describes a class header with a base interface. -/
def inheritanceDescription (name : String) : String :=
  "class\\s+" ++ literal name ++ "\\s*:\\s*(I[A-Za-z0-9_]+)"

/-- The test for a header, unless the name is oversized. -/
def header? (kind : Kind) (name : String) : Logged (Option (String → Bool)) :=
  if searchable name then pure (some (declares kind name))
  else do
    Logged.note .warn (oversized (headerDescription kind name))
    pure none

theorem value_header? (kind : Kind) (name : String) :
    (header? kind name).value = if searchable name then some (declares kind name) else none := by
  unfold header?
  split <;> rfl

/-- The base interface, unless the name is oversized. -/
def inherited? (name text : String) : Logged (Option String) :=
  if searchable name then pure (inheritedInterface? name text)
  else do
    Logged.note .warn (oversized (inheritanceDescription name))
    pure none

theorem value_inherited? (name text : String) :
    (inherited? name text).value =
      if searchable name then inheritedInterface? name text else none := by
  unfold inherited?
  split <;> rfl

end ServiceLinker.Pattern
