import ServiceLinker.Yaml.Token.Stream
import ServiceLinker.Yaml.Node.Basic

/-!
# From tokens to nodes

A text is accepted if it holds at most one document. Nodes are read together with the number of
aliases that a reader of them passes, counted with repetition; documents in which that number is
out of proportion to the size of the text are refused.
-/

namespace ServiceLinker.Yaml

/-- A node and how many aliases a reader of it passes. -/
structure Weighted where
  node : Node
  aliases : Nat

/-- An anchored node; nothing while it is still being read. -/
structure Anchored where
  name : String
  number : Nat
  node : Option Weighted

/-- What is left of the tokens, and what is known about the document so far. -/
structure Composer where
  tokens : List Token
  /-- The shorthands of tags: handle and replacement. -/
  shorthands : List (String × String)
  /-- The anchored nodes, the latest first. -/
  anchors : List Anchored
  /-- How many scalars, aliases and ends of collections were read. -/
  parts : Nat

namespace Composer

/-- The shorthands that need no directive. -/
def defaultShorthands : List (String × String) := [("!", "!"), ("!!", "tag:yaml.org,2002:")]

/-- Without the next token. -/
def drop (s : Composer) : Composer := { s with tokens := s.tokens.tail }

/-- Counts one more part. -/
def count (s : Composer) (n : Nat) : Composer := { s with parts := s.parts + n }

/-- Registers an anchor. -/
def begin (s : Composer) (anchor : Option String) : Nat × Composer :=
  match anchor with
  | some name =>
    (s.anchors.length, { s with anchors := ⟨name, s.anchors.length, none⟩ :: s.anchors })
  | none => (s.anchors.length, s)

def complete (s : Composer) (anchor : Option String) (number : Nat) (w : Weighted) :
    Weighted × Composer :=
  match anchor with
  | some _ =>
    (w, { s with anchors := s.anchors.map fun a =>
      if a.number = number then { a with node := some w } else a })
  | none => (w, s)

def resolveAlias (s : Composer) (name : String) : Option (Weighted × Composer) :=
  (s.anchors.find? (·.name = name)).map fun a =>
    match a.node with
    | some w => (⟨w.node, w.aliases + 1⟩, s.drop.count 1)
    | none => (⟨.cycle, 1⟩, s.drop.count 1)

/-- The anchor and the tag before a node, in either order. -/
def properties (s : Composer) : Option String × Option (String × String) × Composer :=
  match s.tokens with
  | .anchor a :: .tag h t :: rest => (some a, some (h, t), { s with tokens := rest })
  | .tag h t :: .anchor a :: rest => (some a, some (h, t), { s with tokens := rest })
  | .anchor a :: rest => (some a, none, { s with tokens := rest })
  | .tag h t :: rest => (none, some (h, t), { s with tokens := rest })
  | _ => (none, none, s)

/-- The full name of a tag; a handle must have been declared. -/
def tagName? (s : Composer) : Option (String × String) → Option (Option String)
  | none => some none
  | some ("", suffix) => some (some suffix)
  | some (handle, suffix) => (s.shorthands.lookup handle).map fun text => some (text ++ suffix)

/-- A node without text. -/
def absent (s : Composer) : Weighted × Composer := (⟨.absent, 0⟩, s.count 1)

/-- The next token ends the value of an entry of a block mapping, or there is none. -/
def endsBlockEntry : List Token → Bool
  | .key :: _ | .value :: _ | .blockEnd :: _ => true
  | _ => false

/-- The total weight of items. -/
def aliasSum (ws : List Weighted) : Nat := ws.foldl (fun n w => n + w.aliases) 0

/-- The total weight of entries. -/
def entrySum (es : List (Weighted × Weighted)) : Nat :=
  es.foldl (fun n e => n + (e.1.aliases + e.2.aliases)) 0

/-- The list of weighted items. -/
def listOf (tag : Option String) (ws : List Weighted) : Weighted :=
  ⟨.list tag (ws.map (·.node)), aliasSum ws⟩

def mapOf (tag : Option String) (es : List (Weighted × Weighted)) : Weighted :=
  ⟨.map tag (es.map fun e => (e.1.node, e.2.node)), entrySum es⟩

mutual

/-- A node. Block collections are allowed only outside of brackets, and a list at the indentation
of its key only as a part of an entry. -/
def node : Nat → Bool → Bool → Composer → Option (Weighted × Composer)
  | 0, _, _, _ => none
  | fuel + 1, inBlock, inEntry, s =>
    match s.tokens with
    | .alias name :: _ => s.resolveAlias name
    | _ => do
      let (anchor, written, s) := s.properties
      let tag ← s.tagName? written
      let (number, s) := s.begin anchor
      match s.tokens with
      | .scalar style text :: rest =>
        let tag := if tag = some "!" then none else tag
        let s := { s with tokens := rest }.count 1
        pure (s.complete anchor number ⟨.scalar tag style text, 0⟩)
      | .openList :: rest =>
        let (ws, s) ← flowItems fuel true { s with tokens := rest }
        pure ((s.count 2).complete anchor number (listOf tag ws))
      | .openMap :: rest =>
        let (es, s) ← flowEntries fuel true { s with tokens := rest }
        pure ((s.count 2).complete anchor number (mapOf tag es))
      | .dash :: _ =>
        if inEntry then
          let (ws, s) ← siblingItems fuel s
          pure ((s.count 2).complete anchor number (listOf tag ws))
        else emptyNode anchor tag number s
      | .blockList :: rest =>
        if inBlock then
          let (ws, s) ← blockItems fuel { s with tokens := rest }
          pure ((s.count 2).complete anchor number (listOf tag ws))
        else emptyNode anchor tag number s
      | .blockMap :: rest =>
        if inBlock then
          let (es, s) ← blockEntries fuel { s with tokens := rest }
          pure ((s.count 2).complete anchor number (mapOf tag es))
        else emptyNode anchor tag number s
      | _ => emptyNode anchor tag number s

/-- A node of which only an anchor or a tag is written. -/
def emptyNode (anchor tag : Option String) (number : Nat) (s : Composer) :
    Option (Weighted × Composer) :=
  if anchor.isSome || tag.isSome then
    some ((s.count 1).complete anchor number ⟨.scalar tag .plain "", 0⟩)
  else none

/-- The items of a block list up to the end of its block. -/
def blockItems : Nat → Composer → Option (List Weighted × Composer)
  | 0, _ => none
  | fuel + 1, s =>
    match s.tokens with
    | .dash :: rest => do
      let s := { s with tokens := rest }
      let (w, s) ← match rest with
        | .dash :: _ | .blockEnd :: _ => some s.absent
        | _ => node fuel true false s
      let (ws, s) ← blockItems fuel s
      pure (w :: ws, s)
    | .blockEnd :: rest => some ([], { s with tokens := rest })
    | _ => none

/-- The items of a list that stands at the indentation of its key. -/
def siblingItems : Nat → Composer → Option (List Weighted × Composer)
  | 0, _ => none
  | fuel + 1, s =>
    match s.tokens with
    | .dash :: rest => do
      let s := { s with tokens := rest }
      let (w, s) ← match rest with
        | .dash :: _ | .key :: _ | .value :: _ | .blockEnd :: _ => some s.absent
        | _ => node fuel true false s
      let (ws, s) ← siblingItems fuel s
      pure (w :: ws, s)
    | _ => some ([], s)

/-- The entries of a block mapping up to the end of its block. -/
def blockEntries : Nat → Composer → Option (List (Weighted × Weighted) × Composer)
  | 0, _ => none
  | fuel + 1, s =>
    match s.tokens with
    | .key :: rest => do
      let s := { s with tokens := rest }
      let (k, s) ← if endsBlockEntry rest then some s.absent else node fuel true true s
      let (v, s) ← match s.tokens with
        | .value :: rest =>
          let s := { s with tokens := rest }
          if endsBlockEntry rest then some s.absent else node fuel true true s
        | _ => some s.absent
      let (es, s) ← blockEntries fuel s
      pure ((k, v) :: es, s)
    | .blockEnd :: rest => some ([], { s with tokens := rest })
    | _ => none

/-- The items between brackets. A single entry may stand for a mapping of one entry. -/
def flowItems : Nat → Bool → Composer → Option (List Weighted × Composer)
  | 0, _, _ => none
  | fuel + 1, first, s =>
    match s.tokens with
    | .closeList :: rest => some ([], { s with tokens := rest })
    | tokens => do
      let s ← match first, tokens with
        | true, _ => some s
        | false, .comma :: rest => some { s with tokens := rest }
        | false, _ => none
      match s.tokens with
      | .closeList :: rest => pure ([], { s with tokens := rest })
      | .key :: rest =>
        let (e, s) ← singleEntry fuel { s with tokens := rest }
        let (ws, s) ← flowItems fuel false (s.count 2)
        pure (mapOf none [e] :: ws, s)
      | _ =>
        let (w, s) ← node fuel false false s
        let (ws, s) ← flowItems fuel false s
        pure (w :: ws, s)

/-- An entry between the brackets of a list, after its key mark. Without a key, the token that
follows is passed over. -/
def singleEntry : Nat → Composer → Option ((Weighted × Weighted) × Composer)
  | 0, _ => none
  | fuel + 1, s => do
    let (k, s) ← match s.tokens with
      | .value :: rest | .comma :: rest | .closeList :: rest =>
        some { s with tokens := rest }.absent
      | _ => node fuel false false s
    let (v, s) ← match s.tokens with
      | .value :: rest =>
        let s := { s with tokens := rest }
        match rest with
        | .comma :: _ | .closeList :: _ => some s.absent
        | _ => node fuel false false s
      | _ => some s.absent
    pure ((k, v), s)

/-- The entries between braces. A key without a colon has an absent value. -/
def flowEntries : Nat → Bool → Composer → Option (List (Weighted × Weighted) × Composer)
  | 0, _, _ => none
  | fuel + 1, first, s =>
    match s.tokens with
    | .closeMap :: rest => some ([], { s with tokens := rest })
    | tokens => do
      let s ← match first, tokens with
        | true, _ => some s
        | false, .comma :: rest => some { s with tokens := rest }
        | false, _ => none
      match s.tokens with
      | .closeMap :: rest => pure ([], { s with tokens := rest })
      | .key :: rest =>
        let s := { s with tokens := rest }
        let (k, s) ← match rest with
          | .value :: _ | .comma :: _ | .closeMap :: _ => some s.absent
          | _ => node fuel false false s
        let (v, s) ← match s.tokens with
          | .value :: rest =>
            let s := { s with tokens := rest }
            match rest with
            | .comma :: _ | .closeMap :: _ => some s.absent
            | _ => node fuel false false s
          | _ => some s.absent
        let (es, s) ← flowEntries fuel false s
        pure ((k, v) :: es, s)
      | _ =>
        let (k, s) ← node fuel false false s
        let (v, s) := s.absent
        let (es, s) ← flowEntries fuel false s
        pure ((k, v) :: es, s)

end

/-! ## Documents -/

/-- The directives before a document: at most one version, which must be 1.1 or 1.2, and at most
one replacement of each handle. -/
def directives : Bool → List (String × String) → List Token →
    Option (List (String × String) × List Token)
  | versioned, shorthands, .version major minor :: rest =>
    if !versioned && major = 1 && (minor = 1 || minor = 2) then directives true shorthands rest
    else none
  | versioned, shorthands, .shorthand handle text :: rest =>
    if (shorthands.lookup handle).isSome then none
    else directives versioned ((handle, text) :: shorthands) rest
  | _, shorthands, tokens => some (shorthands, tokens)

/-- A document starts with directives. -/
def startsDirective : List Token → Bool
  | .version .. :: _ | .shorthand .. :: _ => true
  | _ => false

/-- The first document mark, behind directives or not, and the shorthands in force. -/
def heading (tokens : List Token) : Option (Bool × List (String × String) × List Token) :=
  match tokens with
  | .documentStart :: rest => some (true, defaultShorthands, rest)
  | _ =>
    if startsDirective tokens then do
      let (shorthands, rest) ← directives false [] tokens
      match rest with
      | .documentStart :: rest => pure (true, shorthands ++ defaultShorthands, rest)
      | _ => none
    else some (false, defaultShorthands, tokens)

/-- The root of an explicit document may be absent. -/
def absentRoot : List Token → Bool
  | [] => true
  | .version .. :: _ | .shorthand .. :: _ | .documentStart :: _ | .documentEnd :: _ => true
  | _ => false

/-- How many aliases a document may repeat for each of its parts. -/
def aliasLimit : Nat := 100

end Composer

open Composer in
/-- The single document of a text. -/
def Document.ofTokens? (tokens : List Token) : Option Document :=
  match tokens with
  | [] => some .blank
  | _ => do
    let (isExplicit, shorthands, rest) ← heading tokens
    let s : Composer := ⟨rest, shorthands, [], 0⟩
    let (w, s) ← if isExplicit && absentRoot rest then some s.absent
      else node (4 * tokens.length + 4) true false s
    let rest := s.tokens.dropWhile (· = .documentEnd)
    if rest.isEmpty && w.aliases ≤ aliasLimit * s.parts then pure (.root w.node) else none

/-- The single document of a text. -/
def Document.ofText? (s : String) : Option Document := (Token.ofText? s).bind ofTokens?

end ServiceLinker.Yaml
