import ServiceLinker.Yaml.Token.Basic

/-!
# Nodes of YAML

The tree of a YAML document. An alias is replaced by the node it names, except inside that very
node.
-/

namespace ServiceLinker.Yaml

inductive Node where
  | scalar (tag : Option String) (style : Style) (text : String)
  | list (tag : Option String) (items : List Node)
  | map (tag : Option String) (entries : List (Node × Node))
  /-- An alias of a collection that it stands in. -/
  | cycle

namespace Node

/-- The tags of the resolutions that a document can ask for. -/
def coreTag (name : String) : String := "tag:yaml.org,2002:" ++ name

/-- A node of which nothing is written. -/
def absent : Node := .scalar none .plain ""

/-- A plain scalar without text. -/
def isEmptyPlain : Node → Bool
  | .scalar _ .plain text => text.isEmpty
  | _ => false

end Node

/-- The outcome of reading a text that holds one document or none. -/
inductive Document where
  /-- The text holds no document. -/
  | blank
  | root (node : Node)

end ServiceLinker.Yaml
