/-!
# What can go wrong while linking

Only an unreadable root and an invalid configuration end a run; every other cause becomes a
diagnostic of the report. Each cause has one wording.
-/

namespace ServiceLinker

/-- A cause of failure. -/
inductive LinkError where
  /-- The root directory could not be listed. -/
  | rootUnreadable (path reason : String)
  /-- A single file could not be read. -/
  | fileUnreadable (path reason : String)
  /-- A descriptor names no service. -/
  | descriptorAttributeMissing (path : String)
  /-- No file declares the class of the service. -/
  | implementationNotFound (service : String)
  /-- No file declares the contract of the service. -/
  | interfaceNotFound (service : String)
  /-- Several files satisfy a search that must have one result. -/
  | ambiguousMatch (name kind : String) (candidates : List String)
  /-- A configuration value is not usable, or the configuration file cannot be read. -/
  | config (problem : String)
  deriving DecidableEq, Repr

/-- The kinds of causes, as reports name them. -/
inductive ErrorKind where
  | rootUnreadable
  | fileUnreadable
  | descriptorAttributeMissing
  | implementationNotFound
  | interfaceNotFound
  | ambiguousMatch
  | config
  deriving DecidableEq, Repr

namespace LinkError

/-- The kind of a cause. -/
def kind : LinkError → ErrorKind
  | .rootUnreadable .. => .rootUnreadable
  | .fileUnreadable .. => .fileUnreadable
  | .descriptorAttributeMissing .. => .descriptorAttributeMissing
  | .implementationNotFound .. => .implementationNotFound
  | .interfaceNotFound .. => .interfaceNotFound
  | .ambiguousMatch .. => .ambiguousMatch
  | .config .. => .config

/-- The wording of a cause. -/
def message : LinkError → String
  | .rootUnreadable path reason => "cannot walk root " ++ path ++ ": " ++ reason
  | .fileUnreadable path reason => "cannot read " ++ path ++ ": " ++ reason
  | .descriptorAttributeMissing path => "no service attribute in " ++ path
  | .implementationNotFound service => "implementation not found for " ++ service
  | .interfaceNotFound service => "interface not found for " ++ service
  | .ambiguousMatch name kind candidates =>
    "ambiguous " ++ kind ++ " match for " ++ name ++ ": " ++ ", ".intercalate candidates
  | .config problem => "invalid configuration: " ++ problem

end LinkError

namespace ErrorKind

def tag : ErrorKind → String
  | .rootUnreadable => "root_unreadable"
  | .fileUnreadable => "file_unreadable"
  | .descriptorAttributeMissing => "descriptor_attribute_missing"
  | .implementationNotFound => "implementation_not_found"
  | .interfaceNotFound => "interface_not_found"
  | .ambiguousMatch => "ambiguous_match"
  | .config => "config"

/-- The kind with a given tag. -/
def ofTag? : String → Option ErrorKind
  | "root_unreadable" => some .rootUnreadable
  | "file_unreadable" => some .fileUnreadable
  | "descriptor_attribute_missing" => some .descriptorAttributeMissing
  | "implementation_not_found" => some .implementationNotFound
  | "interface_not_found" => some .interfaceNotFound
  | "ambiguous_match" => some .ambiguousMatch
  | "config" => some .config
  | _ => none

@[simp] theorem ofTag?_tag (k : ErrorKind) : ofTag? k.tag = some k := by
  cases k <;> rfl

end ErrorKind

end ServiceLinker
