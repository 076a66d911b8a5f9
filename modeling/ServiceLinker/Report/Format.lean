import ServiceLinker.Json.Printer
import ServiceLinker.Report.Document
import ServiceLinker.Report.Text
import ServiceLinker.Yaml.Printer

/-!
# Formats of reports

A report is shown as text for people, as indented JSON, or as YAML.
-/

namespace ServiceLinker

inductive ReportFormat where
  | text
  | json
  | yaml
  deriving DecidableEq, Repr

namespace ReportFormat

/-- The name of a format. -/
def tag : ReportFormat → String
  | .text => "text"
  | .json => "json"
  | .yaml => "yaml"

/-- The format with a given name. -/
def ofTag? : String → Option ReportFormat
  | "text" => some .text
  | "json" => some .json
  | "yaml" => some .yaml
  | _ => none

@[simp] theorem ofTag?_tag (f : ReportFormat) : ofTag? f.tag = some f := by
  cases f <;> rfl

end ReportFormat

def LinkReport.render (r : LinkReport) : ReportFormat → String
  | .text => r.toText
  | .json => r.toJson.pretty
  | .yaml => Yaml.print r.toJson

end ServiceLinker
