/-
  Reports: what an inspection found, for programs and for people.

  JSON and YAML carry the same document, with its keys in ascending order; the summary for terminals
  leaves the bindings out.  All of them tell which intervals the host will refuse.
-/

import RouteIndex.Generation
import RouteIndex.Yaml.Printer

namespace RouteIndex.Report

/-- The forms of a report. -/
inductive Format where
  | json
  | yaml
  | human
  deriving DecidableEq, Repr

/-- The name of a form on the command line. -/
def Format.name : Format → String
  | .json => "json"
  | .yaml => "yaml"
  | .human => "human"

/-- The form of a name. -/
def Format.ofName? (s : String) : Option Format :=
  [.json, .yaml, .human].find? (·.name = s)

/-! ## The document -/

/-- One function in the document. -/
def functionJson (r : FunctionRecord) : Json :=
  .object [("index", .nat r.callSite), ("metadata", r.toJson),
    ("invalidIntervals", .texts r.retry.invalidIntervals)]

/-- The document of an inspection. -/
def document (i : Generation.Inspection) : Json :=
  .object [("callSites", .nat i.candidates), ("nodesVisited", .nat i.nodesVisited),
    ("functions", .arr (i.records.map functionJson)),
    ("diagnostics", .arr (i.diagnostics.map Diagnostic.toJson))]

/-- The document as JSON. -/
def json (i : Generation.Inspection) : String :=
  (document i).sorted.pretty

/-- The document as YAML. -/
def yaml (i : Generation.Inspection) : String :=
  Yaml.text (document i).sorted

/-! ## The summary -/

/-- The line under the title. -/
def rule : String :=
  String.ofList (List.replicate 30 '━')

/-- What is said about the retries of a function. -/
def retrySummary (p : RetryPolicy) : String :=
  if p.isNone then "none"
  else if p.invalidIntervals.isEmpty then p.describe
  else p.describe ++ " (unparseable: " ++ ", ".intercalate p.invalidIntervals ++ ")"

/-- The lines of one function. -/
def functionSummary (r : FunctionRecord) : List String :=
  [Provider.functionVariable r.callSite ++ "  " ++ ",".intercalate r.methods ++ " " ++
      r.name.getD "(non-literal route)",
    "├─ Script: " ++ r.scriptFile,
    "└─ Retry:  " ++ retrySummary r.retry]

/-- The lines of the diagnostics, if there are any. -/
def diagnosticSummary (ds : List Diagnostic) : List String :=
  if ds.isEmpty then [] else ["", "⚠ Diagnostics:"] ++ ds.map fun d => "  - " ++ d.line

/-- The lines of the summary. -/
def summary (i : Generation.Inspection) : List String :=
  ["Function Metadata Scan", rule, "",
    "Call sites: " ++ Provider.number i.candidates ++ " (" ++ Provider.number i.nodesVisited ++
      " nodes visited)",
    "Functions:  " ++ Provider.number i.records.length, ""] ++
  i.records.flatMap functionSummary ++ diagnosticSummary i.diagnostics

/-- The summary as a text: each line is ended by a line feed. -/
def human (i : Generation.Inspection) : String :=
  String.ofList ((summary i).flatMap fun line => line.toList ++ ['\n'])

/-- The report in a form. -/
def render (format : Format) (i : Generation.Inspection) : String :=
  match format with
  | .json => json i
  | .yaml => yaml i
  | .human => human i

end RouteIndex.Report
