import LineSieve.Report.Document
import LineSieve.Report.Summary

/-!
# Reports

A report shows the results of a batch with the time that each file took, either as a document or as
lines for a terminal, and ends with the totals of the batch.
-/

namespace LineSieve

/-- A result with the time that processing took. -/
structure TimedResult where
  result : FileResult
  nanoseconds : Nat
  deriving Repr, DecidableEq

/-- The time in milliseconds.  Whole seconds and the rest are turned into numbers on their own, added,
and multiplied by a thousand. -/
def TimedResult.milliseconds (r : TimedResult) : Binary64 :=
  let second := 1000000000
  let seconds := Binary64.ofNat (r.nanoseconds / second)
  let rest := (Binary64.ofNat (r.nanoseconds % second)).div (.ofNat second)
  (seconds.add rest).mul (.ofNat 1000)

namespace Report

/-- The totals of the results of a report. -/
def summary (results : List TimedResult) : Summary := .ofResults (results.map (·.result))

/-! ### The document -/

def countsDocument (counts : ActionCounts) : Document :=
  .object [("delete", .integer counts.delete), ("keep", .integer counts.keep),
    ("modify", .integer counts.modify)]

def optionalText (text : Option String) : Document :=
  match text with
  | some text => .text text
  | none => .null

def fileDocument (r : TimedResult) : Document :=
  .object [
    ("duration_ms", .real r.milliseconds),
    ("error", optionalText (r.result.error.map FileError.message)),
    ("line_counts", countsDocument r.result.counts),
    ("new_line_count", .integer r.result.linesOut),
    ("original_line_count", .integer r.result.linesIn),
    ("original_path", .text r.result.sourcePath.toString),
    ("output_path", optionalText (r.result.outputPath.map Path.toString)),
    ("success", .bool r.result.success)]

def summaryDocument (s : Summary) : Document :=
  .object [("deleted", .integer s.deleted), ("failed", .integer s.failed),
    ("files", .integer s.files), ("lines_in", .integer s.linesIn),
    ("lines_out", .integer s.linesOut), ("modified", .integer s.modified)]

/-- The report as a document. -/
def document (results : List TimedResult) : Document :=
  .object [("files", .array (results.map fileDocument)),
    ("summary", summaryDocument (summary results))]

/-- The text of the document, with a final newline. -/
def json (results : List TimedResult) : String := (document results).render ++ "\n"

/-! ### Lines for a terminal -/

def bold : String := "\x1b[1m"

def red : String := "\x1b[31m"

def green : String := "\x1b[32m"

def gray : String := "\x1b[90m"

def plain : String := "\x1b[0m"

/-- The part of a line that names the destination, if it is not the source itself. -/
def destinationText (r : FileResult) : String :=
  match r.outputPath with
  | some output =>
    if output.same r.sourcePath then "" else " " ++ gray ++ "->" ++ plain ++ " " ++ output.toString
  | none => ""

/-- The line of a file. -/
def fileLine (r : TimedResult) : String :=
  let counts := r.result.counts
  match r.result.error with
  | none =>
    green ++ "✓" ++ plain ++ " " ++ r.result.sourcePath.toString ++ destinationText r.result ++
      "  " ++ gray ++ toString r.result.linesIn ++ " -> " ++ toString r.result.linesOut ++
      " lines (" ++ toString counts.delete ++ " deleted, " ++ toString counts.modify ++
      " modified) " ++ String.ofList r.milliseconds.tenths ++ "ms" ++ plain ++ "\n"
  | some e =>
    red ++ "✗" ++ plain ++ " " ++ r.result.sourcePath.toString ++ "  " ++ red ++ e.message ++
      plain ++ "\n"

/-- The line of the totals. -/
def summaryLine (s : Summary) : String :=
  bold ++ toString s.files ++ " file" ++ (if s.files = 1 then "" else "s") ++
    (if s.failed = 0 then ""
      else ", " ++ red ++ toString s.failed ++ " failed" ++ plain ++ bold) ++
    " (" ++ toString s.linesIn ++ " -> " ++ toString s.linesOut ++ " lines, " ++
    toString s.deleted ++ " deleted, " ++ toString s.modified ++ " modified)" ++ plain ++ "\n"

/-- The report for a terminal: a line for every file, an empty line and the totals. -/
def pretty (results : List TimedResult) : String :=
  String.join (results.map fileLine) ++ "\n" ++ summaryLine (summary results)

end Report

end LineSieve
