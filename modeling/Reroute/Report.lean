/-
  Reroute.Report — what a run reports.

  A report is built up from the events of a run: files that were gone through, files that were
  passed over and directories that could not be listed.  Rows stand in the order of their paths, and
  rows of one path in the order of the events.
-/
import Reroute.Discovery
import Reroute.Json
import Reroute.Substitution
import Reroute.Style

namespace Reroute

namespace Report

/-! ## §1. Rows and events -/

/-- A file with the rules that had matches in it. -/
structure FileRow where
  path : String
  changes : List Change
  /-- Does, or would, the content of the file change? -/
  modified : Bool
deriving DecidableEq, Repr

/-- A file that could not be read or written. -/
structure SkippedRow where
  path : String
  reason : String
deriving DecidableEq, Repr

/-- What happens in a run. -/
inductive Event where
  /-- A file was read and gone through. -/
  | file (row : FileRow)
  /-- A file could not be read or written. -/
  | skipped (row : SkippedRow)
  /-- Directories could not be listed. -/
  | issues (issues : List Discovery.Issue)
deriving DecidableEq, Repr

/-- The row of a file that was gone through. -/
def Event.file? : Event → Option FileRow
  | file row => some row
  | _ => none

/-- The row of a file that was passed over. -/
def Event.skipped? : Event → Option SkippedRow
  | skipped row => some row
  | _ => none

/-- The directories that could not be listed. -/
def Event.issuesOf : Event → List Discovery.Issue
  | issues found => found
  | _ => []

/-- What a run is about. -/
structure Header where
  root : String
  registry : String
  ruleCount : Nat
  dryRun : Bool
deriving DecidableEq, Repr

end Report

/-! ## §2. Reports -/

/-- The report of a run.  The files are counted one by one, so their numbers stay far below the
    largest word; the changes are added up from numbers of any size (see `wordSize`). -/
structure Report where
  header : Report.Header
  filesScanned : Nat
  filesModified : Nat
  filesSkipped : Nat
  totalChanges : Nat
  /-- The files in which some rule had a match, by path. -/
  perFile : List Report.FileRow
  skipped : List Report.SkippedRow
  discoveryIssues : List Discovery.Issue
deriving DecidableEq, Repr

namespace Report

/-- The number of words of 64 bits, which the total of the changes is one of. -/
def wordSize : Nat := 18446744073709551616

/-- The number of matches in a file. -/
def FileRow.matchCount (row : FileRow) : Nat :=
  (row.changes.map (·.count)).foldr (· + ·) 0

/-- The rows by the order of their paths; rows of one path stay in order. -/
def sortByPath {α : Type} (path : α → String) (rows : List α) : List α :=
  rows.mergeSort fun a b => decide (path a ≤ path b)

/-! ## §3. Recording -/

/-- The report of a run in which nothing has happened yet. -/
def blank (header : Header) : Report :=
  { header, filesScanned := 0, filesModified := 0, filesSkipped := 0, totalChanges := 0,
    perFile := [], skipped := [], discoveryIssues := [] }

/-- The report with one more file that was gone through.  Every such file counts; it has a row only
    if some rule had a match in it.  The total starts again at zero beyond the largest word. -/
def recordFile (report : Report) (row : FileRow) : Report :=
  let counted := { report with
    filesScanned := report.filesScanned + 1
    filesModified := if row.modified then report.filesModified + 1 else report.filesModified }
  if row.changes.isEmpty then counted
  else { counted with
    totalChanges := (counted.totalChanges + row.matchCount) % wordSize
    perFile := counted.perFile ++ [row] }

/-- The report with one more file that was passed over. -/
def recordSkipped (report : Report) (row : SkippedRow) : Report :=
  { report with
    filesScanned := report.filesScanned + 1
    filesSkipped := report.filesSkipped + 1
    skipped := report.skipped ++ [row] }

/-- The report with one more event. -/
def record (report : Report) : Event → Report
  | .file row => report.recordFile row
  | .skipped row => report.recordSkipped row
  | .issues found => { report with discoveryIssues := report.discoveryIssues ++ found }

/-- The report with its rows in order. -/
def finish (report : Report) : Report :=
  { report with
    perFile := sortByPath (·.path) report.perFile
    skipped := sortByPath (·.path) report.skipped }

/-- The report that a run builds up, event by event. -/
def recorded (header : Header) (events : List Event) : Report :=
  (events.foldl record (blank header)).finish

/-- Did, or would, the run change a file? -/
def anyModified (report : Report) : Bool :=
  0 < report.filesModified

/-! ## §4. As JSON -/

/-- A change as JSON. -/
def changeJson (change : Change) : Json :=
  .obj [("ruleDescription", .str change.description), ("occurrenceCount", .nat change.count)]

/-- A row of a file as JSON. -/
def FileRow.toJson (row : FileRow) : Json :=
  .obj [("path", .str row.path), ("changes", .arr (row.changes.map changeJson)),
    ("modified", .bool row.modified)]

/-- A path with a reason as JSON. -/
def reasonJson (path reason : String) : Json :=
  .obj [("path", .str path), ("reason", .str reason)]

/-- The report as JSON. -/
def toJson (report : Report) : Json :=
  .obj [("root", .str report.header.root), ("registry", .str report.header.registry),
    ("ruleCount", .nat report.header.ruleCount), ("dryRun", .bool report.header.dryRun),
    ("filesScanned", .nat report.filesScanned), ("filesModified", .nat report.filesModified),
    ("filesSkipped", .nat report.filesSkipped), ("totalChanges", .nat report.totalChanges),
    ("perFile", .arr (report.perFile.map (·.toJson))),
    ("skipped", .arr (report.skipped.map fun row => reasonJson row.path row.reason)),
    ("discoveryIssues",
      .arr (report.discoveryIssues.map fun issue => reasonJson issue.path issue.reason))]

/-! ## §5. As text -/

/-- The line between the parts of a report. -/
def ruler : String := String.ofList (List.replicate 80 '-')

/-- The lines on what the run is about. -/
def headerLines (colors : Bool) (report : Report) : List String :=
  let header := report.header
  [Style.magentaBold.apply colors "importshift: import migration",
    "Mode: " ++ (if header.dryRun then "dry run" else "apply"),
    "Directory: " ++ header.root,
    "Rules: " ++ header.registry ++ " (" ++ Nat.repr header.ruleCount ++ " rule(s))",
    ruler,
    "Files found: " ++ Nat.repr report.filesScanned]

/-- The line on a directory that could not be listed. -/
def issueLine (colors : Bool) (issue : Discovery.Issue) : String :=
  Style.yellow.apply colors ("unreadable directory " ++ issue.path ++ ": " ++ issue.reason)

/-- The line on a change. -/
def changeLine (change : Change) : String :=
  "  - " ++ change.description ++ ": " ++ Nat.repr change.count ++ " occurrence(s)"

/-- The lines on a file. -/
def fileLines (colors dryRun : Bool) (row : FileRow) : List String :=
  let label :=
    if !row.modified then "Matched (unchanged)"
    else if dryRun then "Would modify"
    else "Modified"
  ["", Style.blue.apply colors (label ++ ": " ++ row.path)] ++ row.changes.map changeLine

/-- The lines on the files that were passed over. -/
def skippedLines (colors : Bool) (rows : List SkippedRow) : List String :=
  if rows.isEmpty then []
  else "" :: rows.map fun row =>
    Style.yellow.apply colors (row.path ++ ": skipped: " ++ row.reason)

/-- The lines that sum up the run. -/
def summaryLines (colors : Bool) (report : Report) : List String :=
  let skipped :=
    if 0 < report.filesSkipped then ["Files skipped: " ++ Nat.repr report.filesSkipped] else []
  let hint :=
    if !report.anyModified then [Style.dim.apply colors "Nothing to change."]
    else if report.header.dryRun then
      ["", Style.yellow.apply colors "To apply these changes, run again without --dry-run"]
    else []
  ["", ruler, Style.greenBold.apply colors "Summary:",
    "Files scanned: " ++ Nat.repr report.filesScanned,
    "Files modified: " ++ Nat.repr report.filesModified] ++
  skipped ++ ["Total changes: " ++ Nat.repr report.totalChanges] ++ hint

/-- The lines of a report. -/
def lines (colors : Bool) (report : Report) : List String :=
  report.headerLines colors ++ report.discoveryIssues.map (issueLine colors) ++
    report.perFile.flatMap (fileLines colors report.header.dryRun) ++
    skippedLines colors report.skipped ++ report.summaryLines colors

/-- The report as a text. -/
def render (colors : Bool) (report : Report) : String :=
  "".intercalate ((report.lines colors).map (· ++ "\n"))

end Report

end Reroute
