import PageNotes.Reference.Rewrite
import PageNotes.Value.Json

/-!
Reports: what became of each page of a run.

* `Outcome`: what became of one page;
* `Report`: the outcomes of a run, with their counts;
* `Report.sorted`: the outcomes in the order of their pages, whatever order they came in;
* `Report.value`: the report as a value, for files and displays.

`succeeded_add_failed` says that every page has succeeded or failed.
-/

namespace PageNotes

/-- How the work on a page ended. -/
inductive Status where
  | success
  | readFailed
  | conversionFailed
  | writeFailed
  deriving DecidableEq, Repr

/-- The name of a status in reports. -/
def Status.label : Status → String
  | .success => "success"
  | .readFailed => "read_failed"
  | .conversionFailed => "conversion_failed"
  | .writeFailed => "write_failed"

/-- What became of a page. -/
structure Outcome where
  source : Path
  status : Status
  output : Option Path := none
  assetsCopied : Int := 0
  warnings : List Warning := []
  error : Option Text := none
  deriving DecidableEq, Repr

/-- Whether a page was written. -/
def Outcome.succeeded (o : Outcome) : Bool := o.status = .success

/-- A warning as a value. -/
def Warning.value (w : Warning) : Value := .record [
  ("kind", .text w.kind.label.toList),
  ("message", .text w.message.toList),
  ("path", .textOrNull w.path)]

/-- An outcome as a value. -/
def Outcome.value (o : Outcome) : Value := .record [
  ("source_path", .text o.source.toText),
  ("status", .text o.status.label.toList),
  ("output_path", .textOrNull (o.output.map Path.toText)),
  ("assets_copied", .int o.assetsCopied),
  ("warnings", .list (o.warnings.map Warning.value)),
  ("error", .textOrNull o.error)]

/-- The outcomes of a run. -/
structure Report where
  outcomes : List Outcome
  deriving DecidableEq, Repr

namespace Report

/-- The report on nothing. -/
def empty : Report := ⟨[]⟩

/-- The report with one more outcome. -/
def add (r : Report) (o : Outcome) : Report := ⟨r.outcomes ++ [o]⟩

/-- The order of outcomes: that of the texts of their paths. -/
def outcomeLe (a b : Outcome) : Bool := Text.le a.source.toText b.source.toText

/-- The outcomes in the order of their pages; those of one page stay in order. -/
def sorted (r : Report) : Report := ⟨r.outcomes.mergeSort outcomeLe⟩

/-- The number of pages. -/
def total (r : Report) : Nat := r.outcomes.length

/-- The number of pages that were written. -/
def succeeded (r : Report) : Nat := (r.outcomes.filter Outcome.succeeded).length

/-- The number of pages that were not written. -/
def failed (r : Report) : Nat := r.total - r.succeeded

/-- The number of warnings. -/
def warningCount (r : Report) : Nat := (r.outcomes.flatMap fun o => o.warnings).length

/-- Every page has succeeded or failed. -/
theorem succeeded_add_failed (r : Report) : r.succeeded + r.failed = r.total := by
  have : r.succeeded ≤ r.total := List.length_filter_le _ _
  unfold failed
  omega

/-- The report as a value. -/
def value (r : Report) : Value := .record [
  ("summary", .record [
    ("total", .int r.total),
    ("succeeded", .int r.succeeded),
    ("failed", .int r.failed),
    ("warnings", .int r.warningCount)]),
  ("documents", .list (r.outcomes.map Outcome.value))]

end Report

end PageNotes
