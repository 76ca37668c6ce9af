import PageNotes.Report.Basic
import PageNotes.Session.Basic
import PageNotes.Time.Duration

/-!
Trackers: the count of a run while it goes on. Failures are logged as they come, a line after every
so many pages, and a summary at the end, whose level tells whether all, some or no pages were
written.

* `Tracker.enter`, `Tracker.record`, `Tracker.exit`: the begin of a run, one page, its end.
-/

namespace PageNotes

/-- The count of a run. -/
structure Tracker where
  total : Int
  /-- A line is logged after this many pages. -/
  reportEvery : Int := 10
  converted : Nat := 0
  failed : Nat := 0
  warnings : Nat := 0
  /-- The reading of the clock when the run began. -/
  started : Option Binary64 := none
  deriving DecidableEq, Repr

/-- No line can be logged after every zero pages. -/
structure ZeroInterval where
  deriving DecidableEq, Repr

namespace Tracker

/-- The number of pages so far. -/
def processed (t : Tracker) : Nat := t.converted + t.failed

/-- The time since the run began, by a clock. -/
def elapsed (t : Tracker) (clock : Binary64) : Binary64 :=
  match t.started with
  | none => .zero
  | some started => clock.add started.neg

/-- The tracker of a run that begins. -/
def enter (t : Tracker) (clock : Binary64) (s : Session) : Tracker × Session :=
  ({ t with started := some clock },
    s.log .info mainChannel s!"Converting {t.total} document(s)")

/-- The level of the summary. -/
def summaryLevel (t : Tracker) : Level :=
  if t.failed = 0 then .info else if t.converted = 0 then .error else .warning

/-- The summary after a length of time. -/
def summary (t : Tracker) (time : Text) : String :=
  s!"Batch finished in {String.ofList time}: {t.converted} converted, {t.failed} failed, " ++
    s!"{t.warnings} warning(s)"

/-- The end of a run that has begun. -/
def exit (t : Tracker) (clock : Binary64) (s : Session) : Except DurationError Unit × Session :=
  if t.started.isNone then (.ok (), s)
  else
    match (Seconds.floating (t.elapsed clock)).display with
    | .error e => (.error e, s)
    | .ok time => (.ok (), s.log t.summaryLevel mainChannel (t.summary time))

/-- The count with one more page. -/
def count (t : Tracker) (o : Outcome) : Tracker :=
  let t := if o.succeeded then { t with converted := t.converted + 1 }
    else { t with failed := t.failed + 1 }
  { t with warnings := t.warnings + o.warnings.length }

/-- The message about a page that was not written. -/
def failureEntries (o : Outcome) : List LogEntry :=
  if o.succeeded then [] else [⟨.info, mainChannel, s!"{o.source}: {o.status.label}"⟩]

/-- The line that is due after the pages so far. -/
def progressEntries (t : Tracker) : List LogEntry :=
  if (t.processed : Int) % t.reportEvery = 0 then
    [⟨.info, mainChannel, s!"Processed {t.processed}/{t.total} document(s)"⟩]
  else []

/-- One more page. It counts even if no line can be due. -/
def record (t : Tracker) (o : Outcome) (s : Session) :
    Except ZeroInterval Unit × Tracker × Session :=
  let t := t.count o
  let s := s.writeAll (failureEntries o)
  if t.reportEvery = 0 then (.error {}, t, s) else (.ok (), t, s.writeAll t.progressEntries)

end Tracker

end PageNotes
