import PageNotes.CommandLine.Arguments
import PageNotes.CommandLine.Option
import PageNotes.CommandLine.Program
import PageNotes.Disk.Basic
import PageNotes.Disk.Operations
import PageNotes.Export.Exporter
import PageNotes.Export.Store
import PageNotes.Html.Builder
import PageNotes.Html.CharacterReference
import PageNotes.Html.Nesting
import PageNotes.Html.ReferenceTable
import PageNotes.Html.Token
import PageNotes.Html.Tree
import PageNotes.Log.Layout
import PageNotes.Log.Level
import PageNotes.Main
import PageNotes.Markdown.Anchor
import PageNotes.Markdown.Block
import PageNotes.Markdown.Cleanup
import PageNotes.Markdown.CodeBlock
import PageNotes.Markdown.Escape
import PageNotes.Markdown.Fill
import PageNotes.Markdown.Footnote
import PageNotes.Markdown.Inline
import PageNotes.Markdown.Options
import PageNotes.Markdown.Render
import PageNotes.Markdown.Rule
import PageNotes.Markdown.Spacing
import PageNotes.Markdown.Structure
import PageNotes.Markdown.Surroundings
import PageNotes.Markdown.Table
import PageNotes.Note.Caption
import PageNotes.Note.Content
import PageNotes.Note.Conversion
import PageNotes.Note.FrontMatter
import PageNotes.Note.Hashtag
import PageNotes.Note.Metadata
import PageNotes.Numeric.Binary64
import PageNotes.Numeric.NumberText
import PageNotes.Numeric.Reading
import PageNotes.Path.Basic
import PageNotes.Proofs.Batch.Basic
import PageNotes.Proofs.Batch.Count
import PageNotes.Proofs.Batch.Escapes
import PageNotes.Proofs.Batch.Links
import PageNotes.Proofs.Batch.Order
import PageNotes.Proofs.Batch.Outputs
import PageNotes.Proofs.Batch.Rerun
import PageNotes.Proofs.Batch.Trace
import PageNotes.Proofs.CommandLine.ExitCode
import PageNotes.Proofs.CommandLine.Selection
import PageNotes.Proofs.Disk.Alike
import PageNotes.Proofs.Disk.Changes
import PageNotes.Proofs.Disk.Directories
import PageNotes.Proofs.Disk.Null
import PageNotes.Proofs.Disk.Walk
import PageNotes.Proofs.Export.Again
import PageNotes.Proofs.Export.Assets
import PageNotes.Proofs.Export.Containment
import PageNotes.Proofs.Export.Discovery
import PageNotes.Proofs.Export.Effects
import PageNotes.Proofs.Export.Escapes
import PageNotes.Proofs.Export.Footprint
import PageNotes.Proofs.Export.Growth
import PageNotes.Proofs.Export.Log
import PageNotes.Proofs.Export.Near
import PageNotes.Proofs.Export.Outcome
import PageNotes.Proofs.Export.Outputs
import PageNotes.Proofs.Export.Overwriting
import PageNotes.Proofs.Export.Pages
import PageNotes.Proofs.Html.Beside
import PageNotes.Proofs.Html.CharacterReferences
import PageNotes.Proofs.Html.StartTags
import PageNotes.Proofs.Html.Traversal
import PageNotes.Proofs.Markdown.Anchored
import PageNotes.Proofs.Markdown.BackReferences
import PageNotes.Proofs.Markdown.BlankRuns
import PageNotes.Proofs.Markdown.Carried
import PageNotes.Proofs.Markdown.CodeBlocks
import PageNotes.Proofs.Markdown.CodeText
import PageNotes.Proofs.Markdown.Fences
import PageNotes.Proofs.Markdown.Insertion
import PageNotes.Proofs.Markdown.Marks
import PageNotes.Proofs.Markdown.NoteReferences
import PageNotes.Proofs.Markdown.OnLines
import PageNotes.Proofs.Markdown.Pictures
import PageNotes.Proofs.Markdown.Places
import PageNotes.Proofs.Markdown.Precedence
import PageNotes.Proofs.Markdown.RawTags
import PageNotes.Proofs.Markdown.Sturdy
import PageNotes.Proofs.Markdown.Targets
import PageNotes.Proofs.Markdown.Totality
import PageNotes.Proofs.Note.Captions
import PageNotes.Proofs.Note.Conversion
import PageNotes.Proofs.Note.Fields
import PageNotes.Proofs.Note.FrontMatter
import PageNotes.Proofs.Note.HeaderFields
import PageNotes.Proofs.Note.LeadImage
import PageNotes.Proofs.Note.Removal
import PageNotes.Proofs.Note.SortingTag
import PageNotes.Proofs.Numeric.Exact
import PageNotes.Proofs.Path.Names
import PageNotes.Proofs.Reference.Candidates
import PageNotes.Proofs.Reference.Encoded
import PageNotes.Proofs.Reference.FileName
import PageNotes.Proofs.Reference.Missing
import PageNotes.Proofs.Reference.PageLink
import PageNotes.Proofs.Reference.Remote
import PageNotes.Proofs.Reference.Roles
import PageNotes.Proofs.Reference.Search
import PageNotes.Proofs.Report.Progress
import PageNotes.Proofs.Report.Sorted
import PageNotes.Proofs.Session.Growth
import PageNotes.Proofs.Session.Logging
import PageNotes.Proofs.Session.View
import PageNotes.Proofs.Settings.Escapes
import PageNotes.Proofs.Settings.Members
import PageNotes.Proofs.Settings.Placeholders
import PageNotes.Proofs.Settings.Precedence
import PageNotes.Proofs.Settings.Setting
import PageNotes.Proofs.Settings.Settled
import PageNotes.Proofs.Settings.Sources
import PageNotes.Proofs.Text.Caseless
import PageNotes.Proofs.Text.Endings
import PageNotes.Proofs.Text.Numerals
import PageNotes.Proofs.Text.Parts
import PageNotes.Proofs.Text.Percent
import PageNotes.Proofs.Text.Slug
import PageNotes.Proofs.Text.Tags
import PageNotes.Proofs.Text.Trim
import PageNotes.Proofs.Time.Calendar
import PageNotes.Proofs.Time.Durations
import PageNotes.Proofs.Time.Timestamps
import PageNotes.Proofs.Time.Universal
import PageNotes.Proofs.Yaml.DistinctKeys
import PageNotes.Reference.Asset
import PageNotes.Reference.Kind
import PageNotes.Reference.PageLink
import PageNotes.Reference.Rewrite
import PageNotes.Report.Basic
import PageNotes.Report.Tracker
import PageNotes.Session.Basic
import PageNotes.Session.Logging
import PageNotes.Settings.Config
import PageNotes.Settings.Environment
import PageNotes.Settings.Error
import PageNotes.Settings.Reading
import PageNotes.Settings.Source
import PageNotes.Text.AlphanumericTable
import PageNotes.Text.Basic
import PageNotes.Text.Blank
import PageNotes.Text.CaseTable
import PageNotes.Text.CodeRange
import PageNotes.Text.Digit
import PageNotes.Text.LetterCase
import PageNotes.Text.NumericTable
import PageNotes.Text.Percent
import PageNotes.Text.PrintableTable
import PageNotes.Text.Quoted
import PageNotes.Text.Slug
import PageNotes.Text.Utf8
import PageNotes.Time.Duration
import PageNotes.Time.Moment
import PageNotes.Value.Basic
import PageNotes.Value.Json
import PageNotes.Yaml.Kind
import PageNotes.Yaml.Lexer
import PageNotes.Yaml.Node
import PageNotes.Yaml.Scalar
import PageNotes.Yaml.Tag
import PageNotes.Yaml.Token
import PageNotes.Yaml.Value
