import LectureDeck.Concept.Index
import LectureDeck.Concept.Subquestion
import LectureDeck.Concept.Tags
import LectureDeck.Concept.View
import LectureDeck.Decimal.Layout
import LectureDeck.Decimal.Reader
import LectureDeck.Deck.Compile
import LectureDeck.Deck.Draft
import LectureDeck.Deck.Error
import LectureDeck.Deck.Fault
import LectureDeck.Deck.Model
import LectureDeck.Deck.Name
import LectureDeck.Deck.Options
import LectureDeck.Deck.Piece
import LectureDeck.Deck.Reading
import LectureDeck.Deck.Record
import LectureDeck.Deck.Run
import LectureDeck.Deck.Running
import LectureDeck.Digest.Blake3
import LectureDeck.Digest.Short
import LectureDeck.Json.Printer
import LectureDeck.Json.Reader
import LectureDeck.Json.Value
import LectureDeck.Main
import LectureDeck.Markup.Block
import LectureDeck.Markup.Block.Line
import LectureDeck.Markup.Block.Remainder
import LectureDeck.Markup.Block.Rules
import LectureDeck.Markup.Inline
import LectureDeck.Markup.Inline.Rules
import LectureDeck.Markup.Inline.Scan
import LectureDeck.Markup.Outline
import LectureDeck.Page.Contents
import LectureDeck.Page.Document
import LectureDeck.Page.Presentation
import LectureDeck.Pattern.Basic
import LectureDeck.Pattern.Machine
import LectureDeck.Pattern.Normal
import LectureDeck.Pattern.Ranges
import LectureDeck.Pattern.Reader
import LectureDeck.Plugin.Registry
import LectureDeck.Plugin.Template
import LectureDeck.Proofs.Concept.Anchors
import LectureDeck.Proofs.Concept.Combinations
import LectureDeck.Proofs.Concept.Entries
import LectureDeck.Proofs.Concept.Keys
import LectureDeck.Proofs.Concept.Letters
import LectureDeck.Proofs.Concept.Listing
import LectureDeck.Proofs.Concept.Merging
import LectureDeck.Proofs.Concept.Odometer
import LectureDeck.Proofs.Concept.Subquestions
import LectureDeck.Proofs.Concept.TagLines
import LectureDeck.Proofs.Decimal.Natural
import LectureDeck.Proofs.Deck.Alike
import LectureDeck.Proofs.Deck.Awaiting
import LectureDeck.Proofs.Deck.Bearers
import LectureDeck.Proofs.Deck.Calls
import LectureDeck.Proofs.Deck.Consistency
import LectureDeck.Proofs.Deck.Cues
import LectureDeck.Proofs.Deck.Defaults
import LectureDeck.Proofs.Deck.Errors
import LectureDeck.Proofs.Deck.ForwardLinks
import LectureDeck.Proofs.Deck.Frame
import LectureDeck.Proofs.Deck.Gathering
import LectureDeck.Proofs.Deck.Groups
import LectureDeck.Proofs.Deck.Hearing
import LectureDeck.Proofs.Deck.ImageNumbers
import LectureDeck.Proofs.Deck.Known
import LectureDeck.Proofs.Deck.Landings
import LectureDeck.Proofs.Deck.Lasting
import LectureDeck.Proofs.Deck.Layers
import LectureDeck.Proofs.Deck.Mentions
import LectureDeck.Proofs.Deck.Moves
import LectureDeck.Proofs.Deck.Naming
import LectureDeck.Proofs.Deck.Plugins
import LectureDeck.Proofs.Deck.Presenting
import LectureDeck.Proofs.Deck.Questions
import LectureDeck.Proofs.Deck.Records
import LectureDeck.Proofs.Deck.Regions
import LectureDeck.Proofs.Deck.Skips
import LectureDeck.Proofs.Deck.SlideBlocks
import LectureDeck.Proofs.Deck.SlideEnd
import LectureDeck.Proofs.Deck.SlideLoop
import LectureDeck.Proofs.Deck.Slides
import LectureDeck.Proofs.Deck.Tags
import LectureDeck.Proofs.Deck.Veil
import LectureDeck.Proofs.Deck.Verification
import LectureDeck.Proofs.Inline.CodeSpans
import LectureDeck.Proofs.Inline.Escaping
import LectureDeck.Proofs.Inline.Spans
import LectureDeck.Proofs.Json.Reading
import LectureDeck.Proofs.Outline.Alone
import LectureDeck.Proofs.Outline.BlankLines
import LectureDeck.Proofs.Outline.BlockReaders
import LectureDeck.Proofs.Outline.Comments
import LectureDeck.Proofs.Outline.DefaultsHeader
import LectureDeck.Proofs.Outline.Fences
import LectureDeck.Proofs.Outline.ItemEnds
import LectureDeck.Proofs.Outline.Lines
import LectureDeck.Proofs.Outline.LocalItems
import LectureDeck.Proofs.Outline.LocalRules
import LectureDeck.Proofs.Outline.Nesting
import LectureDeck.Proofs.Outline.Openings
import LectureDeck.Proofs.Outline.Passes
import LectureDeck.Proofs.Outline.Quoting
import LectureDeck.Proofs.Outline.Readers
import LectureDeck.Proofs.Outline.Reads
import LectureDeck.Proofs.Outline.Seam
import LectureDeck.Proofs.Outline.Tiling
import LectureDeck.Proofs.Outline.Walk
import LectureDeck.Proofs.Page.Answers
import LectureDeck.Proofs.Page.Balance
import LectureDeck.Proofs.Page.Choices
import LectureDeck.Proofs.Page.CommentEnds
import LectureDeck.Proofs.Page.Copies
import LectureDeck.Proofs.Page.HiddenAnswers
import LectureDeck.Proofs.Page.Identifiers
import LectureDeck.Proofs.Page.Labels
import LectureDeck.Proofs.Page.LeavingOut
import LectureDeck.Proofs.Page.Model
import LectureDeck.Proofs.Page.Nesting
import LectureDeck.Proofs.Page.Options
import LectureDeck.Proofs.Page.Pages
import LectureDeck.Proofs.Page.Plugins
import LectureDeck.Proofs.Page.Script
import LectureDeck.Proofs.Page.Unresolved
import LectureDeck.Proofs.Plugin.Filling
import LectureDeck.Proofs.Question.Changes
import LectureDeck.Proofs.Question.Keyword
import LectureDeck.Proofs.Question.Layout
import LectureDeck.Proofs.Question.Recorded
import LectureDeck.Proofs.Question.Semicolons
import LectureDeck.Proofs.Question.Statement
import LectureDeck.Proofs.Question.Typing
import LectureDeck.Proofs.Question.Weights
import LectureDeck.Proofs.Question.Words
import LectureDeck.Proofs.Reference.Definitions
import LectureDeck.Proofs.Reference.Forward
import LectureDeck.Proofs.Reference.Mentions
import LectureDeck.Proofs.Result
import LectureDeck.Proofs.Run.ConceptLinks
import LectureDeck.Proofs.Run.Coverage
import LectureDeck.Proofs.Run.Files
import LectureDeck.Proofs.Run.Questions
import LectureDeck.Proofs.Sheet.History
import LectureDeck.Proofs.Sheet.Kinds
import LectureDeck.Proofs.Site.Build
import LectureDeck.Proofs.Site.FileTree
import LectureDeck.Proofs.Site.Globs
import LectureDeck.Proofs.Site.Matching
import LectureDeck.Proofs.Site.Path
import LectureDeck.Proofs.Site.Patterns
import LectureDeck.Proofs.Site.Places
import LectureDeck.Proofs.Site.Sources
import LectureDeck.Proofs.Site.StoredRecords
import LectureDeck.Proofs.Site.Titles
import LectureDeck.Proofs.Site.Writing
import LectureDeck.Proofs.Source
import LectureDeck.Proofs.Stepwise
import LectureDeck.Proofs.Text.Backslashes
import LectureDeck.Proofs.Text.Edges
import LectureDeck.Proofs.Text.Entity
import LectureDeck.Proofs.Text.Fields
import LectureDeck.Proofs.Text.Lowercase
import LectureDeck.Proofs.Text.Percent
import LectureDeck.Question.Answer
import LectureDeck.Question.Choices
import LectureDeck.Question.Kind
import LectureDeck.Question.Options
import LectureDeck.Question.Weight
import LectureDeck.Reference.Forward
import LectureDeck.Reference.Name
import LectureDeck.Reference.Table
import LectureDeck.Render.File
import LectureDeck.Render.Slide
import LectureDeck.Render.Text
import LectureDeck.Sheet.Attributes
import LectureDeck.Sheet.Publish
import LectureDeck.Site.Build
import LectureDeck.Site.Command
import LectureDeck.Site.Config
import LectureDeck.Site.Error
import LectureDeck.Site.FileTree
import LectureDeck.Site.Path
import LectureDeck.Site.Report
import LectureDeck.Site.Sources
import LectureDeck.Source
import LectureDeck.Text.Blank
import LectureDeck.Text.CaseFold
import LectureDeck.Text.CodeRange
import LectureDeck.Text.Entity
import LectureDeck.Text.Line
import LectureDeck.Text.Lowercase
import LectureDeck.Text.Sorted
import LectureDeck.Text.Utf8
import LectureDeck.Text.WordChar
