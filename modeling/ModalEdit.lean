import ModalEdit.Bracket
import ModalEdit.Buffer.Basic
import ModalEdit.Buffer.Cell
import ModalEdit.Buffer.Flat
import ModalEdit.Change
import ModalEdit.Command
import ModalEdit.CommandLine.Arguments
import ModalEdit.CommandLine.Flag
import ModalEdit.CommandLine.Launch
import ModalEdit.Decimal.Binary64
import ModalEdit.Decimal.Layout
import ModalEdit.Disk
import ModalEdit.Display
import ModalEdit.Document
import ModalEdit.Editor
import ModalEdit.Fault
import ModalEdit.Json.Reader
import ModalEdit.Json.Token
import ModalEdit.Json.Value
import ModalEdit.Json.Writer
import ModalEdit.Limits.Basic
import ModalEdit.Limits.Editing
import ModalEdit.Line.Search
import ModalEdit.Line.Sentence
import ModalEdit.Line.Word
import ModalEdit.Main
import ModalEdit.Motion.Basic
import ModalEdit.Operator
import ModalEdit.Path
import ModalEdit.Position
import ModalEdit.Proofs.AimedColumn
import ModalEdit.Proofs.AtomicSaves
import ModalEdit.Proofs.Balance
import ModalEdit.Proofs.ChangedWords
import ModalEdit.Proofs.CharacterSearch
import ModalEdit.Proofs.ClampedLines
import ModalEdit.Proofs.CommandChanges
import ModalEdit.Proofs.CountProducts
import ModalEdit.Proofs.DecimalText
import ModalEdit.Proofs.DesiredColumn
import ModalEdit.Proofs.Extents
import ModalEdit.Proofs.FailedEdits
import ModalEdit.Proofs.FlatEdits
import ModalEdit.Proofs.FlatPlaces
import ModalEdit.Proofs.FlatText
import ModalEdit.Proofs.Granting
import ModalEdit.Proofs.Highlight
import ModalEdit.Proofs.HighlightedText
import ModalEdit.Proofs.InnermostPair
import ModalEdit.Proofs.JoinedLines
import ModalEdit.Proofs.JsonFields
import ModalEdit.Proofs.JsonText
import ModalEdit.Proofs.Landings
import ModalEdit.Proofs.LoadedSettings
import ModalEdit.Proofs.MotionKeys
import ModalEdit.Proofs.MotionSteps
import ModalEdit.Proofs.Numerals
import ModalEdit.Proofs.ObjectExtents
import ModalEdit.Proofs.ObjectNesting
import ModalEdit.Proofs.ObjectRoutes
import ModalEdit.Proofs.OperatorChanges
import ModalEdit.Proofs.OperatorRuns
import ModalEdit.Proofs.OperatorTargets
import ModalEdit.Proofs.Outcomes
import ModalEdit.Proofs.Pairs
import ModalEdit.Proofs.PartnerObjects
import ModalEdit.Proofs.Partners
import ModalEdit.Proofs.PendingInput
import ModalEdit.Proofs.Places
import ModalEdit.Proofs.PutBack
import ModalEdit.Proofs.PutCopies
import ModalEdit.Proofs.Reactions
import ModalEdit.Proofs.ReaderRange
import ModalEdit.Proofs.RegisterWrites
import ModalEdit.Proofs.Repetition
import ModalEdit.Proofs.Replacement
import ModalEdit.Proofs.Requests
import ModalEdit.Proofs.Resting
import ModalEdit.Proofs.Rounding
import ModalEdit.Proofs.Runs
import ModalEdit.Proofs.SavedSettings
import ModalEdit.Proofs.SearchRepeats
import ModalEdit.Proofs.SentenceEnds
import ModalEdit.Proofs.SentenceObjects
import ModalEdit.Proofs.SentenceSteps
import ModalEdit.Proofs.Shorthands
import ModalEdit.Proofs.Soundness
import ModalEdit.Proofs.SpanOrder
import ModalEdit.Proofs.Tilings
import ModalEdit.Proofs.ToggledCase
import ModalEdit.Proofs.TypedCounts
import ModalEdit.Proofs.Undoing
import ModalEdit.Proofs.WholeLines
import ModalEdit.Proofs.WordBoundaries
import ModalEdit.Selection
import ModalEdit.Session.Basic
import ModalEdit.Session.Key
import ModalEdit.Session.React
import ModalEdit.Settings.Location
import ModalEdit.Settings.Store
import ModalEdit.Text.Bounds
import ModalEdit.Text.Case
import ModalEdit.Text.CaseTables
import ModalEdit.Text.CharClass
import ModalEdit.Text.CharTables
import ModalEdit.Text.Lines
import ModalEdit.Text.Printable
import ModalEdit.Text.Units
import ModalEdit.TextObject
