import ModalEditor.Buffer.Basic
import ModalEditor.Buffer.Edit
import ModalEditor.Buffer.Position
import ModalEditor.Command.Action
import ModalEditor.Command.Motion
import ModalEditor.Command.Reader
import ModalEditor.Command.Span
import ModalEditor.CommandLine
import ModalEditor.Config.Reader
import ModalEditor.Config.Resolve
import ModalEditor.Config.Scalar
import ModalEditor.Config.Table
import ModalEditor.Document.Basic
import ModalEditor.Document.Compound
import ModalEditor.Editor.Basic
import ModalEditor.Editor.Change
import ModalEditor.Editor.CommandLine
import ModalEditor.Editor.Dispatch
import ModalEditor.Editor.Ex
import ModalEditor.Editor.Move
import ModalEditor.Editor.Operator
import ModalEditor.Editor.Put
import ModalEditor.Editor.Repeat
import ModalEditor.Editor.Session
import ModalEditor.Editor.Typing
import ModalEditor.Editor.Visual
import ModalEditor.Engine
import ModalEditor.Error
import ModalEditor.History
import ModalEditor.JumpList
import ModalEditor.Key.Basic
import ModalEditor.Key.Script
import ModalEditor.Main
import ModalEditor.Mark
import ModalEditor.Mode.Basic
import ModalEditor.Mode.Transition
import ModalEditor.Motion.Find
import ModalEditor.Motion.Line
import ModalEditor.Motion.Paragraph
import ModalEditor.Motion.Word
import ModalEditor.Named
import ModalEditor.Pattern.CharSet
import ModalEditor.Pattern.Match
import ModalEditor.Pattern.Parser
import ModalEditor.Pattern.Replace
import ModalEditor.Program.Arguments
import ModalEditor.Program.Run
import ModalEditor.Program.TextFile
import ModalEditor.Register.Basic
import ModalEditor.Register.Content
import ModalEditor.Selection
import ModalEditor.Settings
import ModalEditor.Text.Basic
import ModalEditor.Text.Boundary
import ModalEditor.Text.Cluster
import ModalEditor.TextObject.Basic
import ModalEditor.TextObject.Delimited
import ModalEditor.TextObject.Resolve
import ModalEditor.TextObject.Unit
import ModalEditor.Unicode.Alphanumeric
import ModalEditor.Unicode.Blank
import ModalEditor.Unicode.CaseFold
import ModalEditor.Unicode.CellWidth
import ModalEditor.Unicode.Emoji
import ModalEditor.Unicode.Escape
import ModalEditor.Unicode.GraphemeBreak
import ModalEditor.Unicode.Ranges
import ModalEditor.Unicode.Utf8
import ModalEditor.Unicode.WordChar
import ModalEditor.Proofs.Document.Edit
import ModalEditor.Proofs.Document.Operations
import ModalEditor.Proofs.History.Arena
import ModalEditor.Proofs.Document.Unit
import ModalEditor.Proofs.Document.Rest
import ModalEditor.Proofs.Document.Travel
import ModalEditor.Proofs.Editor.Command
import ModalEditor.Proofs.Editor.Typing
import ModalEditor.Proofs.Editor.Effect
import ModalEditor.Proofs.Editor.Session
import ModalEditor.Proofs.Editor.Range
import ModalEditor.Proofs.Editor.Phase
import ModalEditor.Proofs.Editor.Step
import ModalEditor.Proofs.Editor.Quiet
import ModalEditor.Proofs.Editor.Dispatch
import ModalEditor.Proofs.Editor.Record
import ModalEditor.Proofs.Command.Reader
import ModalEditor.Proofs.Engine.Reachable
import ModalEditor.Proofs.Engine.Lockstep
import ModalEditor.Proofs.Engine.Outcome
import ModalEditor.Proofs.Editor.Enclosed
import ModalEditor.Proofs.Editor.Repeat
import ModalEditor.Proofs.Command.Grammar
import ModalEditor.Proofs.History.Zipper
import ModalEditor.Proofs.Document.Timeline
import ModalEditor.Proofs.Document.Place
import ModalEditor.Proofs.Editor.Preserve
import ModalEditor.Proofs.Engine.Cursor
import ModalEditor.Proofs.Document.Recorded
import ModalEditor.Proofs.Editor.Underway
import ModalEditor.Proofs.Engine.UndoCursor
import ModalEditor.Proofs.Key.Script
import ModalEditor.Proofs.Command.Heard
import ModalEditor.Proofs.Editor.Revision
import ModalEditor.Proofs.Text.Cut
import ModalEditor.Proofs.Document.Cut
import ModalEditor.Proofs.Command.Span
import ModalEditor.Proofs.Editor.Delete
import ModalEditor.Proofs.JumpList.Walk
import ModalEditor.Proofs.Register.Recall
import ModalEditor.Proofs.Unicode.Utf8
import ModalEditor.Proofs.Program.Unedited
import ModalEditor.Proofs.Document.Replace
import ModalEditor.Proofs.Motion.Landing
import ModalEditor.Proofs.Motion.Slot
import ModalEditor.Proofs.Motion.Word
import ModalEditor.Proofs.Command.WordSpan
import ModalEditor.Proofs.TextObject.Bracket
import ModalEditor.Proofs.Editor.PutOver
import ModalEditor.Proofs.JumpList.Failure
import ModalEditor.Proofs.Register.Append
import ModalEditor.Proofs.Engine.Insertion
import ModalEditor.Proofs.Engine.Overwrite
import ModalEditor.Proofs.Document.Aim
import ModalEditor.Proofs.Motion.Column
import ModalEditor.Proofs.Editor.Aim
import ModalEditor.Proofs.Engine.Vertical
import ModalEditor.Proofs.Engine.Arrow
import ModalEditor.Proofs.Document.Mutation
import ModalEditor.Proofs.Editor.Leave
import ModalEditor.Proofs.Engine.LastInsert
import ModalEditor.Proofs.Engine.PutBack
import ModalEditor.Proofs.Editor.VisualShape
import ModalEditor.Proofs.Command.Exclusive
import ModalEditor.Proofs.Editor.SelectObject
import ModalEditor.Proofs.Text.Slice
import ModalEditor.Proofs.Editor.Anchored
import ModalEditor.Proofs.Document.Substitute
import ModalEditor.Proofs.Engine.Substitute
import ModalEditor.Proofs.TextObject.Unit
import ModalEditor.Proofs.TextObject.Quote
import ModalEditor.Proofs.Motion.Find
import ModalEditor.Proofs.Motion.Paragraph
import ModalEditor.Proofs.Editor.Counted
import ModalEditor.Proofs.Document.Join
import ModalEditor.Proofs.Text.Printable
import ModalEditor.Proofs.History.Capacity
import ModalEditor.Proofs.Buffer.FlatText
import ModalEditor.Proofs.Engine.CountedDelete
import ModalEditor.Proofs.Document.PutBlock
import ModalEditor.Proofs.Text.Column
import ModalEditor.Proofs.Buffer.CharIndex
import ModalEditor.Proofs.Pattern.Match
import ModalEditor.Proofs.Pattern.Replace
import ModalEditor.Proofs.Pattern.CharSet
import ModalEditor.Proofs.Pattern.Parser
