import Denary.Bits
import Denary.Bounded
import Denary.Calendar
import Denary.Cli.Options
import Denary.Cli.Preferences
import Denary.Cli.Run
import Denary.Console
import Denary.Decimal.Binary64
import Denary.Decimal.Integer
import Denary.Decimal.Literal
import Denary.Decimal.Rounding
import Denary.Disk.Basic
import Denary.Disk.Path
import Denary.Dump
import Denary.Engine
import Denary.Error
import Denary.Interpreter
import Denary.Journal
import Denary.Library
import Denary.Machine
import Denary.Main
import Denary.Opcode.Create
import Denary.Opcode.Dialogue
import Denary.Opcode.Flow
import Denary.Opcode.Math
import Denary.Opcode.Report
import Denary.Opcode.Strings
import Denary.Program
import Denary.Report.Archive
import Denary.Report.Plain
import Denary.Settings
import Denary.Snapshot
import Denary.State
import Denary.Text.Blank
import Denary.Text.Bytes
import Denary.Text.Case
import Denary.Text.Json
import Denary.Text.Piece
import Denary.Text.Printable
import Denary.Text.Quoted
import Denary.Value
import Denary.World
import Denary.Yaml.Chars
import Denary.Yaml.Datum
import Denary.Yaml.Decode
import Denary.Yaml.Encoding
import Denary.Yaml.Event
import Denary.Yaml.Node
import Denary.Yaml.Plain
import Denary.Yaml.Problem
import Denary.Yaml.Report
import Denary.Yaml.Scalar
import Denary.Yaml.ScalarToken
import Denary.Yaml.Source
import Denary.Yaml.TagToken
import Denary.Yaml.Timestamp
import Denary.Yaml.Token
import Denary.Proofs.Bounded
import Denary.Proofs.Machine
import Denary.Proofs.Effect
import Denary.Proofs.Handler
import Denary.Proofs.Library
import Denary.Proofs.Engine
import Denary.Proofs.Run
import Denary.Proofs.Control
import Denary.Proofs.Cursor
import Denary.Proofs.Capacity
import Denary.Proofs.Provenance
import Denary.Proofs.Remarks
import Denary.Proofs.Account
import Denary.Proofs.Frame
import Denary.Proofs.Calculation
import Denary.Proofs.Transcript
import Denary.Proofs.Reporter
import Denary.Proofs.Lookahead
import Denary.Proofs.Reading
import Denary.Proofs.Interpreter
import Denary.Proofs.Segments
import Denary.Proofs.Safety
import Denary.Proofs.Message
import Denary.Proofs.Codec
import Denary.Proofs.Losses
import Denary.Proofs.Parallel
import Denary.Proofs.Diagnostics
import Denary.Proofs.Disk
import Denary.Proofs.Reports
import Denary.Proofs.Loop
import Denary.Proofs.Warnings
import Denary.Proofs.Bindings
import Denary.Proofs.Extension
import Denary.Proofs.Session
import Denary.Proofs.CommandLine
import Denary.Proofs.Pieces
import Denary.Proofs.Reversal
import Denary.Proofs.Numeral
import Denary.Proofs.PlainReport
import Denary.Proofs.Journal
import Denary.Proofs.Loading
import Denary.Proofs.Arguments
import Denary.Proofs.Condition
import Denary.Proofs.Record
