import HybridInverter.Application
import HybridInverter.BinaryFloat
import HybridInverter.Checksum
import HybridInverter.Coded
import HybridInverter.Command.Basic
import HybridInverter.Command.Wire
import HybridInverter.CommandLine.Options
import HybridInverter.CommandLine.Reader
import HybridInverter.Failure
import HybridInverter.Frame
import HybridInverter.Host.Basic
import HybridInverter.Host.Computer
import HybridInverter.Host.Machine
import HybridInverter.Json
import HybridInverter.Link.Basic
import HybridInverter.Link.Pipe
import HybridInverter.Log
import HybridInverter.Main
import HybridInverter.Proofs.Application.Ending
import HybridInverter.Proofs.Application.FailureReport
import HybridInverter.Proofs.BinaryFloat
import HybridInverter.Proofs.Checksum
import HybridInverter.Proofs.Checksum.Nibble
import HybridInverter.Proofs.Checksum.SingleBit
import HybridInverter.Proofs.Command.Declared
import HybridInverter.Proofs.Command.Numbers
import HybridInverter.Proofs.Command.Payload
import HybridInverter.Proofs.CommandLine.Reader
import HybridInverter.Proofs.Frame.Decode
import HybridInverter.Proofs.Frame.Reader
import HybridInverter.Proofs.Frame.SizeLimit
import HybridInverter.Proofs.Frame.Stream
import HybridInverter.Proofs.Frame.Verified
import HybridInverter.Proofs.Hexdump
import HybridInverter.Proofs.Host.Watched
import HybridInverter.Proofs.Link.OutOfStep
import HybridInverter.Proofs.Link.Run
import HybridInverter.Proofs.Link.Written
import HybridInverter.Proofs.List
import HybridInverter.Proofs.Outcome
import HybridInverter.Proofs.Report.Agreement
import HybridInverter.Proofs.Report.Fields
import HybridInverter.Proofs.Request.Build
import HybridInverter.Proofs.Request.Check
import HybridInverter.Proofs.Request.Fit
import HybridInverter.Proofs.Request.Meaning
import HybridInverter.Proofs.Request.Terminator
import HybridInverter.Proofs.Request.Unambiguous
import HybridInverter.Proofs.Response.Bounds
import HybridInverter.Proofs.Response.Delivered
import HybridInverter.Proofs.Response.Envelope
import HybridInverter.Proofs.Response.FixedFields
import HybridInverter.Proofs.Response.Guarded
import HybridInverter.Proofs.Response.Incomplete
import HybridInverter.Proofs.Response.LeadingNumber
import HybridInverter.Proofs.Response.ReadBack
import HybridInverter.Proofs.Response.Record
import HybridInverter.Proofs.Response.Segment
import HybridInverter.Proofs.Response.Token
import HybridInverter.Proofs.Response.Written
import HybridInverter.Proofs.Session.Dealings
import HybridInverter.Proofs.Session.Dump
import HybridInverter.Proofs.Session.Refusal
import HybridInverter.Proofs.Session.Run
import HybridInverter.Proofs.Session.Setting
import HybridInverter.Proofs.Settings.Device
import HybridInverter.Proofs.Settings.Document
import HybridInverter.Proofs.Settings.Merge
import HybridInverter.Proofs.Text.Lossy
import HybridInverter.Proofs.Text.Numeral
import HybridInverter.Proofs.Text.Slice
import HybridInverter.Proofs.Text.Utf8
import HybridInverter.Proofs.Yaml.Scalar
import HybridInverter.Proofs.Yaml.Visit
import HybridInverter.Record.Basic
import HybridInverter.Record.Items
import HybridInverter.Record.Parallel
import HybridInverter.Record.Ratings
import HybridInverter.Record.Status
import HybridInverter.Report
import HybridInverter.Request.Basic
import HybridInverter.Request.Check
import HybridInverter.Response.Basic
import HybridInverter.Response.Token
import HybridInverter.Session.Basic
import HybridInverter.Session.Script
import HybridInverter.Settings.Basic
import HybridInverter.Settings.Document
import HybridInverter.Text.Basic
import HybridInverter.Text.Numeral
import HybridInverter.Text.Printable
import HybridInverter.Yaml.Node
import HybridInverter.Yaml.Text
import HybridInverter.Yaml.Token
import HybridInverter.Yaml.Visit
