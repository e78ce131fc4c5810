import FrameLink.Bytes
import FrameLink.Carrier.Datagram
import FrameLink.Carrier.Sequence
import FrameLink.Command.Arguments
import FrameLink.Command.Duration
import FrameLink.Command.Failure
import FrameLink.Command.Frames
import FrameLink.Command.Log
import FrameLink.Command.Options
import FrameLink.Command.Receive
import FrameLink.Command.Run
import FrameLink.Command.Send
import FrameLink.Command.Session
import FrameLink.Command.World
import FrameLink.Error
import FrameLink.Event
import FrameLink.Format.Cache
import FrameLink.Format.Descriptor
import FrameLink.Format.Version
import FrameLink.Fragment
import FrameLink.Frame
import FrameLink.Json.Numeral
import FrameLink.Json.Printer
import FrameLink.Json.Skip
import FrameLink.Json.Token
import FrameLink.Main
import FrameLink.Number.Binary64
import FrameLink.Number.Shortest
import FrameLink.Packet.Basic
import FrameLink.Packet.Flags
import FrameLink.Proofs.Command.Durations
import FrameLink.Proofs.Command.Pipeline
import FrameLink.Proofs.Encoding.Base64
import FrameLink.Proofs.Encoding.BigEndian
import FrameLink.Proofs.Encoding.Decimal
import FrameLink.Proofs.Encoding.Groups
import FrameLink.Proofs.Encoding.Header
import FrameLink.Proofs.Encoding.Tokens
import FrameLink.Proofs.Encoding.Trimming
import FrameLink.Proofs.Encoding.Utf8
import FrameLink.Proofs.Encoding.Varint
import FrameLink.Proofs.Encoding.Wire
import FrameLink.Proofs.Encoding.Words
import FrameLink.Proofs.Link.Accounts
import FrameLink.Proofs.Link.Contents
import FrameLink.Proofs.Link.Exchange
import FrameLink.Proofs.Link.FirstRound
import FrameLink.Proofs.Link.Handover
import FrameLink.Proofs.Link.Inbound
import FrameLink.Proofs.Link.Integrity
import FrameLink.Proofs.Link.Line
import FrameLink.Proofs.Link.Loopback
import FrameLink.Proofs.Link.Losses
import FrameLink.Proofs.Link.Progress
import FrameLink.Proofs.Link.Refusals
import FrameLink.Proofs.Link.RoundTrip
import FrameLink.Proofs.Link.Strays
import FrameLink.Proofs.Receiver.Blocks
import FrameLink.Proofs.Receiver.Completion
import FrameLink.Proofs.Receiver.Cuts
import FrameLink.Proofs.Receiver.Failures
import FrameLink.Proofs.Receiver.Fragments
import FrameLink.Proofs.Receiver.Holding
import FrameLink.Proofs.Receiver.Lifetime
import FrameLink.Proofs.Receiver.Notices
import FrameLink.Proofs.Receiver.Outcomes
import FrameLink.Proofs.Sender.Announced
import FrameLink.Proofs.Sender.Fragments
import FrameLink.Proofs.Sender.Partition
import FrameLink.Proofs.Sender.Retry
import FrameLink.Proofs.Sender.Versions
import FrameLink.Proofs.Session.Attributes
import FrameLink.Proofs.Session.Json
import FrameLink.Proofs.Session.Layout
import FrameLink.Proofs.Stream.Reads
import FrameLink.Proofs.Stream.Scripts
import FrameLink.Proofs.Transport.Endpoints
import FrameLink.Receiver.Basic
import FrameLink.Receiver.Gathered
import FrameLink.Report.Basic
import FrameLink.Report.Table
import FrameLink.Sender.Basic
import FrameLink.Sender.Push
import FrameLink.Session.Attributes
import FrameLink.Session.Basic
import FrameLink.Session.Fault
import FrameLink.Session.Json
import FrameLink.Stream.Reader
import FrameLink.Stream.Writer
import FrameLink.Text.Base64
import FrameLink.Text.Blank
import FrameLink.Text.Columns
import FrameLink.Text.Decimal
import FrameLink.Text.Extending
import FrameLink.Text.Hexadecimal
import FrameLink.Text.Ligature
import FrameLink.Text.Picture
import FrameLink.Text.Printable
import FrameLink.Text.Quoted
import FrameLink.Text.Spans
import FrameLink.Text.Utf8
import FrameLink.Text.Width
import FrameLink.Transport.Address
import FrameLink.Transport.Endpoint
import FrameLink.Transport.Error
import FrameLink.Transport.Loopback
import FrameLink.Transport.System
import FrameLink.Transport.Udp
import FrameLink.Varint
