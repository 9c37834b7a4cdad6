import PrefixDelegation.Address.Ipv4
import PrefixDelegation.Address.Ipv6
import PrefixDelegation.Address.Network
import PrefixDelegation.Calendar.Date
import PrefixDelegation.Calendar.IsoText
import PrefixDelegation.Calendar.Moment
import PrefixDelegation.Client.Config
import PrefixDelegation.Client.Opening
import PrefixDelegation.Client.Session
import PrefixDelegation.Command.Arguments
import PrefixDelegation.Command.Basic
import PrefixDelegation.Command.Identity
import PrefixDelegation.Command.Line
import PrefixDelegation.Command.Obtain
import PrefixDelegation.Command.Run
import PrefixDelegation.Command.Show
import PrefixDelegation.Console.Cells
import PrefixDelegation.Console.CharWidth
import PrefixDelegation.Console.Emoji.Animals
import PrefixDelegation.Console.Emoji.Basic
import PrefixDelegation.Console.Emoji.Faces
import PrefixDelegation.Console.Emoji.Flags
import PrefixDelegation.Console.Emoji.People
import PrefixDelegation.Console.Emoji.Places
import PrefixDelegation.Console.Emoji.Sequences
import PrefixDelegation.Console.Emoji.Symbols
import PrefixDelegation.Console.Emoji.Travel
import PrefixDelegation.Console.Markup
import PrefixDelegation.Console.Style
import PrefixDelegation.Console.Table
import PrefixDelegation.Console.Wrap
import PrefixDelegation.Decimal.Binary
import PrefixDelegation.Decimal.Notation
import PrefixDelegation.Decimal.Shortest
import PrefixDelegation.Exchange
import PrefixDelegation.Fault
import PrefixDelegation.Files.Basic
import PrefixDelegation.Files.Path
import PrefixDelegation.Identity.Duid
import PrefixDelegation.Identity.HardwareAddress
import PrefixDelegation.Journal
import PrefixDelegation.Json.Reader
import PrefixDelegation.Json.Value
import PrefixDelegation.Json.Writer
import PrefixDelegation.Lease
import PrefixDelegation.Log
import PrefixDelegation.Machine
import PrefixDelegation.Main
import PrefixDelegation.Octets
import PrefixDelegation.Proofs.Exchange.Course
import PrefixDelegation.Proofs.Exchange.FirstMatch
import PrefixDelegation.Proofs.Exchange.Reply
import PrefixDelegation.Proofs.Lease.Granted
import PrefixDelegation.Proofs.Session.Escape
import PrefixDelegation.Proofs.Session.Renewal
import PrefixDelegation.Proofs.Session.Rounds
import PrefixDelegation.Proofs.Session.Run
import PrefixDelegation.Proofs.Session.Standing
import PrefixDelegation.Proofs.Traversal
import PrefixDelegation.Proofs.Wire.BigEndian
import PrefixDelegation.Proofs.Wire.Delegation
import PrefixDelegation.Proofs.Wire.HiddenNetworks
import PrefixDelegation.Proofs.Wire.Lossless
import PrefixDelegation.Proofs.Wire.OptionList
import PrefixDelegation.Proofs.Wire.ServerData
import PrefixDelegation.Proofs.Wire.Whole
import PrefixDelegation.Seconds
import PrefixDelegation.Sequencer
import PrefixDelegation.Settings.Assignment
import PrefixDelegation.Settings.Basic
import PrefixDelegation.Settings.Environment
import PrefixDelegation.Text.Blank
import PrefixDelegation.Text.DecimalDigit
import PrefixDelegation.Text.Numeral
import PrefixDelegation.Text.Pieces
import PrefixDelegation.Text.Printable
import PrefixDelegation.Text.Quoted
import PrefixDelegation.Text.Similarity
import PrefixDelegation.Text.SmallLetter
import PrefixDelegation.Transport.Address
import PrefixDelegation.Transport.Answers
import PrefixDelegation.Transport.Basic
import PrefixDelegation.Transport.Host
import PrefixDelegation.Transport.Script
import PrefixDelegation.Wire.Chain
import PrefixDelegation.Wire.Layout
import PrefixDelegation.Wire.Message
import PrefixDelegation.Wire.MessageType
import PrefixDelegation.Wire.Option
import PrefixDelegation.Proofs.Exchange.Recording
import PrefixDelegation.Proofs.Session.Outbox
import PrefixDelegation.Proofs.Session.Identifiers
import PrefixDelegation.Proofs.Exchange.Noise
import PrefixDelegation.Proofs.Session.Echo
import PrefixDelegation.Proofs.Session.ForeignTraffic
import PrefixDelegation.Proofs.Session.GivingBack
import PrefixDelegation.Proofs.Identity.DuidText
import PrefixDelegation.Proofs.Identity.Resolution
import PrefixDelegation.Proofs.Session.Atomicity
import PrefixDelegation.Proofs.Calendar.Days
import PrefixDelegation.Proofs.Calendar.MomentText
import PrefixDelegation.Proofs.Address.AddressText
import PrefixDelegation.Proofs.Address.NetworkText
import PrefixDelegation.Proofs.Json.Layout
import PrefixDelegation.Proofs.Files.Replaced
import PrefixDelegation.Proofs.Lease.RoundTrip
import PrefixDelegation.Proofs.Session.Moves
import PrefixDelegation.Proofs.Command.Acts
import PrefixDelegation.Proofs.Command.Opening
import PrefixDelegation.Proofs.Command.SavedLease
import PrefixDelegation.Proofs.Command.Display
import PrefixDelegation.Proofs.Command.Kept
import PrefixDelegation.Proofs.Command.Round
import PrefixDelegation.Proofs.Command.KeptLease
import PrefixDelegation.Proofs.Lease.Renewal
import PrefixDelegation.Proofs.Session.Agreement
import PrefixDelegation.Proofs.Session.Soliciting
import PrefixDelegation.Proofs.Text.Words
import PrefixDelegation.Proofs.Address.HexText
import PrefixDelegation.Proofs.Machine.AddressTable
import PrefixDelegation.Proofs.Session.PinnedIdentity
import PrefixDelegation.Proofs.Command.UnreadableLease
import PrefixDelegation.Proofs.Command.GivenOptions
import PrefixDelegation.Proofs.Command.ShownIdentity
import PrefixDelegation.Proofs.Sequencer.Conservation
