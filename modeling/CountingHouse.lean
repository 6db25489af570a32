/-
CountingHouse — a bank that serves each client through a teller of its own.
-/
import CountingHouse.Account
import CountingHouse.BankId
import CountingHouse.Batch
import CountingHouse.Channels
import CountingHouse.Child
import CountingHouse.ClientFile.Clients
import CountingHouse.ClientFile.Records
import CountingHouse.Clock
import CountingHouse.CommandLine
import CountingHouse.Config
import CountingHouse.Enrollment
import CountingHouse.Fault
import CountingHouse.Json.Parser
import CountingHouse.Json.Value
import CountingHouse.Ledger.Document
import CountingHouse.Ledger.File
import CountingHouse.Ledger.Line
import CountingHouse.Log
import CountingHouse.Machine
import CountingHouse.Mailbox.Basic
import CountingHouse.Mailbox.Payload
import CountingHouse.Main
import CountingHouse.Path
import CountingHouse.Program.Client
import CountingHouse.Program.Outcome
import CountingHouse.Program.Session
import CountingHouse.Program.Visit
import CountingHouse.Response
import CountingHouse.Server.Basic
import CountingHouse.Server.Books
import CountingHouse.Server.Floor
import CountingHouse.Server.Roll
import CountingHouse.Server.Source
import CountingHouse.SharedMemory
import CountingHouse.Stream
import CountingHouse.Table
import CountingHouse.Teller
import CountingHouse.Text.Blank
import CountingHouse.Text.CaseTable
import CountingHouse.Text.Lines
import CountingHouse.Text.Lowercase
import CountingHouse.Text.Numeral
import CountingHouse.Text.Utf8
import CountingHouse.Transaction
import CountingHouse.Volume
import CountingHouse.Wire
import CountingHouse.Proofs.Text.Lines
import CountingHouse.Proofs.Text.Words
import CountingHouse.Proofs.Text.Numeral
import CountingHouse.Proofs.Clock
import CountingHouse.Proofs.Account
import CountingHouse.Proofs.Account.Bookings
import CountingHouse.Proofs.Table
import CountingHouse.Proofs.Table.Requests
import CountingHouse.Proofs.Table.Money
import CountingHouse.Proofs.Table.Reordering
import CountingHouse.Proofs.Table.Minting
import CountingHouse.Proofs.BankId
import CountingHouse.Proofs.Ledger.Line
import CountingHouse.Proofs.Ledger.Document
import CountingHouse.Proofs.Ledger.Reachable
import CountingHouse.Proofs.Ledger.RoundTrip
import CountingHouse.Proofs.Ledger.Grammar
import CountingHouse.Proofs.Ledger.Fates
import CountingHouse.Proofs.Ledger.Restart
import CountingHouse.Proofs.Ledger.Header
import CountingHouse.Proofs.Ledger.TornLine
import CountingHouse.Proofs.Ledger.Torn
import CountingHouse.Proofs.Volume
import CountingHouse.Proofs.Ledger.File
import CountingHouse.Proofs.Mailbox.Basic
import CountingHouse.Proofs.Mailbox.Visits
import CountingHouse.Proofs.Mailbox.HandOff
import CountingHouse.Proofs.Mailbox.Answers
import CountingHouse.Proofs.Teller.Submission
import CountingHouse.Proofs.Teller.Serving
import CountingHouse.Proofs.Server.Books
import CountingHouse.Proofs.Server.Handlings
import CountingHouse.Proofs.Server.Conservation
import CountingHouse.Proofs.Server.Mandate
import CountingHouse.Proofs.Server.Floor
import CountingHouse.Proofs.Server.Batch
import CountingHouse.Proofs.Server.Flushes
import CountingHouse.Proofs.Server.Payloads
import CountingHouse.Proofs.Server.Moves
import CountingHouse.Proofs.Child
import CountingHouse.Proofs.Server.Children
import CountingHouse.Proofs.Server.Closing
import CountingHouse.Proofs.Server.Senders
import CountingHouse.Proofs.Server.Tally
import CountingHouse.Proofs.Server.Sightings
import CountingHouse.Proofs.Enrollment
import CountingHouse.Proofs.ClientFile.Records
import CountingHouse.Proofs.ClientFile.Clients
import CountingHouse.Proofs.Json.RoundTrip
import CountingHouse.Proofs.Wire
import CountingHouse.Proofs.Channels
import CountingHouse.Proofs.Channels.Names
import CountingHouse.Proofs.Channels.Pipes
import CountingHouse.Proofs.Program.Verdicts
import CountingHouse.Proofs.Program.Volume
import CountingHouse.Proofs.Program.Session
