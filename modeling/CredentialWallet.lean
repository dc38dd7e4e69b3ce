import CredentialWallet.Agent
import CredentialWallet.Command.Help
import CredentialWallet.Command.Line
import CredentialWallet.Command.Options
import CredentialWallet.Command.Run
import CredentialWallet.Connection
import CredentialWallet.Credential
import CredentialWallet.Decimal.Binary64
import CredentialWallet.Decimal.Shortest
import CredentialWallet.Deed
import CredentialWallet.Description.Basic
import CredentialWallet.Description.Wallet
import CredentialWallet.Descriptor
import CredentialWallet.Failure
import CredentialWallet.Fetch
import CredentialWallet.Form
import CredentialWallet.Gateway
import CredentialWallet.Http.Message
import CredentialWallet.Http.Script
import CredentialWallet.Http.Transport
import CredentialWallet.Invitation
import CredentialWallet.Json.Draft
import CredentialWallet.Json.Fault
import CredentialWallet.Json.Printer
import CredentialWallet.Json.Scan
import CredentialWallet.Json.Value
import CredentialWallet.Listing
import CredentialWallet.Main
import CredentialWallet.Malformed
import CredentialWallet.Opening
import CredentialWallet.Preview
import CredentialWallet.Proofs.Atomicity
import CredentialWallet.Proofs.CommitFirst
import CredentialWallet.Proofs.Except
import CredentialWallet.Proofs.Fetching
import CredentialWallet.Proofs.Inquiry
import CredentialWallet.Proofs.Keyed
import CredentialWallet.Proofs.Maps
import CredentialWallet.Proofs.Plan
import CredentialWallet.Proofs.Requests
import CredentialWallet.Proofs.StoredOnly
import CredentialWallet.Record.Codec
import CredentialWallet.Record.Error
import CredentialWallet.Record.Shape
import CredentialWallet.Record.View
import CredentialWallet.Resource
import CredentialWallet.Service
import CredentialWallet.Service.Run
import CredentialWallet.Settings
import CredentialWallet.Talk
import CredentialWallet.Text.Base64
import CredentialWallet.Text.Blank
import CredentialWallet.Text.Case
import CredentialWallet.Text.ControlSequence
import CredentialWallet.Text.Digits
import CredentialWallet.Text.Hexadecimal
import CredentialWallet.Text.Infix
import CredentialWallet.Text.Invisible
import CredentialWallet.Text.Marked
import CredentialWallet.Text.Place
import CredentialWallet.Text.Quoted
import CredentialWallet.Text.Split
import CredentialWallet.Text.Utf16
import CredentialWallet.Text.Utf8
import CredentialWallet.Token
import CredentialWallet.TokenProvider
import CredentialWallet.Unicode.Composition
import CredentialWallet.Unicode.Direction
import CredentialWallet.Unicode.Joining
import CredentialWallet.Unicode.Mark
import CredentialWallet.Unicode.Normal
import CredentialWallet.Unicode.Table
import CredentialWallet.Url.Basic
import CredentialWallet.Url.Domain
import CredentialWallet.Url.Domain.Label
import CredentialWallet.Url.Domain.Mapping
import CredentialWallet.Url.Host
import CredentialWallet.Url.Parse
import CredentialWallet.Url.Path
import CredentialWallet.Url.Percent
import CredentialWallet.Url.Punycode
import CredentialWallet.Url.Scheme
import CredentialWallet.Verification
import CredentialWallet.Wallet
import CredentialWallet.Word
import CredentialWallet.Proofs.Newest
import CredentialWallet.Proofs.Delivery
import CredentialWallet.Proofs.Deletion
import CredentialWallet.Proofs.Arrival
import CredentialWallet.Proofs.Item
import CredentialWallet.Proofs.Address
import CredentialWallet.Proofs.Fields
import CredentialWallet.Proofs.Recovery
import CredentialWallet.Proofs.Canonical
import CredentialWallet.Proofs.RoundTrip
import CredentialWallet.Proofs.Reload
import CredentialWallet.Proofs.Numerals
import CredentialWallet.Proofs.Occurrence
import CredentialWallet.Proofs.Leftover
import CredentialWallet.Proofs.Spelling
import CredentialWallet.Proofs.Classification
import CredentialWallet.Proofs.Names
import CredentialWallet.Proofs.Site
import CredentialWallet.Proofs.Rereading
import CredentialWallet.Proofs.Bearer
import CredentialWallet.Proofs.Session
import CredentialWallet.Proofs.Phases
import CredentialWallet.Proofs.Processor
import CredentialWallet.Proofs.Document
import CredentialWallet.Proofs.Commands
import CredentialWallet.Proofs.Decoding
import CredentialWallet.Proofs.Diagnosis
import CredentialWallet.Proofs.OwnFields
import CredentialWallet.Proofs.Bodyless
import CredentialWallet.Proofs.Sorting
import CredentialWallet.Proofs.Refusal
import CredentialWallet.Proofs.Forms
import CredentialWallet.Proofs.Words
import CredentialWallet.Proofs.Acceptance
import CredentialWallet.Proofs.Legibility
import CredentialWallet.Proofs.Redaction
