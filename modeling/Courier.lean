import Courier.Confirm.Drain
import Courier.Confirm.Fleet
import Courier.Confirm.Harbour
import Courier.Confirm.Run
import Courier.Dispatch
import Courier.Instant.Reader
import Courier.Json.Grammar
import Courier.Json.Strict
import Courier.Link.Run
import Courier.Proofs.Acting
import Courier.Proofs.Confirm.Absence
import Courier.Proofs.Confirm.Balance
import Courier.Proofs.Confirm.Cancellation
import Courier.Proofs.Confirm.Commutation
import Courier.Proofs.Confirm.Desk
import Courier.Proofs.Confirm.Drain
import Courier.Proofs.Confirm.Family
import Courier.Proofs.Confirm.Harbour
import Courier.Proofs.Confirm.Ledger
import Courier.Proofs.Confirm.Numbering
import Courier.Proofs.Confirm.Queue
import Courier.Proofs.Confirm.Tracker
import Courier.Proofs.Confirm.Window
import Courier.Proofs.Contract
import Courier.Proofs.EndToEnd
import Courier.Proofs.Envelope
import Courier.Proofs.Instant
import Courier.Proofs.Json.Codec
import Courier.Proofs.Json.Grammar
import Courier.Proofs.Json.Raw
import Courier.Proofs.Json.Recognition
import Courier.Proofs.Json.Record
import Courier.Proofs.Json.Token
import Courier.Proofs.Json.Value
import Courier.Proofs.Link.Generation
import Courier.Proofs.Lists
import Courier.Proofs.Publication
import Courier.Proofs.Publication.Cancellation
import Courier.Proofs.Publication.Chain
import Courier.Proofs.Publication.Commitment
import Courier.Proofs.Publication.Course
import Courier.Proofs.Publication.Office
import Courier.Proofs.Publication.Outbox
import Courier.Proofs.Publication.Withdrawal
import Courier.Proofs.Reception
import Courier.Proofs.Reception.Standard
import Courier.Proofs.Recording
import Courier.Proofs.Registry
import Courier.Proofs.Retry.Depot
import Courier.Proofs.Retry.Rounds
import Courier.Proofs.Retry.Trial
import Courier.Proofs.Settlement
import Courier.Proofs.Text.Utf8
import Courier.Proofs.Uuid
import Courier.Proofs.Validation
import Courier.Publication.Office
import Courier.Publication.Outbox
import Courier.Proofs.Link.Lane
import Courier.Proofs.Link.Window
import Courier.Proofs.Dispatch.Provision
import Courier.Dispatch.Service
import Courier.Proofs.Dispatch.Service
import Courier.Proofs.Link.Acts
import Courier.Proofs.Reception.Assembly
import Courier.Proofs.Headers
import Courier.Proofs.Publication.Enrichment
import Courier.Dispatch.Intake
import Courier.Proofs.Dispatch.Intake
import Courier.Proofs.Dispatch.Token
import Courier.Proofs.Dispatch.Consumption
import Courier.Proofs.Validation.Nesting
import Courier.Proofs.Validation.Shape
import Courier.Proofs.Validation.Email
import Courier.Proofs.Validation.WellFormed
import Courier.Json.Spelling
import Courier.Proofs.Json.Spelling
import Courier.Proofs.Link.Shutdown
import Courier.Proofs.Link.Installation
import Courier.Proofs.Json.Lexical
import Courier.Json.Object
import Courier.Proofs.Json.Object
import Courier.Proofs.Json.Told
import Courier.Proofs.Envelope.Indifference
import Courier.Proofs.Text.Order
import Courier.Proofs.Registry.Index
import Courier.Proofs.Pipeline
import Courier.Proofs.Text.Blank
import Courier.Proofs.Settings.Number
import Courier.Proofs.Settings.Uri
import Courier.Proofs.Link.Places
import Courier.Proofs.Text.Lowercase
import Courier.Proofs.Trace
