import RelayDesk.Action.CallForm
import RelayDesk.Action.Dispatch
import RelayDesk.Action.Envelope
import RelayDesk.Action.Fault
import RelayDesk.Action.Params
import RelayDesk.Action.QuoteForm
import RelayDesk.Action.Registry
import RelayDesk.Action.Session
import RelayDesk.App.CommandLine
import RelayDesk.App.Program
import RelayDesk.App.Scene
import RelayDesk.App.Settings
import RelayDesk.Cache.Call
import RelayDesk.Cache.Key
import RelayDesk.Cache.Record
import RelayDesk.Cache.Shelf
import RelayDesk.Cache.Store
import RelayDesk.Digest.Sha256
import RelayDesk.Files.Path
import RelayDesk.Files.Tree
import RelayDesk.Json.Basic
import RelayDesk.Json.Cursor
import RelayDesk.Json.Fault
import RelayDesk.Json.Lossy
import RelayDesk.Json.Printer
import RelayDesk.Json.Reader
import RelayDesk.Json.Record
import RelayDesk.Json.Scan
import RelayDesk.Json.Skip
import RelayDesk.Keyed
import RelayDesk.Main
import RelayDesk.Number.Binary64
import RelayDesk.Number.Decimal
import RelayDesk.Number.Shortest
import RelayDesk.Number.Whole
import RelayDesk.Proofs.Action.Accessors
import RelayDesk.Proofs.Action.Age
import RelayDesk.Proofs.Action.Agreement
import RelayDesk.Proofs.Action.BareResult
import RelayDesk.Proofs.Action.Blocking
import RelayDesk.Proofs.Action.CallText
import RelayDesk.Proofs.Action.DirectRead
import RelayDesk.Proofs.Action.Discipline
import RelayDesk.Proofs.Action.Failure
import RelayDesk.Proofs.Action.Fields
import RelayDesk.Proofs.Action.Nulls
import RelayDesk.Proofs.Action.Persistence
import RelayDesk.Proofs.Action.Provenance
import RelayDesk.Proofs.Action.ProviderName
import RelayDesk.Proofs.Action.Question
import RelayDesk.Proofs.Action.QuoteSpelling
import RelayDesk.Proofs.Action.Registration
import RelayDesk.Proofs.Action.Registry
import RelayDesk.Proofs.Action.RequestText
import RelayDesk.Proofs.Action.Serving
import RelayDesk.Proofs.Action.Spellings
import RelayDesk.Proofs.Action.SwapAmount
import RelayDesk.Proofs.Action.TextKey
import RelayDesk.Proofs.Action.ValueSpelling
import RelayDesk.Proofs.Action.Wire
import RelayDesk.Proofs.Action.Writes
import RelayDesk.Proofs.App.CommandLine
import RelayDesk.Proofs.App.EntryPoints
import RelayDesk.Proofs.Cache.Agree
import RelayDesk.Proofs.Cache.Canonical
import RelayDesk.Proofs.Cache.Degraded
import RelayDesk.Proofs.Cache.Directory
import RelayDesk.Proofs.Cache.Execute
import RelayDesk.Proofs.Cache.Expiry
import RelayDesk.Proofs.Cache.Key
import RelayDesk.Proofs.Cache.KeyEnds
import RelayDesk.Proofs.Cache.Policy
import RelayDesk.Proofs.Cache.Question
import RelayDesk.Proofs.Cache.Record
import RelayDesk.Proofs.Cache.TextKey
import RelayDesk.Proofs.Cache.Url
import RelayDesk.Proofs.Except
import RelayDesk.Proofs.Json.Before
import RelayDesk.Proofs.Json.Blanks
import RelayDesk.Proofs.Json.Integer
import RelayDesk.Proofs.Json.Leaves
import RelayDesk.Proofs.Json.Nesting
import RelayDesk.Proofs.Json.Parts
import RelayDesk.Proofs.Json.RoundTrip
import RelayDesk.Proofs.Json.Shape
import RelayDesk.Proofs.Json.ShapeSound
import RelayDesk.Proofs.Json.Sound
import RelayDesk.Proofs.Json.Spelt
import RelayDesk.Proofs.Json.Taken
import RelayDesk.Proofs.Json.Unique
import RelayDesk.Proofs.Json.Value
import RelayDesk.Proofs.Json.WholeText
import RelayDesk.Proofs.Json.Zones
import RelayDesk.Proofs.Keyed
import RelayDesk.Proofs.Number.Whole
import RelayDesk.Proofs.Quote.Amount
import RelayDesk.Proofs.Quote.AmountText
import RelayDesk.Proofs.Quote.Bridge
import RelayDesk.Proofs.Quote.Deduction
import RelayDesk.Proofs.Quote.Dominance
import RelayDesk.Proofs.Quote.ExactOutput
import RelayDesk.Proofs.Quote.Independence
import RelayDesk.Proofs.Quote.Meaning
import RelayDesk.Proofs.Quote.NeededInput
import RelayDesk.Proofs.Quote.Pricing
import RelayDesk.Proofs.Quote.Provider
import RelayDesk.Proofs.Quote.Selection
import RelayDesk.Proofs.Quote.Swap
import RelayDesk.Proofs.Quote.Tier
import RelayDesk.Proofs.Rpc.Excerpt
import RelayDesk.Proofs.Rpc.Judgement
import RelayDesk.Proofs.Rpc.Method
import RelayDesk.Proofs.Rpc.Request
import RelayDesk.Proofs.Text.Case
import RelayDesk.Proofs.Text.Digits
import RelayDesk.Proofs.Text.Trim
import RelayDesk.Quote.Amount
import RelayDesk.Quote.Chain
import RelayDesk.Quote.Fault
import RelayDesk.Quote.Kind
import RelayDesk.Quote.Provider
import RelayDesk.Quote.Request
import RelayDesk.Quote.Row
import RelayDesk.Quote.Select
import RelayDesk.Rpc.Failure
import RelayDesk.Rpc.Method
import RelayDesk.Rpc.Reply
import RelayDesk.Rpc.Request
import RelayDesk.Text.Basic
import RelayDesk.Text.Bytes
import RelayDesk.Text.Case
import RelayDesk.Text.Case.Table
import RelayDesk.Text.Quoted
import RelayDesk.Text.Quoted.Table
