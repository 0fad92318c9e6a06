import LiveMarkup.Coalescer.Schedule
import LiveMarkup.Main
import LiveMarkup.Path.Normal
import LiveMarkup.Project.Session
import LiveMarkup.Proofs.Markup.Identification
import LiveMarkup.Proofs.OrderedMap
import LiveMarkup.Proofs.Path
import LiveMarkup.Proofs.Project.Registry
import LiveMarkup.Proofs.Project.Session
import LiveMarkup.Proofs.Project.Edit
import LiveMarkup.Proofs.Markup.Stripping
import LiveMarkup.Proofs.Project.Agreement
import LiveMarkup.Proofs.Markup.Equality
import LiveMarkup.Proofs.Project.Currency
import LiveMarkup.Proofs.Project.Round
import LiveMarkup.Proofs.Project.Chronicle
import LiveMarkup.Proofs.Coalescer.Interleaving
import LiveMarkup.Proofs.Coalescer.Delivery
import LiveMarkup.Proofs.Project.Coherence
import LiveMarkup.Proofs.Project.Load
import LiveMarkup.Proofs.Markup.Reidentification
import LiveMarkup.Proofs.Property.Patch
import LiveMarkup.Proofs.Markup.Splice
import LiveMarkup.Proofs.Markup.Replacement
import LiveMarkup.Proofs.Project.Lookup
import LiveMarkup.Proofs.Project.Stability
import LiveMarkup.Proofs.Syntax.StringLiteral
import LiveMarkup.Proofs.Markup.Place
import LiveMarkup.Proofs.Markup.Surroundings
import LiveMarkup.Proofs.Markup.Finders
import LiveMarkup.Proofs.Markup.Rereading
import LiveMarkup.Proofs.Markup.Shape
import LiveMarkup.Proofs.Property.Merging
import LiveMarkup.Proofs.Property.StyleEdit
import LiveMarkup.Proofs.Markup.Idempotence
import LiveMarkup.Proofs.Markup.Recovery
import LiveMarkup.Proofs.Property.Addressing
import LiveMarkup.Proofs.Property.WriteBack
import LiveMarkup.Proofs.Markup.Links
import LiveMarkup.Proofs.Markup.Forest
import LiveMarkup.Proofs.Project.Finding
import LiveMarkup.Proofs.Project.Echo
import LiveMarkup.Proofs.Coalescer.Wakefulness
import LiveMarkup.Proofs.Coalescer.Ledger
import LiveMarkup.Proofs.Coalescer.Punctuality
import LiveMarkup.Proofs.Component.Inventory
import LiveMarkup.Proofs.Project.Artifact
import LiveMarkup.Proofs.Project.Interference
import LiveMarkup.Proofs.Project.Versions
import LiveMarkup.Proofs.Project.Notification
import LiveMarkup.Proofs.Project.Coalescing
import LiveMarkup.Proofs.Property.Locality
import LiveMarkup.Proofs.Property.ReadBack
import LiveMarkup.Proofs.Property.Succession
import LiveMarkup.Proofs.Markup.Reuse
import LiveMarkup.Proofs.Component.DefaultExport
import LiveMarkup.Proofs.Text.ByteOrder
import LiveMarkup.Proofs.Json.Quoted
import LiveMarkup.Proofs.Component.Rendering
import LiveMarkup.Proofs.Property.Accounting
import LiveMarkup.Proofs.Property.Insertion
import LiveMarkup.Proofs.Path.Below
import LiveMarkup.Proofs.Path.Normal
import LiveMarkup.Proofs.Store.Ignoring
import LiveMarkup.Proofs.Json.Numeral
import LiveMarkup.Proofs.Json.RoundTrip
import LiveMarkup.Proofs.Json.Fields
import LiveMarkup.Proofs.Property.Wire
import LiveMarkup.Proofs.Project.Message
