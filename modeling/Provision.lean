import Provision.Main
import Provision.Session.InMemory
import Provision.Text.Lossy
import Provision.Proofs.Session.InMemory
import Provision.Proofs.Document.Registry
import Provision.Proofs.Document.Insertion
import Provision.Proofs.Command.Batch
import Provision.Proofs.Command.Agreement
import Provision.Proofs.Session.Exchanges
import Provision.Proofs.Session.UpsertTrace
import Provision.Proofs.Json.Numerals
import Provision.Proofs.Json.Shape
import Provision.Proofs.Json.Rereading
import Provision.Proofs.Document.File
import Provision.Proofs.Run.Offline
import Provision.Proofs.Command.Convergence
import Provision.Proofs.Command.Independence
import Provision.Proofs.Entry.Normalisation
import Provision.Proofs.Entry.Rereading
import Provision.Proofs.Command.Order
import Provision.Proofs.Files.Interruption
import Provision.Proofs.Document.Interruption
import Provision.Proofs.Configuration.Faults
import Provision.Proofs.Configuration.Headers
import Provision.Proofs.Run.Rehearsal
import Provision.Proofs.Configuration.Resolution
import Provision.Proofs.Configuration.Precedence
import Provision.Proofs.Json.Change
import Provision.Proofs.Document.Effect
import Provision.Proofs.Configuration.WrittenHeader
import Provision.Proofs.Session.Reloading
import Provision.Proofs.Session.Waiting
import Provision.Proofs.Configuration.HeaderOrder
import Provision.Proofs.Configuration.HeaderPrecedence
import Provision.Proofs.CommandLine.Placement
import Provision.Proofs.Address.Text
import Provision.Proofs.Json.Paths
import Provision.Proofs.Document.Location
import Provision.Proofs.Value.Documents
import Provision.Proofs.Resource.Values
import Provision.Proofs.Session.AddRequest
import Provision.Proofs.Document.Carrying
import Provision.Proofs.Resource.Selections
import Provision.Proofs.Resource.Credentials
import Provision.Proofs.Resource.Validation
import Provision.Proofs.Address.History
import Provision.Proofs.Value.Recording
import Provision.Proofs.Value.Flattened
import Provision.Proofs.Entry.Layout
