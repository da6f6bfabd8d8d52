import ContentHub.Command.Grammar
import ContentHub.Command.Run
import ContentHub.Command.Usage
import ContentHub.Config
import ContentHub.Decimal.Basic
import ContentHub.Decimal.Binary64
import ContentHub.Provider.Password
import ContentHub.Entries
import ContentHub.Error
import ContentHub.Files.Basic
import ContentHub.Files.Path
import ContentHub.Json.Basic
import ContentHub.Json.Escapes
import ContentHub.Json.Printer
import ContentHub.Json.Reader
import ContentHub.Json.Relaxed
import ContentHub.Json.Shape
import ContentHub.Lookup
import ContentHub.Main
import ContentHub.Pipeline
import ContentHub.Proofs.Files.Directories
import ContentHub.Proofs.Json.Storable
import ContentHub.Proofs.Store.Rows
import ContentHub.Proofs.Store.Walk
import ContentHub.Provider.Basic
import ContentHub.Provider.Document
import ContentHub.Query.Basic
import ContentHub.Query.Document
import ContentHub.Query.Form
import ContentHub.Query.Request
import ContentHub.Query.Wildcard
import ContentHub.Store.Database
import ContentHub.Store.Collection
import ContentHub.Store.Connection
import ContentHub.Store.Label
import ContentHub.Store.Leftovers
import ContentHub.Store.Locator
import ContentHub.Store.Path
import ContentHub.Text.Basic
import ContentHub.Text.Natural
import ContentHub.Text.Quoted
import ContentHub.Toml.Basic
import ContentHub.Toml.Number
import ContentHub.Toml.Printer
import ContentHub.Toml.Reader
import ContentHub.Toml.Strings
import ContentHub.Toml.Table
import ContentHub.Proofs.Store.Engine
import ContentHub.Proofs.Store.Opening
import ContentHub.Proofs.Store.Refinement
import ContentHub.Proofs.Store.Search
import ContentHub.Proofs.Lookup.Source
import ContentHub.Proofs.Lookup.Provider
import ContentHub.Proofs.Lookup.Access
import ContentHub.Proofs.Provider.Acceptance
import ContentHub.Proofs.Lookup.ContentType
import ContentHub.Proofs.Lookup.TypedView
import ContentHub.Proofs.Lookup.Agreement
import ContentHub.Proofs.Lookup.Soundness
import ContentHub.Proofs.Provider.Kept
import ContentHub.Proofs.Provider.Canonical
import ContentHub.Proofs.ErrorKinds
import ContentHub.Proofs.Query.Canonical
import ContentHub.Proofs.Query.Form
import ContentHub.Proofs.Query.Request
import ContentHub.Proofs.Query.Document
import ContentHub.Proofs.Pipeline
import ContentHub.Proofs.Query.Runs
import ContentHub.Proofs.Query.Simplifying
import ContentHub.Proofs.Command.Documents
import ContentHub.Proofs.Query.Numbers
import ContentHub.Proofs.Pipeline.Composition
import ContentHub.Proofs.Pipeline.Registration
import ContentHub.Proofs.Command.Imports
import ContentHub.Proofs.Command.Parameters
import ContentHub.Proofs.Provider.ContentId
import ContentHub.Proofs.Store.Listing
import ContentHub.Proofs.Store.Damage
import ContentHub.Proofs.Digest.Sha256
import ContentHub.Proofs.Provider.Password
import ContentHub.Proofs.Store.Labelling
