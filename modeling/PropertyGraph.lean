import PropertyGraph.Address.Internet
import PropertyGraph.Address.Numeral
import PropertyGraph.Address.Socket
import PropertyGraph.Bindings
import PropertyGraph.CommandLine
import PropertyGraph.Config.Settings
import PropertyGraph.Config.Source
import PropertyGraph.Decimal.Binary64
import PropertyGraph.Decimal.Digits
import PropertyGraph.Decimal.Shortest
import PropertyGraph.Graph.Entity
import PropertyGraph.Graph.EntityType
import PropertyGraph.Graph.Fault
import PropertyGraph.Graph.Interface
import PropertyGraph.Graph.Operation
import PropertyGraph.Http.Message
import PropertyGraph.Http.Route
import PropertyGraph.Http.Service
import PropertyGraph.Http.Target
import PropertyGraph.Json.Basic
import PropertyGraph.Json.Fault
import PropertyGraph.Json.Lexeme
import PropertyGraph.Json.Number
import PropertyGraph.Json.Reader
import PropertyGraph.Json.Text
import PropertyGraph.Log
import PropertyGraph.Main
import PropertyGraph.NameMap
import PropertyGraph.Proofs.Addresses
import PropertyGraph.Proofs.Atomicity
import PropertyGraph.Proofs.Batches
import PropertyGraph.Proofs.Bodies
import PropertyGraph.Proofs.Cascades
import PropertyGraph.Proofs.Cursors
import PropertyGraph.Proofs.Decoding
import PropertyGraph.Proofs.Deletions
import PropertyGraph.Proofs.Entities
import PropertyGraph.Proofs.Idempotence
import PropertyGraph.Proofs.Isolation
import PropertyGraph.Proofs.JsonLexemes
import PropertyGraph.Proofs.JsonText
import PropertyGraph.Proofs.Kinds
import PropertyGraph.Proofs.Lines
import PropertyGraph.Proofs.Listings
import PropertyGraph.Proofs.Messages
import PropertyGraph.Proofs.Mutations
import PropertyGraph.Proofs.Pages
import PropertyGraph.Proofs.Pairing
import PropertyGraph.Proofs.Partitions
import PropertyGraph.Proofs.Paths
import PropertyGraph.Proofs.Reachability
import PropertyGraph.Proofs.ReadAfterWrite
import PropertyGraph.Proofs.Relisting
import PropertyGraph.Proofs.Removals
import PropertyGraph.Proofs.Representation
import PropertyGraph.Proofs.Selections
import PropertyGraph.Proofs.Serializability
import PropertyGraph.Proofs.Tiling
import PropertyGraph.Proofs.Totals
import PropertyGraph.Proofs.Traversals
import PropertyGraph.Proofs.Utf8
import PropertyGraph.Proofs.Windows
import PropertyGraph.Proofs.Writes
import PropertyGraph.Request.Batch
import PropertyGraph.Request.Body
import PropertyGraph.Request.Endpoint
import PropertyGraph.Request.Error
import PropertyGraph.Request.Page
import PropertyGraph.Request.Pairing
import PropertyGraph.Request.Path
import PropertyGraph.Request.Window
import PropertyGraph.Store.Basic
import PropertyGraph.Store.Commit
import PropertyGraph.Store.Naming
import PropertyGraph.Store.Partition
import PropertyGraph.Store.Table
import PropertyGraph.Store.Transaction
import PropertyGraph.Store.Traversal
import PropertyGraph.Store.TraversalSpec
import PropertyGraph.Text.Alphanumeric
import PropertyGraph.Text.Blank
import PropertyGraph.Text.Fields
import PropertyGraph.Text.Invisible
import PropertyGraph.Text.Percent
import PropertyGraph.Text.Quoted
import PropertyGraph.Text.Ranges
import PropertyGraph.Text.Utf8
import PropertyGraph.Toml.DateTime
import PropertyGraph.Toml.Document
import PropertyGraph.Toml.Quoted
import PropertyGraph.Toml.Reader
import PropertyGraph.Toml.Scalar
import PropertyGraph.Toml.Table
import PropertyGraph.Toml.Token
import PropertyGraph.Toml.Value
import PropertyGraph.Total
