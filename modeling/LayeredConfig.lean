import LayeredConfig.Catalogue.Basic
import LayeredConfig.Catalogue.Custom
import LayeredConfig.Catalogue.Declarations
import LayeredConfig.Catalogue.Engines
import LayeredConfig.Catalogue.Scalars
import LayeredConfig.Configuration.Basic
import LayeredConfig.Configuration.Query
import LayeredConfig.Configuration.Wiring
import LayeredConfig.Derive.Attribute
import LayeredConfig.Derive.Declaration
import LayeredConfig.Derive.Generics
import LayeredConfig.Derive.Implementation
import LayeredConfig.Double
import LayeredConfig.Double.Decimal
import LayeredConfig.Double.Shortest
import LayeredConfig.Evaluation
import LayeredConfig.Failure
import LayeredConfig.Json.Basic
import LayeredConfig.Json.Members
import LayeredConfig.Json.Merge
import LayeredConfig.Json.Number
import LayeredConfig.Json.Reader
import LayeredConfig.Json.Record
import LayeredConfig.Json.Text
import LayeredConfig.Layer
import LayeredConfig.Naming
import LayeredConfig.Path.Document
import LayeredConfig.Path.Fault
import LayeredConfig.Path.Segments
import LayeredConfig.Path.Step
import LayeredConfig.Schema.Basic
import LayeredConfig.Schema.Leaves
import LayeredConfig.Schema.Text
import LayeredConfig.Scope
import LayeredConfig.Scope.Hierarchy
import LayeredConfig.Scope.Text
import LayeredConfig.Snapshot.Basic
import LayeredConfig.Snapshot.Classes
import LayeredConfig.Snapshot.Decimal
import LayeredConfig.Snapshot.Describe
import LayeredConfig.Snapshot.KeyedMap
import LayeredConfig.Snapshot.Read
import LayeredConfig.Snapshot.Type
import LayeredConfig.Snapshot.Value
import LayeredConfig.Snapshot.Write
import LayeredConfig.Source.Environment
import LayeredConfig.Source.Layer
import LayeredConfig.Source.Toml
import LayeredConfig.Stack
import LayeredConfig.Stack.Hierarchy
import LayeredConfig.Store.Address
import LayeredConfig.Store.Edit
import LayeredConfig.Store.Info
import LayeredConfig.Store.Records
import LayeredConfig.Store.Resolution
import LayeredConfig.Store.Update
import LayeredConfig.Text.Character
import LayeredConfig.Text.Quoted
import LayeredConfig.Text.Scenario
import LayeredConfig.Text.Table.Alphanumeric
import LayeredConfig.Text.Table.Extenders
import LayeredConfig.Text.Table.Lowercase
import LayeredConfig.Text.Table.ToLower
import LayeredConfig.Text.Table.ToUpper
import LayeredConfig.Text.Table.Unprintable
import LayeredConfig.Text.Table.Uppercase
import LayeredConfig.Text.Words
import LayeredConfig.Trace.Basic
import LayeredConfig.Trace.Leaves
import LayeredConfig.Trace.Text
import LayeredConfig.Proofs.Documents
import LayeredConfig.Proofs.Laying
import LayeredConfig.Proofs.DocumentLayers
import LayeredConfig.Proofs.Records
import LayeredConfig.Proofs.SnapshotLayers
import LayeredConfig.Proofs.SnapshotMerge
import LayeredConfig.Proofs.Leaves
import LayeredConfig.Proofs.LeftOut
import LayeredConfig.Proofs.SortedSnapshots
import LayeredConfig.Proofs.Traces
import LayeredConfig.Proofs.Attribution
import LayeredConfig.Proofs.TracedScalars
import LayeredConfig.Proofs.Agreement
import LayeredConfig.Proofs.Associativity
import LayeredConfig.Proofs.LeafPlaces
import LayeredConfig.Proofs.LeafListing
import LayeredConfig.Proofs.LeafPaths
import LayeredConfig.Proofs.Assignment
import LayeredConfig.Proofs.Reading
import LayeredConfig.Proofs.RoundTrip
import LayeredConfig.Proofs.Lens
import LayeredConfig.Proofs.Contents
import LayeredConfig.Proofs.Absorption
import LayeredConfig.Proofs.Folding
import LayeredConfig.Proofs.Repetition
import LayeredConfig.Proofs.Stacks
import LayeredConfig.Proofs.Instalments
import LayeredConfig.Proofs.Filling
import LayeredConfig.Proofs.FilledForms
import LayeredConfig.Proofs.Resolution
import LayeredConfig.Proofs.WeakestLayer
import LayeredConfig.Proofs.StoredRecords
import LayeredConfig.Proofs.Updates
import LayeredConfig.Proofs.Addresses
import LayeredConfig.Proofs.Isolation
import LayeredConfig.Proofs.HeldLayers
import LayeredConfig.Proofs.DefaultsBeneath
import LayeredConfig.Proofs.Overlap
import LayeredConfig.Proofs.Relisting
import LayeredConfig.Proofs.DocumentLens
import LayeredConfig.Proofs.WritablePaths
import LayeredConfig.Proofs.NumberTexts
import LayeredConfig.Proofs.DocumentTexts
import LayeredConfig.Proofs.RecordTexts
import LayeredConfig.Proofs.TraceTexts
import LayeredConfig.Proofs.Navigation
import LayeredConfig.Proofs.DescribedLeaves
import LayeredConfig.Proofs.KeyNames
import LayeredConfig.Proofs.KeyedMaps
import LayeredConfig.Proofs.DescribedShapes
import LayeredConfig.Proofs.JoinedPaths
import LayeredConfig.Proofs.ReportedPaths
import LayeredConfig.Proofs.Spellings
