import ParamGrid.Main
import ParamGrid.Proofs.Filter.Grammar
import ParamGrid.Proofs.Filter.Parsing
import ParamGrid.Proofs.Odometer
import ParamGrid.Proofs.Filter.Evaluation
import ParamGrid.Proofs.Engine.Selection
import ParamGrid.Proofs.Engine.Invariant
import ParamGrid.Proofs.Engine.Session
import ParamGrid.Proofs.Engine.Loop
import ParamGrid.Proofs.Engine.Safety
import ParamGrid.Proofs.Engine.Enumeration
import ParamGrid.Proofs.Filter.Composition
import ParamGrid.Proofs.Filter.RoundTrip
import ParamGrid.Proofs.Filter.Renumber
import ParamGrid.Proofs.Arrangement
import ParamGrid.Proofs.Engine.History
import ParamGrid.Proofs.Engine.Construction
import ParamGrid.Proofs.Engine.Acceptance
import ParamGrid.Proofs.Engine.Rearrangement
import ParamGrid.Proofs.Engine.Replacement
import ParamGrid.Proofs.Text.Place
import ParamGrid.Proofs.Filter.Diagnosis
import ParamGrid.Proofs.Filter.Resolution
import ParamGrid.Proofs.Filter.Extension
import ParamGrid.Proofs.Engine.Extension
import ParamGrid.Proofs.Engine.Progress
import ParamGrid.Proofs.Text.ByteOrder
import ParamGrid.Proofs.File.Loading
import ParamGrid.Proofs.File.Blocks
import ParamGrid.Proofs.Json.Layout
import ParamGrid.Proofs.Cli.Listing
import ParamGrid.Proofs.Cli.Checking
import ParamGrid.Proofs.Cli.Search
import ParamGrid.Proofs.File.Entries
import ParamGrid.Proofs.File.Shaping
import ParamGrid.Proofs.Filter.ShortCircuit
import ParamGrid.Proofs.Table
import ParamGrid.Proofs.Engine.Projection
import ParamGrid.Proofs.Engine.Identifier
import ParamGrid.Proofs.Filter.Turns
import ParamGrid.Proofs.Filter.Stack
import ParamGrid.Proofs.Json.Scalars
import ParamGrid.Proofs.Json.Reading
import ParamGrid.Proofs.Value
import ParamGrid.Proofs.Cli.Export
