import NodeGraph.CommandLine.Execution
import NodeGraph.Graph.Cycle
import NodeGraph.Main
import NodeGraph.Proofs.Generation.Feasibility
import NodeGraph.Proofs.Generation.Source
import NodeGraph.Proofs.Graph.EmissionOrder
import NodeGraph.Proofs.Graph.Reachability
import NodeGraph.Proofs.Store.Failure
import NodeGraph.Proofs.Store.Fields
import NodeGraph.Proofs.Store.Saving
import NodeGraph.Proofs.Validation.Exactness
import NodeGraph.Proofs.Number.Overflow
import NodeGraph.Proofs.Validation.Completion
import NodeGraph.Proofs.Generation.Naming
import NodeGraph.Proofs.Registry.History
import NodeGraph.Proofs.Registry.Documents
import NodeGraph.Proofs.Store.Reopening
import NodeGraph.Proofs.Generation.Rearrangement
import NodeGraph.Proofs.Graph.Stability
import NodeGraph.Proofs.Registry.Reporting
import NodeGraph.Proofs.Validation.Cycles
import NodeGraph.Proofs.CommandLine.Editing
import NodeGraph.Proofs.Generation.Substitution
import NodeGraph.Proofs.Generation.Uniformity
import NodeGraph.Proofs.Validation.Reports
import NodeGraph.Proofs.Graph.Following
import NodeGraph.Proofs.Generation.Commented
import NodeGraph.Proofs.Generation.Grammar
import NodeGraph.Proofs.Generation.Recognition
import NodeGraph.Proofs.Validation.ShownCycles
import NodeGraph.Proofs.Hook.Identifier
import NodeGraph.Proofs.Hook.Literal
import NodeGraph.Proofs.Store.Connecting
import NodeGraph.Proofs.Store.Queries
import NodeGraph.Proofs.Store.Deleting
import NodeGraph.Proofs.Registry.Reloading
import NodeGraph.Proofs.Registry.Separators
import NodeGraph.Proofs.Graph.Planning
import NodeGraph.Proofs.Store.Marks
import NodeGraph.Proofs.Store.Updating
import NodeGraph.Proofs.Store.Interchange
