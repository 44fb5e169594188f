import LineTemplate.Main
import LineTemplate.Files.Tree
import LineTemplate.Preprocessor
import LineTemplate.Proofs.Block.Exclusion
import LineTemplate.Proofs.Expression.Scoping
import LineTemplate.Proofs.Expression.Writing
import LineTemplate.Proofs.Run.Termination
import LineTemplate.Proofs.Template.Refinement
import LineTemplate.Proofs.Block.Suppression
import LineTemplate.Proofs.Run.Failure
import LineTemplate.Proofs.Markers
import LineTemplate.Proofs.Run.Binding
import LineTemplate.Proofs.Run.Derived
import LineTemplate.Proofs.Run.Suppression
import LineTemplate.Proofs.Loop.Budget
import LineTemplate.Proofs.Run.Positions
import LineTemplate.Proofs.Expression.Exactness
import LineTemplate.Proofs.Run.Inclusion
import LineTemplate.Proofs.Run.Nesting
import LineTemplate.Proofs.Run.Composition
import LineTemplate.Proofs.Run.Lockstep
import LineTemplate.Proofs.Expression.Runs
import LineTemplate.Proofs.Expression.Injection
import LineTemplate.Proofs.Run.Diagnosis
import LineTemplate.Proofs.Run.Splicing
import LineTemplate.Proofs.Markers.Replacement
import LineTemplate.Proofs.Loop.Range
import LineTemplate.Proofs.Value.Arithmetic
import LineTemplate.Proofs.Value.Order
import LineTemplate.Proofs.Expression.LoneName
import LineTemplate.Proofs.Run.Presence
import LineTemplate.Proofs.Expression.Rendering
import LineTemplate.Proofs.Value.Coherence
import LineTemplate.Proofs.Expression.Wordless
import LineTemplate.Proofs.Expression.Known
import LineTemplate.Proofs.Expression.Depth
import LineTemplate.Proofs.Loop.Listing
import LineTemplate.Proofs.Definitions
import LineTemplate.Proofs.Run.Passthrough
import LineTemplate.Proofs.Run.LineEnding
import LineTemplate.Proofs.Run.Listed
import LineTemplate.Proofs.Line.Readings
