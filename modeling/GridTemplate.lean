import GridTemplate.Key
import GridTemplate.Recipe.Reader
import GridTemplate.Sheet.Bindings
import GridTemplate.Proofs.Sequence.Discipline
import GridTemplate.Proofs.Sequence.Layers
import GridTemplate.Proofs.Sequence.Routine
import GridTemplate.Proofs.Walk.Reachable
import GridTemplate.Proofs.Sequence.Elements
import GridTemplate.Proofs.Sequence.Unbounded
import GridTemplate.Proofs.Sequence.Ceiling
import GridTemplate.Proofs.Sequence.Exact
import GridTemplate.Proofs.Sequence.Modes
import GridTemplate.Proofs.Path.Decomposition
import GridTemplate.Proofs.Cell.Numerals
import GridTemplate.Proofs.Cell.References
import GridTemplate.Proofs.Descriptor.Writing
import GridTemplate.Proofs.Region.Cells
import GridTemplate.Proofs.Catalog.Overlaps
import GridTemplate.Proofs.Sheet.Lenient
import GridTemplate.Proofs.Walk.Moves
import GridTemplate.Proofs.Cell.Canonical
import GridTemplate.Proofs.Sheet.Strict
import GridTemplate.Proofs.Sequence.Cells
import GridTemplate.Proofs.Catalog.Coverage
import GridTemplate.Proofs.Sheet.Membership
import GridTemplate.Proofs.Region.Intersection
import GridTemplate.Proofs.Descriptor.Shapes
import GridTemplate.Proofs.Catalog.Rearranged
import GridTemplate.Proofs.Sheet.Order
import GridTemplate.Proofs.Catalog.Index
import GridTemplate.Proofs.Sheet.Templates
import GridTemplate.Proofs.Sequence.Indices
import GridTemplate.Proofs.Path.Nested
import GridTemplate.Proofs.Sequence.Depth
import GridTemplate.Proofs.Sequence.Split
import GridTemplate.Proofs.FieldMap.Stems
import GridTemplate.Proofs.Cell.Faults
import GridTemplate.Proofs.Descriptor.Geometry
import GridTemplate.Proofs.Sequence.Turns
import GridTemplate.Proofs.Cell.Columns
import GridTemplate.Proofs.Region.Sizes
import GridTemplate.Proofs.Walk.Tiling
import GridTemplate.Proofs.Key.Tokens
import GridTemplate.Proofs.Path.Parts
import GridTemplate.Proofs.Sequence.Records
import GridTemplate.Proofs.Walk.Steps
import GridTemplate.Proofs.Recipe.Readers
