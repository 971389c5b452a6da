import Stencil.CallStack
import Stencil.Capability
import Stencil.Codec
import Stencil.Codec.Chart
import Stencil.Codec.Chinese
import Stencil.Codec.Domain
import Stencil.Codec.Japanese
import Stencil.Codec.Korean
import Stencil.Codec.Multibyte
import Stencil.Codec.Nameprep
import Stencil.Codec.Names
import Stencil.Codec.Page
import Stencil.Codec.Shifting
import Stencil.Codec.Traditional
import Stencil.Codec.Transfer
import Stencil.Context
import Stencil.Environment
import Stencil.Error
import Stencil.Error.Class
import Stencil.Error.Record
import Stencil.Error.Report
import Stencil.Fault
import Stencil.Filter
import Stencil.Filter.Array
import Stencil.Filter.General
import Stencil.Filter.Number
import Stencil.Filter.Operand
import Stencil.Filter.Text
import Stencil.Function
import Stencil.Lineage
import Stencil.Location
import Stencil.Loop
import Stencil.Moment
import Stencil.Node
import Stencil.Number.Basic
import Stencil.Number.Binary64
import Stencil.Number.Numeral
import Stencil.Number.Shortest
import Stencil.Pattern
import Stencil.Pattern.Fold
import Stencil.Pattern.Match
import Stencil.Pattern.Parse
import Stencil.Pattern.Program
import Stencil.Pattern.Search
import Stencil.Render
import Stencil.Render.Eval
import Stencil.Render.Exec
import Stencil.Render.Operator
import Stencil.Render.State
import Stencil.RunSort
import Stencil.Sink
import Stencil.Table
import Stencil.Template
import Stencil.Tester
import Stencil.Text.Blank
import Stencil.Text.Case
import Stencil.Text.Case.Table
import Stencil.Text.CharName
import Stencil.Text.CharName.Alias
import Stencil.Text.CharName.BasicPlane
import Stencil.Text.CharName.OtherPlanes
import Stencil.Text.CharName.Run
import Stencil.Text.Closest
import Stencil.Text.Digit
import Stencil.Text.Escape
import Stencil.Text.Identifier
import Stencil.Text.Percent
import Stencil.Text.Printable
import Stencil.Text.Quoted
import Stencil.Text.Range
import Stencil.Text.Search
import Stencil.Text.Styling
import Stencil.Text.Tags
import Stencil.Text.Word
import Stencil.Text.Words
import Stencil.Toolkit
import Stencil.Value
import Stencil.Value.Display
import Stencil.Value.Equality
import Stencil.Value.Inspect
import Stencil.Value.Json
import Stencil.Value.Order
import Stencil.Value.Path
import Stencil.Proofs.Lineage
import Stencil.Proofs.History
import Stencil.Proofs.Plain
import Stencil.Proofs.Simulation.Basic
import Stencil.Proofs.Simulation.Eval
import Stencil.Proofs.Simulation.Exec
import Stencil.Proofs.Simulation.Nesting
import Stencil.Proofs.Isolation
import Stencil.Proofs.Code
import Stencil.Proofs.RunSort
import Stencil.Proofs.Clean
import Stencil.Proofs.Passing
import Stencil.Proofs.Reach
import Stencil.Proofs.Refusals
import Stencil.Proofs.Escaping
import Stencil.Proofs.Proper
import Stencil.Proofs.Inheritance
import Stencil.Proofs.Level
import Stencil.Proofs.Hygiene
import Stencil.Proofs.Discipline
import Stencil.Proofs.Definition
import Stencil.Proofs.Termination
import Stencil.Proofs.Flow
import Stencil.Proofs.Fragment
import Stencil.Proofs.Places
import Stencil.Proofs.Streaming
import Stencil.Proofs.Simulation.Following
import Stencil.Proofs.Steady
import Stencil.Proofs.Interruption
import Stencil.Proofs.Values
import Stencil.Proofs.References
import Stencil.Proofs.Extension
import Stencil.Proofs.Merging
import Stencil.Proofs.Agreement
import Stencil.Proofs.Transparent
import Stencil.Proofs.Unrelated
import Stencil.Proofs.Ground
import Stencil.Proofs.Purity
import Stencil.Proofs.Loops
import Stencil.Proofs.Access
import Stencil.Proofs.Keyed
import Stencil.Proofs.Spelling
import Stencil.Proofs.Membership
import Stencil.Proofs.Sorting
import Stencil.Proofs.Binding
import Stencil.Proofs.Lookup
import Stencil.Proofs.Nested
import Stencil.Proofs.Settling
import Stencil.Proofs.Residue
import Stencil.Proofs.Ancestry
import Stencil.Proofs.Indexing
import Stencil.Proofs.Distinct
import Stencil.Proofs.Leniency
import Stencil.Proofs.Visibility
import Stencil.Proofs.Equality
import Stencil.Proofs.Connectives
import Stencil.Proofs.Innermost
import Stencil.Proofs.Lines
import Stencil.Proofs.Grouping
import Stencil.Proofs.OrderedMap
import Stencil.Proofs.Registry
import Stencil.Proofs.Styling
import Stencil.Proofs.Bare
import Stencil.Proofs.Decoration
import Stencil.Proofs.Colouring
import Stencil.Proofs.Slicing
import Stencil.Proofs.Stripping
import Stencil.Proofs.Pieces
import Stencil.Proofs.Rounding
import Stencil.Proofs.Decimals
import Stencil.Proofs.Truncation
import Stencil.Proofs.Entities
