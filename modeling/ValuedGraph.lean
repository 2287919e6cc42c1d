import ValuedGraph.Main
import ValuedGraph.Proofs.Model.Equations
import ValuedGraph.Proofs.Model.Failures
import ValuedGraph.Proofs.Graph.Cycles
import ValuedGraph.Proofs.Graph.Queries
import ValuedGraph.Proofs.Model.WellFormed
import ValuedGraph.Proofs.Expr.Partial
import ValuedGraph.Proofs.Model.Timeliness
import ValuedGraph.Proofs.Model.Agreement
import ValuedGraph.Proofs.Expr.Violations
import ValuedGraph.Proofs.Model.Correspondence
import ValuedGraph.Proofs.Model.Locality
import ValuedGraph.Proofs.Model.Interference
import ValuedGraph.Proofs.Model.Acceptable
import ValuedGraph.Proofs.Model.Reordering
import ValuedGraph.Proofs.Model.Closure
import ValuedGraph.Proofs.Document.Parts
import ValuedGraph.Proofs.Expr.Parsing
import ValuedGraph.Proofs.Draft.Contents
import ValuedGraph.Proofs.Definition.Faults
import ValuedGraph.Proofs.Definition.Imports
import ValuedGraph.Proofs.Definition.Inheritance
import ValuedGraph.Proofs.Definition.Merging
import ValuedGraph.Proofs.Definition.EdgeSyntax
import ValuedGraph.Proofs.Expr.Needs
import ValuedGraph.Proofs.Model.Expansion
import ValuedGraph.Proofs.Model.TagInheritance
import ValuedGraph.Proofs.Expr.Renaming
import ValuedGraph.Proofs.Expr.Slots
import ValuedGraph.Proofs.Expr.Reading
import ValuedGraph.Proofs.Expr.Substitution
import ValuedGraph.Proofs.Expr.Faults
import ValuedGraph.Proofs.Model.Drawing
import ValuedGraph.Proofs.Number.Integers
import ValuedGraph.Proofs.HexColor
import ValuedGraph.Proofs.Model.Repetition
import ValuedGraph.Proofs.Model.RootOverrides
import ValuedGraph.Proofs.Definition.Editing
import ValuedGraph.Proofs.Model.Neighbours
import ValuedGraph.Proofs.ColorTexts
import ValuedGraph.Proofs.Packing
import ValuedGraph.Proofs.Expr.EvaluationOrder
import ValuedGraph.Proofs.Definition.CoreLibrary
import ValuedGraph.Proofs.Expr.Occurrences
