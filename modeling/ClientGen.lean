import ClientGen.Main
import ClientGen.Record.Assignment
import ClientGen.Proofs.Templates
import ClientGen.Proofs.Issues
import ClientGen.Proofs.Prediction
import ClientGen.Proofs.Order
import ClientGen.Proofs.Declarations
import ClientGen.Proofs.Members
import ClientGen.Proofs.Names
import ClientGen.Proofs.Literals
import ClientGen.Proofs.Locations
import ClientGen.Proofs.Paths
import ClientGen.Proofs.Writing
import ClientGen.Proofs.Output
import ClientGen.Proofs.Reports
import ClientGen.Proofs.Extension
import ClientGen.Proofs.Tokens
import ClientGen.Proofs.Refusals
import ClientGen.Proofs.Shorthands
import ClientGen.Proofs.Modes
import ClientGen.Proofs.Reordering
import ClientGen.Proofs.Leniency
import ClientGen.Proofs.Lines
import ClientGen.Proofs.StructText
import ClientGen.Proofs.CaseImages
import ClientGen.Proofs.RequestText
import ClientGen.Proofs.Callbacks
import ClientGen.Proofs.Brackets
import ClientGen.Proofs.Nesting
import ClientGen.Proofs.Sequences
import ClientGen.Proofs.DryRuns
import ClientGen.Proofs.Readings
import ClientGen.Proofs.Settings
import ClientGen.Proofs.Spellings
import ClientGen.Proofs.Steps
import ClientGen.Proofs.Exits
import ClientGen.Proofs.References
import ClientGen.Proofs.WireNames
import ClientGen.Proofs.Replacing
import ClientGen.Proofs.Regeneration
import ClientGen.Proofs.NameLists
import ClientGen.Proofs.DeclaredTypes
import ClientGen.Proofs.Depths
import ClientGen.Proofs.Renames
import ClientGen.Proofs.Indentation
import ClientGen.Proofs.Fragments
import ClientGen.Proofs.Clashes
import ClientGen.Proofs.Additions
