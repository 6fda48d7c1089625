import PointerHelpers.Output.Receiver
import PointerHelpers.Report.Basic
import PointerHelpers.Main
import PointerHelpers.Proofs.Catalogue.Acceptance
import PointerHelpers.Proofs.Template.Acceptance
import PointerHelpers.Proofs.Template.Lines
import PointerHelpers.Proofs.Template.Reading
import PointerHelpers.Proofs.Template.Margins
import PointerHelpers.Proofs.Template.Layout
import PointerHelpers.Proofs.Document.TemplateTrees
import PointerHelpers.Proofs.Document.DocumentText
import PointerHelpers.Proofs.Document.Generation
import PointerHelpers.Proofs.Document.DocumentLines
import PointerHelpers.Proofs.Catalogue.RequiredReferences
import PointerHelpers.Proofs.Document.Declarations
import PointerHelpers.Proofs.Document.Imports
import PointerHelpers.Proofs.Template.IncludeDepth
import PointerHelpers.Proofs.Template.Inlining
import PointerHelpers.Proofs.Catalogue.FunctionNames
import PointerHelpers.Proofs.Document.ReadBack
import PointerHelpers.Proofs.Template.Concatenation
import PointerHelpers.Proofs.Template.RoundTrip
import PointerHelpers.Proofs.Template.FlatScope
import PointerHelpers.Proofs.Template.Execution
import PointerHelpers.Proofs.Template.SameShape
import PointerHelpers.Proofs.Template.RelatedRenderings
import PointerHelpers.Proofs.Template.ScopeEquality
import PointerHelpers.Proofs.Template.MentionedNames
import PointerHelpers.Proofs.Template.Definitions
import PointerHelpers.Proofs.Template.LargerSets
import PointerHelpers.Proofs.CommandLine.Requests
import PointerHelpers.Proofs.CommandLine.Runs
import PointerHelpers.Proofs.Catalogue.Blame
import PointerHelpers.Proofs.Template.FaultOrigins
import PointerHelpers.Proofs.Files.Devices
import PointerHelpers.Proofs.Files.Opening
import PointerHelpers.Proofs.Files.Writes
import PointerHelpers.Proofs.Document.RefusedOutput
import PointerHelpers.Proofs.Document.Regeneration
import PointerHelpers.Proofs.Document.EmptyLocalNames
import PointerHelpers.Proofs.Catalogue.DeclaredNames
import PointerHelpers.Proofs.Template.ScopeBindings
import PointerHelpers.Proofs.Template.Slices
import PointerHelpers.Proofs.Template.CursorLoop
import PointerHelpers.Proofs.Template.CursorBounds
import PointerHelpers.Proofs.Template.NormalForm
