import GuidedXml.Table
import GuidedXml.Text.Blank
import GuidedXml.Text.Cut
import GuidedXml.Number.Reading
import GuidedXml.Number.Shortest
import GuidedXml.Document.Subtree
import GuidedXml.Path
import GuidedXml.Markup.Reading
import GuidedXml.Markup.Writing
import GuidedXml.Diagnostic
import GuidedXml.Rule.File
import GuidedXml.Pattern.Reading
import GuidedXml.Schema.Expansion
import GuidedXml.Schema.Validity
import GuidedXml.Editing.Claims
import GuidedXml.Editing.Notice
import GuidedXml.Editing.Verdict
import GuidedXml.Editing.Outline
import GuidedXml.Editing.Workspace.Binding
import GuidedXml.Editing.Workspace.Creation
import GuidedXml.Editing.Session.Opening
import GuidedXml.Editing.Settings
import GuidedXml.Proofs.Pattern.Building
import GuidedXml.Proofs.Pattern.Encoding
import GuidedXml.Proofs.Document.Surroundings
import GuidedXml.Proofs.Document.Replacement
import GuidedXml.Proofs.Markup.Reading
import GuidedXml.Proofs.Markup.RoundTrip
import GuidedXml.Proofs.Editing.Staleness
import GuidedXml.Proofs.Conformance.Choosing
import GuidedXml.Proofs.Document.Showing
import GuidedXml.Proofs.Editing.Outlining
import GuidedXml.Proofs.Editing.Building
import GuidedXml.Proofs.Conformance.Labels
import GuidedXml.Proofs.Editing.Claiming
import GuidedXml.Proofs.Editing.Queues
import GuidedXml.Proofs.Editing.Tracing
import GuidedXml.Proofs.Editing.Moves
import GuidedXml.Proofs.Editing.Undoing
import GuidedXml.Proofs.Editing.Requests
import GuidedXml.Proofs.Conformance.Upkeep
import GuidedXml.Proofs.Editing.Mirroring
import GuidedXml.Proofs.Editing.Registry
import GuidedXml.Proofs.Conformance.Kempt
import GuidedXml.Proofs.Conformance.Ownership
import GuidedXml.Proofs.Conformance.Agreement
import GuidedXml.Proofs.Conformance.Refusal
import GuidedXml.Proofs.Rule.Following
import GuidedXml.Proofs.Rule.Notifying
import GuidedXml.Proofs.Editing.Referring
import GuidedXml.Proofs.Conformance.Rebinding
import GuidedXml.Proofs.Conformance.Unrefused
import GuidedXml.Proofs.Document.Stepwise
import GuidedXml.Proofs.Conformance.Bound
import GuidedXml.Proofs.Conformance.Unbinding
import GuidedXml.Proofs.Conformance.Uses
import GuidedXml.Proofs.Conformance.Legality
import GuidedXml.Proofs.Conformance.Saving
import GuidedXml.Proofs.Conformance.Halfway
import GuidedXml.Proofs.Conformance.Fitting
import GuidedXml.Proofs.Rule.Relevance
import GuidedXml.Proofs.Rule.Waiting
import GuidedXml.Proofs.Literal.Completeness
import GuidedXml.Proofs.Schema.WellFormed
import GuidedXml.Proofs.Schema.Inclusion
import GuidedXml.Proofs.Document.Selection
import GuidedXml.Proofs.Rule.References
import GuidedXml.Proofs.Literal.Layout
import GuidedXml.Proofs.Schema.Shadowing
import GuidedXml.Proofs.Schema.Lists
import GuidedXml.Proofs.Schema.Digits
import GuidedXml.Proofs.Markup.NormalForm
import GuidedXml.Proofs.Path.Rendering
import GuidedXml.Proofs.Literal.Dependence
import GuidedXml.Proofs.Conformance.Revalidation
