import NameOutputs.Commitment
import NameOutputs.Output
import NameOutputs.Report
import NameOutputs.Session.Step
import NameOutputs.Proofs.Grammar
import NameOutputs.Proofs.Payment.Preamble
import NameOutputs.Proofs.Agreement
import NameOutputs.Proofs.Text.RoundTrip
import NameOutputs.Proofs.Commitment
import NameOutputs.Proofs.Payment.Classification
import NameOutputs.Proofs.Rejection
import NameOutputs.Proofs.Disjoint
import NameOutputs.Proofs.Session.Frozen
import NameOutputs.Proofs.Session.Guarded
import NameOutputs.Proofs.Text.Survival
import NameOutputs.Proofs.Verdict
import NameOutputs.Proofs.Obstacle
import NameOutputs.Proofs.Session.Comparison
import NameOutputs.Proofs.Extension
import NameOutputs.Proofs.Payment.Finality
import NameOutputs.Proofs.Enumeration.Lookup
import NameOutputs.Proofs.Session.Rendering
import NameOutputs.Proofs.Script
import NameOutputs.Proofs.Text.Boundary
import NameOutputs.Proofs.Text.Utf16
import NameOutputs.Proofs.Binding
import NameOutputs.Proofs.Reporting
import NameOutputs.Session.Hash
import NameOutputs.Proofs.Session.Counting
import NameOutputs.Proofs.Text.Hex
import NameOutputs.Proofs.Wording
