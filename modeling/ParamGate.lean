import ParamGate.App.Basic
import ParamGate.Proofs.App.Refusal
import ParamGate.Proofs.Gate.Acceptance
import ParamGate.Proofs.Gate.Answer
import ParamGate.Proofs.Endpoint.Registry
import ParamGate.Proofs.Gate.History
import ParamGate.Proofs.Gate.Precedence
import ParamGate.Proofs.Text.Case
import ParamGate.Proofs.Route.Registration
import ParamGate.Proofs.App.Passage
import ParamGate.Proofs.App.Configuration
import ParamGate.Proofs.Gate.DefaultText
import ParamGate.Proofs.App.Arguments
import ParamGate.Proofs.Route.Negotiation
import ParamGate.Proofs.App.Negotiation
import ParamGate.Proofs.Parameter.ArrayShape
import ParamGate.Proofs.Parameter.DigitLimit
import ParamGate.Proofs.Gate.Listing
import ParamGate.Proofs.Parameter.Leaves
import ParamGate.Proofs.Parameter.CommaForm
import ParamGate.Proofs.Parameter.Report
import ParamGate.Proofs.Endpoint.Fallback
import ParamGate.Proofs.Gate.Required
import ParamGate.Proofs.Http.Sources
import ParamGate.Proofs.Exchange.Reply
import ParamGate.Proofs.Gate.Catalogue
import ParamGate.Proofs.Http.Body
import ParamGate.Proofs.Parameter.LeadingInteger
import ParamGate.Proofs.Gate.OwnKey
import ParamGate.Proofs.Gate.Unreadable
import ParamGate.Proofs.App.Findings
