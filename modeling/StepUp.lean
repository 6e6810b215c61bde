import StepUp.AuthorizationParameters.Builder
import StepUp.Json.Parser
import StepUp.Json.Printer
import StepUp.SessionError.Builder
import StepUp.Text.Quoted
import StepUp.Document
import StepUp.ErrorResponse
import StepUp.Log.Filter
import StepUp.CommandLine.Arguments
import StepUp.Log.Line
import StepUp.CommandLine.Report
import StepUp.CommandLine.Run
import StepUp.Main
import StepUp.Proofs.Acceptance
import StepUp.Proofs.RoundTrip
import StepUp.Proofs.Documents
import StepUp.Proofs.Normalizing
import StepUp.Proofs.FoundErrors
import StepUp.Proofs.Reencoding
import StepUp.Proofs.Representation
import StepUp.Proofs.LocalTokens
import StepUp.Proofs.LocalValues
import StepUp.Proofs.DocumentReaders
import StepUp.Proofs.Runs
import StepUp.Proofs.Logging
import StepUp.Proofs.Inspecting
import StepUp.Proofs.ResponseReports
import StepUp.Proofs.ParameterCalls
import StepUp.Proofs.SessionErrorCalls
import StepUp.Proofs.GivenParameters
import StepUp.Proofs.Patching
import StepUp.Proofs.Stripping
import StepUp.Proofs.Fallbacks
import StepUp.Proofs.SkippedInputs
import StepUp.Proofs.ResponseBodies
