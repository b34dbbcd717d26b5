import SuiteOutline.Block
import SuiteOutline.BodyStep
import SuiteOutline.Callable
import SuiteOutline.CommandLine
import SuiteOutline.Compile
import SuiteOutline.Context
import SuiteOutline.Document.Cursor
import SuiteOutline.Document.Data
import SuiteOutline.Document.Event
import SuiteOutline.Document.Fault
import SuiteOutline.Document.Mark
import SuiteOutline.Document.Node
import SuiteOutline.Document.Property
import SuiteOutline.Document.Real
import SuiteOutline.Document.Resolution
import SuiteOutline.Document.Scalar
import SuiteOutline.Document.Token
import SuiteOutline.Document.TokenStream
import SuiteOutline.Files
import SuiteOutline.Framework
import SuiteOutline.Host
import SuiteOutline.Json
import SuiteOutline.Label
import SuiteOutline.Loading
import SuiteOutline.Main
import SuiteOutline.Note
import SuiteOutline.Options
import SuiteOutline.OptionsDocument
import SuiteOutline.Partition
import SuiteOutline.Path
import SuiteOutline.Program
import SuiteOutline.Proofs.Acceptance
import SuiteOutline.Proofs.Brackets
import SuiteOutline.Proofs.CallNesting
import SuiteOutline.Proofs.CallText
import SuiteOutline.Proofs.CasePlaces
import SuiteOutline.Proofs.CaseResult
import SuiteOutline.Proofs.CaseRuns
import SuiteOutline.Proofs.Checking
import SuiteOutline.Proofs.Compilation
import SuiteOutline.Proofs.ContextHistory
import SuiteOutline.Proofs.DebugLog
import SuiteOutline.Proofs.Discovery
import SuiteOutline.Proofs.DocumentKeys
import SuiteOutline.Proofs.DocumentMeaning
import SuiteOutline.Proofs.DroppedReport
import SuiteOutline.Proofs.EqualSpecs
import SuiteOutline.Proofs.FirstFault
import SuiteOutline.Proofs.HookPlacement
import SuiteOutline.Proofs.Injection
import SuiteOutline.Proofs.InjectionText
import SuiteOutline.Proofs.Interleaving
import SuiteOutline.Proofs.JsonText
import SuiteOutline.Proofs.Meaning
import SuiteOutline.Proofs.Nesting
import SuiteOutline.Proofs.NestingLimit
import SuiteOutline.Proofs.Observation
import SuiteOutline.Proofs.OpaqueCallables
import SuiteOutline.Proofs.PathParts
import SuiteOutline.Proofs.PlacedHooks
import SuiteOutline.Proofs.Position
import SuiteOutline.Proofs.ProgramBalance
import SuiteOutline.Proofs.Quoting
import SuiteOutline.Proofs.ReadPlaces
import SuiteOutline.Proofs.RecordedTree
import SuiteOutline.Proofs.ReferenceGrammar
import SuiteOutline.Proofs.Refusal
import SuiteOutline.Proofs.Registration
import SuiteOutline.Proofs.Relaxation
import SuiteOutline.Proofs.ReportBuilding
import SuiteOutline.Proofs.Restraint
import SuiteOutline.Proofs.Sameness
import SuiteOutline.Proofs.SerialisedForms
import SuiteOutline.Proofs.Sorting
import SuiteOutline.Proofs.SpecBuilding
import SuiteOutline.Proofs.SpecLoading
import SuiteOutline.Proofs.SpecWriting
import SuiteOutline.Proofs.SuiteNotes
import SuiteOutline.Proofs.SuitePlaces
import SuiteOutline.Proofs.TableHistory
import SuiteOutline.Recording
import SuiteOutline.Reference
import SuiteOutline.Report
import SuiteOutline.Rows
import SuiteOutline.Script
import SuiteOutline.Serialised
import SuiteOutline.Session
import SuiteOutline.Spec
import SuiteOutline.SpecDocument
import SuiteOutline.Text.Displayed
import SuiteOutline.Text.Literal
import SuiteOutline.Text.Name
import SuiteOutline.Text.NameRanges
import SuiteOutline.Text.Ranges
import SuiteOutline.Text.UnseenRanges
