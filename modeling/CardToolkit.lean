import CardToolkit.Main
import CardToolkit.Proofs.Engine.Correlation
import CardToolkit.Proofs.Engine.HostView
import CardToolkit.Proofs.TerminalResponse
import CardToolkit.Proofs.Engine.Envelope
import CardToolkit.Proofs.Engine.Menu
import CardToolkit.Proofs.Engine.Answer
import CardToolkit.Proofs.Engine.Course
import CardToolkit.Proofs.Engine.Responses
import CardToolkit.Proofs.Engine.Origin
import CardToolkit.Proofs.Engine.Language
import CardToolkit.Proofs.Service.Refinement
import CardToolkit.Proofs.TextString
import CardToolkit.Proofs.Text.Packing
import CardToolkit.Proofs.Text.Spelling
import CardToolkit.Proofs.Engine.Limits
import CardToolkit.Proofs.Service.Shutdown
import CardToolkit.Proofs.Service.Language
import CardToolkit.Proofs.Service.Readers
import CardToolkit.Proofs.Buffer
import CardToolkit.Proofs.EventReport
import CardToolkit.Proofs.CommandLine.Agreement
import CardToolkit.Proofs.CommandLine.Number
import CardToolkit.Proofs.CommandLine.Symbols
