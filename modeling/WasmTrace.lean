import WasmTrace.Decimal.Binary64
import WasmTrace.Decimal.Rounding
import WasmTrace.Decimal.SixDigits
import WasmTrace.Enumerations
import WasmTrace.Event
import WasmTrace.Event.Argument
import WasmTrace.Event.Kind
import WasmTrace.Event.Line
import WasmTrace.Event.Vocabulary
import WasmTrace.Handler
import WasmTrace.Handler.Recorder
import WasmTrace.Indent
import WasmTrace.Layer
import WasmTrace.Opcode
import WasmTrace.Sink.Latch
import WasmTrace.Sink.LineSink
import WasmTrace.Sink.Memory
import WasmTrace.Text
import WasmTrace.Text.Lossy
import WasmTrace.Tracer
import WasmTrace.ValType
import WasmTrace.Values
import WasmTrace.Vec128
import WasmTrace.Writer
import WasmTrace.Writer.Scripted
import WasmTrace.Proofs.Agreement
import WasmTrace.Proofs.Attempts
import WasmTrace.Proofs.CleanPrefix
import WasmTrace.Proofs.Cutting
import WasmTrace.Proofs.Forwarding
import WasmTrace.Proofs.History
import WasmTrace.Proofs.Levels
import WasmTrace.Proofs.LineStructure
import WasmTrace.Proofs.Lockstep
import WasmTrace.Proofs.Names
import WasmTrace.Proofs.Nesting
import WasmTrace.Proofs.Verbatim
import WasmTrace.Proofs.Prescription
import WasmTrace.Proofs.Simulation
import WasmTrace.Proofs.Transcript
import WasmTrace.Proofs.ValidText
import WasmTrace.Proofs.WellNested
import WasmTrace.Proofs.Shape
import WasmTrace.Proofs.Legible
import WasmTrace.Proofs.Unambiguous
import WasmTrace.Proofs.NearestEven
import WasmTrace.Proofs.SixFigures
import WasmTrace.Proofs.CanonicalForm
import WasmTrace.Proofs.FloatingText
import WasmTrace.Proofs.Codes
import WasmTrace.Proofs.Fragments
import WasmTrace.Proofs.FaultReport
import WasmTrace.Proofs.Widening
import WasmTrace.Proofs.HexDigits
import WasmTrace.Proofs.LaneDigits
import WasmTrace.Proofs.Located
import WasmTrace.Proofs.Decoding
import WasmTrace.Proofs.SecondPass
import WasmTrace.Proofs.Scratch
import WasmTrace.Proofs.Extent
import WasmTrace.Proofs.Buffered
import WasmTrace.Proofs.SpaceRuns
