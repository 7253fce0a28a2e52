import SimpleProcessor.Lib.Transition
import SimpleProcessor.Lib.ReadAhead
import SimpleProcessor.Lib.Path
import SimpleProcessor.Lib.Reaches
import SimpleProcessor.Lib.Choice
import SimpleProcessor.Lib.LastValue
import SimpleProcessor.Lib.BitArray
import SimpleProcessor.Lib.Printf
import SimpleProcessor.Lib.Stdio
import SimpleProcessor.Isa.Format
import SimpleProcessor.Llsim.Memory
import SimpleProcessor.Llsim.BitFields
import SimpleProcessor.Dma.Engine
import SimpleProcessor.Dma.Clock
import SimpleProcessor.Dma.Ledger
import SimpleProcessor.Dma.Copying
import SimpleProcessor.Dma.Progress
import SimpleProcessor.Isa.Semantics
import SimpleProcessor.Isa.TraceLines
import SimpleProcessor.Dma.Atomic
import SimpleProcessor.Dma.Rules
import SimpleProcessor.Asm.Instruction
import SimpleProcessor.Iss.Model
import SimpleProcessor.Iss.Execution
import SimpleProcessor.Iss.Links
import SimpleProcessor.Iss.Trace
import SimpleProcessor.Iss.Rules
import SimpleProcessor.Iss.Closed
import SimpleProcessor.Iss.Multiplication
import SimpleProcessor.Iss.MultiplicationTable
import SimpleProcessor.MultiCycle.Model
import SimpleProcessor.MultiCycle.Clock
import SimpleProcessor.MultiCycle.Refinement
import SimpleProcessor.MultiCycle.Trace
import SimpleProcessor.MultiCycle.Noninterference
import SimpleProcessor.MultiCycle.Handshake
import SimpleProcessor.MultiCycle.Progress
import SimpleProcessor.MultiCycle.Beside
import SimpleProcessor.MultiCycle.AtomicTransfers
import SimpleProcessor.MultiCycle.CopyProgram
import SimpleProcessor.MultiCycle.AddressSpace
import SimpleProcessor.MultiCycle.Operands
import SimpleProcessor.MultiCycle.Control
import SimpleProcessor.Pipeline.Model
import SimpleProcessor.Pipeline.Clock
import SimpleProcessor.Pipeline.Fetching
import SimpleProcessor.Pipeline.Noninterference
import SimpleProcessor.Pipeline.Prediction
import SimpleProcessor.Pipeline.FrontEnd
import SimpleProcessor.Pipeline.Forwarding
import SimpleProcessor.Pipeline.ProgramOrder
import SimpleProcessor.Pipeline.Operands
import SimpleProcessor.Pipeline.LoadFree
import SimpleProcessor.Pipeline.StageContents
import SimpleProcessor.Pipeline.Speculation
import SimpleProcessor.Pipeline.Throughput
import SimpleProcessor.Pipeline.Loads
import SimpleProcessor.Pipeline.Trace
import SimpleProcessor.Pipeline.DmaRequests
import SimpleProcessor.Pipeline.Progress
import SimpleProcessor.Halting
import SimpleProcessor.Timing
import SimpleProcessor.Programs
import SimpleProcessor.UndefinedOpcodes
import SimpleProcessor.SharedEngine
import SimpleProcessor.DmaOperands
import SimpleProcessor.LoadHigh
import SimpleProcessor.IndirectJumps
import SimpleProcessor.Loaders
import SimpleProcessor.ProgramFiles
import SimpleProcessor.LoaderAgreement
import SimpleProcessor.Listings
import SimpleProcessor.TraceFiles
