import Fillet.Encoding
import Fillet.Pipeline.Timing
import Fillet.LoadStore
import Fillet.Library.CString
import Fillet.Library.Strtol
import Fillet.Model.Disassembly
import Fillet.Model.Parser
import Fillet.Assembler.Lines
import Fillet.Assembler.Operands
import Fillet.Assembler.Law
import Fillet.Assembler.Meaning
import Fillet.Assembler.Range
import Fillet.Assembler.RoundTrip
import Fillet.Pipeline.Isolation
import Fillet.Library.Wrapping
import Fillet.Model.Execute
import Fillet.Arithmetic
import Fillet.ExecuteStages
import Fillet.ReadWriteSets
import Fillet.RegisterTransfer
import Fillet.Pipeline.Operands
import Fillet.Pipeline.Target
import Fillet.Assembler.Grammar
import Fillet.Pipeline.Overflow
import Fillet.Pipeline.Completion
import Fillet.Language.Machine
import Fillet.Language.Refinement
import Fillet.Language.Translation
import Fillet.Model.Output
import Fillet.Output.Topics
import Fillet.Output.Cycle
import Fillet.Output.Journal
import Fillet.Output.Control
import Fillet.Output.Accounting
import Fillet.Output.Alarms
import Fillet.Output.Fetches
import Fillet.Output.Frame
import Fillet.Output.Independence
import Fillet.Library.Reaching
import Fillet.Language.Logic
import Fillet.Pipeline.LoopFree
import Fillet.Pipeline.Precise
import Fillet.Assembler.Listing
import Fillet.Library.SelfDelimiting
import Fillet.Output.Dump
import Fillet.Model.Interface
import Fillet.Output.Interface
import Fillet.Output.Issues
import Fillet.Output.Execution
import Fillet.Output.Stages
