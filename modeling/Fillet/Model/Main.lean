import Fillet.Model.Parser
import Fillet.Model.Pipeline

/-!
# The simulator program

`main.c`. The file system is a function from paths to contents, `none` for a file that cannot be
opened.
-/

namespace Fillet

/-- The path of the program: the first argument after the name of the executable, if there is
one. -/
def programPath (argv : List (List Char)) : List Char :=
  match argv with
  | _ :: path :: _ => path
  | _ => "input/program.txt".toList

/-- What `main` leaves behind: what the parser printed and the end of the simulation. -/
structure MainResult where
  messages : List ParserMessage
  simulation : Simulation

/-- `main`. -/
def simulatorMain (argv : List (List Char)) (files : List Char → Option (List Char)) :
    MainResult :=
  let path := programPath argv
  let cpu := memoryInit cpuReset
  let (cpu, messages) := parseAssemblyFile cpu path (files path)
  { messages := messages
    simulation := pipelineSimRun cpu none { dumpNonzeroMemoryOnly := true, maxCycles := 0 } }

end Fillet
