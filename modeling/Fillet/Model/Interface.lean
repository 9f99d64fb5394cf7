import Fillet.Model.Output

/-!
# The rest of the interface

Functions that `cpu.h`, `fetch.h` and `memory.h` offer and that a run of the simulator does not
call: the older fetch stage and the dumps of a part of memory.
-/

namespace Fillet

open CString

/-! ### The fetch stage -/

/-- What `fetchInstruction` prints. -/
inductive FetchMessage where
  | stopped (pc : UInt32) (instructionCount : Int32)
  | outside (pc : UInt32)
  | conflict (pc : UInt32)
  | fetched (pc raw : UInt32)
  | incremented (pc : UInt32)
  deriving DecidableEq

def FetchMessage.text : FetchMessage → List Char
  | .stopped pc instructionCount =>
    "FETCH STOP: PC=".toList ++ unsigned pc ++ " instructionCount=".toList ++
      signed instructionCount ++ ['\n']
  | .outside pc =>
    "MEMORY ERROR: fetch address ".toList ++ unsigned pc ++
      " out of instruction memory range [0..1023]\n".toList
  | .conflict pc => "MEMORY WARNING: IF/MEM conflict at PC=".toList ++ unsigned pc ++ ['\n']
  | .fetched pc raw =>
    "FETCH: PC=".toList ++ unsigned pc ++ " raw=".toList ++ printWord raw ++ ['\n']
  | .incremented pc => "PC increment -> ".toList ++ unsigned pc ++ ['\n']

/-- `fetchInstruction`: the word, the output and the CPU. A word that is not there is 0. -/
def fetchInstruction (target : CPU) : UInt32 × List FetchMessage × CPU :=
  if target.pc ≥ target.instructionCount.toUInt32 then
    (0, [.stopped target.pc target.instructionCount], target)
  else if !isInstructionAddress target.pc.toInt32 then (0, [.outside target.pc], target)
  else
    let warning := if target.memoryBusy ≠ 0 then [FetchMessage.conflict target.pc] else []
    let raw := (target.memory (memoryIndex target.pc.toInt32)).toUInt32
    (raw, warning ++ [.fetched target.pc raw, .incremented (target.pc + 1)],
      { target with pc := target.pc + 1, memoryBusy := 0 })

/-- `fetch_instruction`, on the global CPU. -/
def fetchInstructionStage (cpu : CPU) : UInt32 × List FetchMessage × CPU :=
  fetchInstruction cpu

/-! ### Dumps of a part of memory -/

/-- What the dumps of `memory.c` print. -/
inductive DumpMessage where
  | instructionWords (limit : UInt32)
  | instructionWord (index word : UInt32)
  | noDataWords
  | startOutside (startAddress : UInt32)
  | dataWords (startAddress lastAddress : UInt32)
  | dataWord (address : UInt32) (value : Int32)
  deriving DecidableEq

def DumpMessage.text : DumpMessage → List Char
  | .instructionWords limit =>
    "\nDUMP: first ".toList ++ unsigned limit ++ " instruction memory words:\n".toList
  | .instructionWord index word =>
    "  [".toList ++ List.leftpad 3 '0' (unsigned index) ++ "] ".toList ++ printWord word ++ ['\n']
  | .noDataWords => "\nDUMP: data memory requested 0 words\n".toList
  | .startOutside startAddress =>
    "MEMORY ERROR: data dump start address ".toList ++ unsigned startAddress ++
      " outside data segment [1024..2047]\n".toList
  | .dataWords startAddress lastAddress =>
    "\nDUMP: data memory words [".toList ++ unsigned startAddress ++ "..".toList ++
      unsigned lastAddress ++ "]:\n".toList
  | .dataWord address value =>
    "  [".toList ++ List.leftpad 4 '0' (unsigned address) ++ "] ".toList ++ printCell value

/-- `for (address = start; address < stop; ++address)`, with one line for each turn. -/
def dumpLoop (line : UInt32 → DumpMessage) (start stop : UInt32) : List DumpMessage :=
  if h : start < stop then line start :: dumpLoop line (start + 1) stop else []
termination_by stop.toNat - start.toNat
decreasing_by
  rw [UInt32.lt_iff_toNat_lt] at h
  have hstop := stop.toNat_lt
  rw [UInt32.toNat_add]
  show _ - (start.toNat + 1) % 4294967296 < _
  omega

/-- `memory_dump_instructions`. -/
def memoryDumpInstructions (cpu : CPU) (count : UInt32) : List DumpMessage :=
  let limit := if count > 1024 then 1024 else count
  .instructionWords limit ::
    dumpLoop (fun index => .instructionWord index (cpu.memory (memoryIndex index.toInt32)).toUInt32)
      0 limit

/-- `memory_dump_data`. -/
def memoryDumpData (cpu : CPU) (startAddress count : UInt32) : List DumpMessage :=
  if count = 0 then [.noDataWords]
  else if !isDataAddress startAddress.toInt32 then [.startOutside startAddress]
  else
    let sum := startAddress + count
    let endAddress := if sum > 2048 ∨ sum < startAddress then 2048 else sum
    .dataWords startAddress (endAddress - 1) ::
      dumpLoop (fun address => .dataWord address (cpu.memory (memoryIndex address.toInt32)))
        startAddress endAddress

end Fillet
