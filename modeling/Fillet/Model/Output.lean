import Fillet.Model.Disassembly
import Fillet.Model.Main

/-!
# What the simulator prints

Every `printf` of `pipeline_sim.c` and of the functions of `cpu.c`, `memory.c` and `main.c` that a
run calls is a `Message`; `Message.text` is its text. The output functions mirror the functions that
print, call by call, on the states in which these are called.
-/

namespace Fillet

open BoundedLoop CString

/-- The reasons `pipeline_sim_run` gives for not fetching. -/
inductive NoFetchReason where
  | fetchCadence | memoryConflict | takenBranch | programEnd
  deriving DecidableEq, Repr

/-- The complaints of `validatePipeline`. -/
inductive Complaint where
  | memoryConflict | fetchCadence | idCounter | exCounter
  deriving DecidableEq, Repr

/-- What is printed, one constructor for each text. -/
inductive Message where
  -- `main`
  | startingSimulator
  | loadingProgram (path : List Char)
  | parserMessage (message : ParserMessage)
  -- `pipeline_sim_run`
  | startingSimulation
  | cycleHeader (engine : PipelineEngine) (pc : UInt32) (instructionCount : Int32)
  | noFetch (reason : Option NoFetchReason)
  | stall (producerReg : Int) (reason : String)
  | maxCyclesReached (maxCycles : ℕ)
  | simulationFinished (cycles : ℕ)
  -- the stages
  | fetched (pc raw newPc : UInt32)
  | ifOutput (raw pc : UInt32)
  | idDecoded (reg : PipelineRegister)
  | exInputs (operand1 operand2 immediate : Int32) (shamt : Int)
  | invalidShift (name : String) (shamt : Int)
  | jeqCompares (operand1 operand2 : Int32) (taken : Bool)
  | invalidJeqTarget (target : Int)
  | invalidJmpTarget (target : UInt32)
  | jmpTarget (target : UInt32)
  | updatingPc (oldPc targetPc : UInt32)
  | flushed (stage : StageKind) (reg : PipelineRegister)
  | pcUpdated (targetPc : UInt32)
  | exOutput (aluResult address : Int32)
  | loaded (value address : Int32)
  | stored (value address : Int32)
  | noDataAccess
  | branchReachedMem
  | noRegisterWrite
  | wroteLoad (value : Int32) (reg : Int)
  | wroteAlu (value : Int32) (reg : Int)
  | registerUpdate (reg : Int) (oldValue newValue : Int32) (stage : String)
  | memoryUpdate (address oldValue newValue : Int32)
  | validation (complaint : Complaint)
  -- the accessors
  | registerOutOfRange (reg : Int)
  | registerWritten (reg : Int) (value : Int32)
  | zeroRegisterIgnored (value : Int32)
  | dataReadOutside (address : Int32)
  | dataWriteOutside (address : Int32)
  | busyBeforeRead (address : Int32)
  | busyBeforeWrite (address : Int32)
  | memoryRead (address value : Int32)
  | memoryWritten (address value : Int32)
  | fetchOutside (address : UInt32)
  -- the dumps
  | finalState
  | registerFile (pc : UInt32) (instructionCount memoryBusy : Int32)
  | registerLine (index : ℕ) (value : Int32)
  | fullMemory
  | memoryLine (address : ℕ) (value : Int32)

/-! ### Texts -/

/-- `%u`. -/
def unsigned (value : UInt32) : List Char :=
  decimal value.toNat

/-- `%d` of a 32-bit integer. -/
def signed (value : Int32) : List Char :=
  decimal value.toInt

/-- `print_instruction_summary`. -/
def printInstructionSummary (reg : PipelineRegister) : List Char :=
  if !reg.valid then "empty".toList
  else
    opcodeName reg.opcode ++ " pc=".toList ++ unsigned reg.pc ++ " raw=".toList ++
      printWord reg.rawInstruction

/-- `printPipelineState`. -/
def printPipelineState (engine : PipelineEngine) : List Char :=
  "  IF : ".toList ++ printInstructionSummary engine.ifStage.reg ++
    "\n  ID : ".toList ++ printInstructionSummary engine.idStage.reg ++
    "\n  EX : ".toList ++ printInstructionSummary engine.exStage.reg ++
    "\n  MEM: ".toList ++ printInstructionSummary engine.memStage.reg ++
    "\n  WB : ".toList ++ printInstructionSummary engine.wbStage.reg ++ ['\n']

/-- The name a stage is printed with. -/
def StageKind.label : StageKind → String
  | .stageIf => "IF"
  | .stageId => "ID"
  | .stageEx => "EX"
  | .stageMem => "MEM"
  | .stageWb => "WB"

/-- `printStageTraceLine`: an instruction is shown undecoded in IF, and in ID until it completes. -/
def printStageTraceLine (kind : StageKind) (slot : StageSlot) : List Char :=
  let heading := "  ".toList ++ kind.label.toList
  if slotIsEmpty slot then heading ++ " detail: EMPTY\n".toList
  else
    heading ++ " detail: ".toList ++
    (if kind = .stageIf ∨ kind = .stageId ∧ slot.completed = false then
      "pending decode pc=".toList ++ unsigned slot.reg.pc ++ " raw=".toList ++
        printWord slot.reg.rawInstruction ++ ['\n']
    else printInstructionDetail slot.reg) ++
    "    cycles_left=".toList ++ decimal slot.cyclesLeft ++ " completed=".toList ++
      (if slot.completed then "yes" else "no").toList ++
    "\n    inputs: pc=".toList ++ unsigned slot.reg.pc ++
      " op1=".toList ++ signed slot.reg.operand1 ++ " op2=".toList ++ signed slot.reg.operand2 ++
      " imm=".toList ++ signed slot.reg.immediate ++ " shamt=".toList ++ decimal slot.reg.shamt ++
      " addr=".toList ++ signed slot.reg.address ++
    "\n    outputs: alu=".toList ++ signed slot.reg.aluResult ++ " memData=".toList ++
      signed slot.reg.memoryData ++ ['\n']

/-- `printDetailedPipelineState`. -/
def printDetailedPipelineState (engine : PipelineEngine) : List Char :=
  [StageKind.stageIf, .stageId, .stageEx, .stageMem, .stageWb].flatMap fun kind =>
    printStageTraceLine kind (engine.stage kind)

/-- What follows `[IF] no fetch this cycle`. -/
def NoFetchReason.text : NoFetchReason → String
  | .fetchCadence => " (fetch cadence)"
  | .memoryConflict => " (IF/MEM conflict)"
  | .takenBranch => " (waiting for taken branch to enter MEM)"
  | .programEnd => " (PC reached loaded program end)"

def Complaint.text (cycle : ℕ) : Complaint → List Char
  | .memoryConflict => "IF/MEM conflict detected in cycle ".toList ++ decimal cycle
  | .fetchCadence => "fetch happened outside the every-2-cycles cadence".toList
  | .idCounter => "ID cycle counter is invalid".toList
  | .exCounter => "EX cycle counter is invalid".toList

/-- `%11d (0x%08X)`. -/
def printCell (value : Int32) : List Char :=
  List.leftpad 11 ' ' (signed value) ++ " (".toList ++ printWord value.toUInt32 ++ ")\n".toList

/-- The segment named in the errors of `readMemory` and `writeMemory`. -/
def outsideSegment (access : String) (address : Int32) : List Char :=
  "MEMORY ERROR: data ".toList ++ access.toList ++ " address=".toList ++ signed address ++
    " outside data segment [1024..2047]\n".toList

/-- The texts; `cycle` is the cycle in which a message is printed. -/
def Message.text (cycle : ℕ) : Message → List Char
  | .startingSimulator => "Starting simulator for Fillet-O-Neumann...\n".toList
  | .loadingProgram path => "Loading assembly program: ".toList ++ path ++ ['\n']
  | .parserMessage message => message.text
  | .startingSimulation =>
    "\nStarting pipeline simulation\n".toList ++
      "Timing: IF=1, ID=2, EX=2, MEM=1, WB=1; ".toList ++
      "fetch on odd cycles; IF/MEM conflict blocks fetch.\n".toList
  | .cycleHeader engine pc instructionCount =>
    "\n================ Cycle ".toList ++ decimal engine.cycle ++
      " ================\n  PC=".toList ++ unsigned pc ++
      " instructionCount=".toList ++ signed instructionCount ++ ['\n'] ++
      printPipelineState engine ++ printDetailedPipelineState engine
  | .noFetch reason =>
    "  [IF] no fetch this cycle".toList ++ (reason.elim "" NoFetchReason.text).toList ++ ['\n']
  | .stall producerReg reason =>
    "  [STALL] ID stalled on R".toList ++ decimal producerReg ++ ": ".toList ++ reason.toList ++
      ['\n']
  | .maxCyclesReached maxCycles =>
    "\nSIMULATION WARNING: stopped at max_cycles=".toList ++ decimal maxCycles ++
      " before pipeline drained.\n".toList
  | .simulationFinished cycles =>
    "\nPipeline simulation finished after ".toList ++ decimal cycles ++ " cycles.\n".toList
  | .fetched pc raw newPc =>
    "  [IF] fetched PC=".toList ++ unsigned pc ++ " raw=".toList ++ printWord raw ++
      "; PC incremented to ".toList ++ unsigned newPc ++ ['\n']
  | .ifOutput raw pc =>
    "  [IF] output raw=".toList ++ printWord raw ++ " from PC=".toList ++ unsigned pc ++ ['\n']
  | .idDecoded reg =>
    "  [ID] decoded ".toList ++ opcodeName reg.opcode ++ " r1=".toList ++ decimal reg.r1 ++
      " r2=".toList ++ decimal reg.r2 ++ " r3=".toList ++ decimal reg.r3 ++
      " imm=".toList ++ signed reg.immediate ++ " address=".toList ++ signed reg.address ++ ['\n']
  | .exInputs operand1 operand2 immediate shamt =>
    "  [EX] inputs: op1=".toList ++ signed operand1 ++ " op2=".toList ++ signed operand2 ++
      " imm=".toList ++ signed immediate ++ " shamt=".toList ++ decimal shamt ++ ['\n']
  | .invalidShift name shamt =>
    "  [EX] invalid ".toList ++ name.toList ++ " shift amount ".toList ++ decimal shamt ++
      "; result forced to 0\n".toList
  | .jeqCompares operand1 operand2 taken =>
    "  [BRANCH] JEQ compares ".toList ++ signed operand1 ++ " and ".toList ++ signed operand2 ++
      " -> ".toList ++ (if taken then "TAKEN" else "NOT TAKEN").toList ++ ['\n']
  | .invalidJeqTarget target =>
    "  [BRANCH] invalid JEQ target ".toList ++ decimal target ++ " ignored\n".toList
  | .invalidJmpTarget target =>
    "  [BRANCH] invalid JMP target ".toList ++ unsigned target ++ " ignored\n".toList
  | .jmpTarget target =>
    "  [BRANCH] JMP target=".toList ++ unsigned target ++ " (upper PC bits preserved)\n".toList
  | .updatingPc oldPc targetPc =>
    "  [BRANCH] updating PC from ".toList ++ unsigned oldPc ++ " to ".toList ++ unsigned targetPc ++
      ['\n']
  | .flushed stage reg =>
    "  [FLUSH] removing ".toList ++ stage.label.toList ++ " instruction:\n    ".toList ++
      printInstructionDetail reg
  | .pcUpdated targetPc =>
    "  [PC] updated to ".toList ++ unsigned targetPc ++
      "; fetch waits until branch reaches MEM\n".toList
  | .exOutput aluResult address =>
    "  [EX] output: aluResult=".toList ++ signed aluResult ++ " address=".toList ++
      signed address ++ ['\n']
  | .loaded value address =>
    "  [MEM] MOVR loaded ".toList ++ signed value ++ " from address ".toList ++ signed address ++
      ['\n']
  | .stored value address =>
    "  [MEM] MOVM stored ".toList ++ signed value ++ " into address ".toList ++ signed address ++
      ['\n']
  | .noDataAccess => "  [MEM] no data-memory access\n".toList
  | .branchReachedMem =>
    "  [BRANCH] branch/jump reached MEM; ".toList ++
      "target fetch may resume on an eligible IF cycle\n".toList
  | .noRegisterWrite => "  [WB] no register write\n".toList
  | .wroteLoad value reg =>
    "  [WB] wrote load value ".toList ++ signed value ++ " to R".toList ++ decimal reg ++ ['\n']
  | .wroteAlu value reg =>
    "  [WB] wrote ALU value ".toList ++ signed value ++ " to R".toList ++ decimal reg ++ ['\n']
  | .registerUpdate reg oldValue newValue stage =>
    "  R".toList ++ decimal reg ++ " updated:\n".toList ++
      "    old value = ".toList ++ signed oldValue ++ "\n    new value = ".toList ++
      signed newValue ++ "\n    stage = ".toList ++ stage.toList ++ ['\n'] ++
      (if reg = 0 then "    note = R0 is protected and remains zero\n" else "").toList
  | .memoryUpdate address oldValue newValue =>
    "  Memory[".toList ++ signed address ++ "] updated:\n".toList ++
      "    old value = ".toList ++ signed oldValue ++ "\n    new value = ".toList ++
      signed newValue ++ ['\n']
  | .validation complaint => "  [VALIDATE] ".toList ++ complaint.text cycle ++ ['\n']
  | .registerOutOfRange reg =>
    "REGISTER ERROR: R".toList ++ decimal reg ++ " is out of range\n".toList
  | .registerWritten reg value =>
    "[REG] WRITE R".toList ++ decimal reg ++ " value=".toList ++ signed value ++ ['\n']
  | .zeroRegisterIgnored value =>
    "[REG] IGNORE write R0 value=".toList ++ signed value ++ ['\n']
  | .dataReadOutside address => outsideSegment "read" address
  | .dataWriteOutside address => outsideSegment "write" address
  | .busyBeforeRead address =>
    "MEMORY WARNING: memory already busy before data read address=".toList ++ signed address ++
      ['\n']
  | .busyBeforeWrite address =>
    "MEMORY WARNING: memory already busy before data write address=".toList ++ signed address ++
      ['\n']
  | .memoryRead address value =>
    "[MEM] READ address=".toList ++ signed address ++ " value=".toList ++ signed value ++ ['\n']
  | .memoryWritten address value =>
    "[MEM] WRITE address=".toList ++ signed address ++ " value=".toList ++ signed value ++ ['\n']
  | .fetchOutside address =>
    "MEMORY ERROR: fetch address ".toList ++ unsigned address ++
      " out of instruction memory range\n".toList
  | .finalState => "\n================ Final State ================\n".toList
  | .registerFile pc instructionCount memoryBusy =>
    "\nDUMP: register file:\n  PC  = ".toList ++ unsigned pc ++
      "\n  instructionCount = ".toList ++ signed instructionCount ++
      "\n  memoryBusy = ".toList ++ signed memoryBusy ++ ['\n']
  | .registerLine index value =>
    "  R".toList ++ List.leftpad 2 '0' (decimal index) ++ " = ".toList ++ printCell value
  | .fullMemory => "\nDUMP: full memory:\n".toList
  | .memoryLine address value =>
    "  [".toList ++ List.leftpad 4 '0' (decimal address) ++ "] ".toList ++ printCell value

/-! ### The accessors -/

/-- `readRegister`. -/
def readRegisterOutput (reg : Int) : List Message :=
  if reg < 0 ∨ reg ≥ registerCount then [.registerOutOfRange reg] else []

/-- `writeRegister`. -/
def writeRegisterOutput (reg : Int) (value : Int32) : List Message :=
  if reg < 0 ∨ reg ≥ registerCount then [.registerOutOfRange reg]
  else if reg = 0 then [.zeroRegisterIgnored value]
  else [.registerWritten reg value]

/-- `readMemory`. -/
def readMemoryOutput (target : CPU) (address : Int32) : List Message :=
  if !isDataAddress address then [.dataReadOutside address]
  else
    (if target.memoryBusy ≠ 0 then [.busyBeforeRead address] else []) ++
      [.memoryRead address (target.memory (memoryIndex address))]

/-- `writeMemory`. -/
def writeMemoryOutput (target : CPU) (address value : Int32) : List Message :=
  if !isDataAddress address then [.dataWriteOutside address]
  else
    (if target.memoryBusy ≠ 0 then [.busyBeforeWrite address] else []) ++
      [.memoryWritten address value]

/-- `memory_fetch_instruction`. -/
def memoryFetchOutput (address : UInt32) : List Message :=
  if !isInstructionAddress address.toInt32 then [.fetchOutside address] else []

/-! ### The stages -/

/-- `read_operand_with_forwarding`, which asks the register file last. -/
def readOperandOutput (engine : PipelineEngine) (regIndex : Int) : List Message :=
  if regIndex = 0 then []
  else if destinationRegister engine.exStage.reg = regIndex ∧ engine.exStage.completed = true ∧
      engine.exStage.reg.opcode ≠ .movr then []
  else if destinationRegister engine.wbStage.reg = regIndex then []
  else if destinationRegister engine.memStage.reg = regIndex then []
  else readRegisterOutput regIndex

/-- The ID case of `tick_slot`. -/
def completeIdOutput (s : Simulation) : List Message :=
  let reg := s.engine.idStage.reg
  (latchedRegisters (decodeRawInstruction reg)).flatMap (readOperandOutput s.engine) ++
    [.idDecoded (latchDecodeOperands s.target s.engine reg)]

/-- `flushPipeline`. -/
def flushOutput (engine : PipelineEngine) : List Message :=
  (if slotIsEmpty engine.ifStage then []
    else [.flushed .stageIf (decodeRawInstruction engine.ifStage.reg)]) ++
  (if slotIsEmpty engine.idStage then []
    else [.flushed .stageId (decodeRawInstruction engine.idStage.reg)])

/-- `calculate_branch_target`. -/
def branchTargetOutput (oldPc : UInt32) (reg : PipelineRegister) : List Message :=
  match reg.opcode with
  | .jeq =>
    let taken := reg.operand1 = reg.operand2
    [.jeqCompares reg.operand1 reg.operand2 taken] ++
      if taken then
        let signedTarget : Int := reg.pc.toNat + 1 + reg.immediate.toInt
        if signedTarget < 0 ∨ signedTarget ≥ instructionMemorySize then
          [.invalidJeqTarget signedTarget]
        else [.updatingPc oldPc (UInt32.ofNat signedTarget.toNat)]
      else []
  | .jmp =>
    let targetPc := (reg.pc &&& 0xF0000000) ||| (reg.address.toUInt32 &&& 0x0FFFFFFF)
    if targetPc.toNat ≥ instructionMemorySize then [.invalidJmpTarget targetPc]
    else [.jmpTarget targetPc, .updatingPc oldPc targetPc]
  | _ => []

/-- The two shifts of the `switch` of `complete_ex_stage`. -/
def shiftOutput (reg : PipelineRegister) : List Message :=
  match reg.control.aluOp with
  | .shiftLeft => if reg.shamt < 0 ∨ reg.shamt > 31 then [.invalidShift "LSL" reg.shamt] else []
  | .shiftRight => if reg.shamt < 0 ∨ reg.shamt > 31 then [.invalidShift "LSR" reg.shamt] else []
  | _ => []

/-- `complete_ex_stage`. -/
def completeExOutput (s : Simulation) : List Message :=
  let reg := s.engine.exStage.reg
  let reg' := exResult reg
  [.exInputs reg.operand1 reg.operand2 reg.immediate reg.shamt] ++ shiftOutput reg ++
    (if reg'.control.branch || reg'.control.jump then
      branchTargetOutput s.target.pc reg' ++
        match calculateBranchTarget reg' with
        | none => []
        | some targetPc => flushOutput s.engine ++ [.pcUpdated targetPc]
    else []) ++
    [.exOutput reg'.aluResult reg'.address]

/-- `commitMemoryWrite`. -/
def commitMemoryWriteOutput (target : CPU) (address value : Int32) : List Message :=
  let oldValue := target.memory (memoryIndex address)
  let newValue := (writeMemory target address value).memory (memoryIndex address)
  writeMemoryOutput target address value ++
    if 0 ≤ address.toInt ∧ address.toInt < memorySize ∧ newValue ≠ oldValue then
      [.memoryUpdate address oldValue newValue]
    else []

/-- `complete_mem_stage`. -/
def completeMemOutput (s : Simulation) : List Message :=
  let reg := s.engine.memStage.reg
  (if reg.control.memRead then
    readMemoryOutput s.target reg.address ++
      [.loaded (readMemory s.target reg.address).1 reg.address]
  else if reg.control.memWrite then
    commitMemoryWriteOutput s.target reg.address reg.memoryData ++
      [.stored reg.memoryData reg.address]
  else [.noDataAccess]) ++
    if reg.opcode = .jeq ∨ reg.opcode = .jmp then [.branchReachedMem] else []

/-- `commitRegisterWrite`. -/
def commitRegisterWriteOutput (target : CPU) (reg : Int) (value : Int32) (stage : String) :
    List Message :=
  readRegisterOutput reg ++ writeRegisterOutput reg value ++ readRegisterOutput reg ++
    [.registerUpdate reg (readRegister target reg)
      (readRegister (writeRegister target reg value) reg) stage]

/-- `complete_wb_stage`. -/
def completeWbOutput (s : Simulation) : List Message :=
  let reg := s.engine.wbStage.reg
  if !instructionWritesRegister reg || !reg.control.regWrite then [.noRegisterWrite]
  else if reg.control.memToReg then
    commitRegisterWriteOutput s.target reg.r1 reg.memoryData "WB" ++
      [.wroteLoad reg.memoryData reg.r1]
  else
    commitRegisterWriteOutput s.target reg.r1 reg.aluResult "WB" ++
      [.wroteAlu reg.aluResult reg.r1]

/-- `tick_slot`. -/
def tickSlotOutput (s : Simulation) (kind : StageKind) (allowProgress : Bool) : List Message :=
  let slot := s.engine.stage kind
  if slotIsEmpty slot || slot.completed || !allowProgress then []
  else if slot.cyclesLeft - 1 > 0 then []
  else
    let slot := { slot with cyclesLeft := slot.cyclesLeft - 1, completed := true }
    let s := { s with engine := s.engine.setStage kind slot }
    match kind with
    | .stageIf => [.ifOutput slot.reg.rawInstruction slot.reg.pc]
    | .stageId => completeIdOutput s
    | .stageEx => completeExOutput s
    | .stageMem => completeMemOutput s
    | .stageWb => completeWbOutput s

/-- `validatePipeline`. -/
def validateOutput (engine : PipelineEngine) (fetchedThisCycle memActiveAtCycleStart : Bool) :
    List Message :=
  (if fetchedThisCycle && memActiveAtCycleStart then [.validation .memoryConflict] else []) ++
  (if fetchedThisCycle && engine.cycle % 2 == 0 then [.validation .fetchCadence] else []) ++
  (if !slotIsEmpty engine.idStage && decide (engine.idStage.cyclesLeft > idCycles) then
    [.validation .idCounter] else []) ++
  (if !slotIsEmpty engine.exStage && decide (engine.exStage.cyclesLeft > exCycles) then
    [.validation .exCounter] else [])

/-! ### The run -/

/-- The reason `pipeline_sim_run` prints; none of the four tests asks whether IF is occupied. -/
def noFetchReason (target : CPU) (engine : PipelineEngine) : Option NoFetchReason :=
  if engine.cycle % 2 = 0 then some .fetchCadence
  else if !slotIsEmpty engine.memStage then some .memoryConflict
  else if engine.waitForTakenBranchMem then some .takenBranch
  else if target.pc ≥ target.instructionCount.toUInt32 then some .programEnd
  else none

/-- The fetch of a cycle, or why there is none. -/
def fetchPhaseOutput (s : Simulation) : List Message :=
  if canFetchThisCycle s.target s.engine then
    let pc := s.target.pc
    memoryFetchOutput pc ++
      [.fetched pc (memoryFetchInstruction s.cpu pc) (fetchIntoIf s).target.pc]
  else [.noFetch (noFetchReason s.target s.engine)]

/-- The line about a stalled ID. -/
def hazardOutput (hazard : HazardDecision) : List Message :=
  if hazard.stalled then [.stall hazard.producerReg (hazard.reason.getD "(null)")] else []

/-- `print_cycle_header`. -/
def cycleHeaderOutput (s : Simulation) : List Message :=
  [.cycleHeader s.engine s.target.pc s.target.instructionCount]

/-- The slots that are ticked before ID. -/
def backOutput (s : Simulation) : List Message :=
  tickSlotOutput s .stageWb true ++
    tickSlotOutput (tickSlot s .stageWb true) .stageMem true ++
    tickSlotOutput (tickSlot (tickSlot s .stageWb true) .stageMem true) .stageEx true

/-- ID and IF. -/
def frontOutput (hazard : HazardDecision) (s : Simulation) : List Message :=
  tickSlotOutput s .stageId (!hazard.stalled) ++
    tickSlotOutput (tickSlot s .stageId (!hazard.stalled)) .stageIf true

/-- The body of the loop of `pipeline_sim_run`. -/
def cycleOutput (s : Simulation) : List Message :=
  let started := beginCycle s
  let memActiveAtCycleStart := !slotIsEmpty started.engine.memStage
  let fetchedThisCycle := canFetchThisCycle started.target started.engine
  let ready := hazardPhase (fetchPhase started)
  let hazard := evaluateIdHazard ready.engine
  cycleHeaderOutput started ++ fetchPhaseOutput started ++ hazardOutput hazard ++
    backOutput ready ++ frontOutput hazard (backPhase ready) ++
    validateOutput (simulateCycle s).engine fetchedThisCycle memActiveAtCycleStart

/-- `dumpRegisters`. -/
def dumpRegisters (target : CPU) : List Message :=
  .registerFile target.pc target.instructionCount target.memoryBusy ::
    (List.range registerCount).flatMap fun index : ℕ =>
      readRegisterOutput index ++ [.registerLine index (readRegister target index)]

/-- `dumpMemory`. -/
def dumpMemory (target : CPU) : List Message :=
  .fullMemory ::
    (List.finRange memorySize).map fun address : Fin memorySize =>
      .memoryLine address.val (target.memory address)

/-- `pipeline_dump_final_state`. -/
def pipelineDumpFinalState (target : CPU) : List Message :=
  .finalState :: (dumpRegisters target ++ dumpMemory target)

/-- What the loop prints in at most `n` cycles. -/
def simulateOutput (n : ℕ) (cpu : CPU) (object : Option CPU) : List Message :=
  boundedLog Simulation.hasWork simulateCycle cycleOutput n (.start cpu object)

/-- `pipeline_sim_run`. -/
def pipelineSimRunOutput (cpu : CPU) (object : Option CPU) (options : PipelineSimOptions) :
    List Message :=
  let maxCycles := options.cycleBound
  let s := pipelineSimRun cpu object options
  [.startingSimulation] ++ simulateOutput maxCycles cpu object ++
    (if s.engine.cycle ≥ maxCycles && s.hasWork then [.maxCyclesReached maxCycles] else []) ++
    [.simulationFinished s.engine.cycle] ++ pipelineDumpFinalState s.target

/-- `main`. -/
def simulatorOutput (argv : List (List Char)) (files : List Char → Option (List Char)) :
    List Message :=
  let path := programPath argv
  let (cpu, messages) := parseAssemblyFile (memoryInit cpuReset) path (files path)
  [.startingSimulator, .loadingProgram path] ++ messages.map .parserMessage ++
    pipelineSimRunOutput cpu none { dumpNonzeroMemoryOnly := true, maxCycles := 0 }

end Fillet
