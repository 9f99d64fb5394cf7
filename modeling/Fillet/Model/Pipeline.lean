import Fillet.Library.BoundedLoop
import Fillet.Model.Memory
import Fillet.Model.Decode

/-!
# The pipeline simulator

The engine of `pipeline_sim.c`. `pipeline_sim_run` receives a pointer: most helpers work on the CPU
it points to, while the instruction fetch and every update of the program counter go through the
global CPU. A `Simulation` holds the global CPU and, when the pointer is another one, that object.

What a run does besides changing the state is kept in a `Trace`.
-/

namespace Fillet

open BoundedLoop

/-- `StageKind`. -/
inductive StageKind where
  | stageIf | stageId | stageEx | stageMem | stageWb
  deriving DecidableEq, Repr

/-- `StageSlot`. -/
structure StageSlot where
  reg : PipelineRegister
  cyclesLeft : Int
  completed : Bool
  deriving DecidableEq

/-- `clear_slot`. -/
def clearSlot : StageSlot where
  reg := .zeroed
  cyclesLeft := 0
  completed := false

/-- `set_slot`. -/
def setSlot (reg : PipelineRegister) (cycles : Int) : StageSlot where
  reg := reg
  cyclesLeft := cycles
  completed := false

/-- `slot_is_empty`. -/
def slotIsEmpty (slot : StageSlot) : Bool :=
  !slot.reg.valid

def ifCycles : Int := 1
def idCycles : Int := 2
def exCycles : Int := 2
def memCycles : Int := 1
def wbCycles : Int := 1

/-- `PipelineEngine`. The cycle counter stays below `max_cycles`, so it never wraps. -/
structure PipelineEngine where
  ifStage : StageSlot
  idStage : StageSlot
  exStage : StageSlot
  memStage : StageSlot
  wbStage : StageSlot
  cycle : ℕ
  waitForTakenBranchMem : Bool

/-- The engine `pipeline_sim_run` starts from. -/
def PipelineEngine.zeroed : PipelineEngine where
  ifStage := clearSlot
  idStage := clearSlot
  exStage := clearSlot
  memStage := clearSlot
  wbStage := clearSlot
  cycle := 0
  waitForTakenBranchMem := false

def PipelineEngine.stage (engine : PipelineEngine) : StageKind → StageSlot
  | .stageIf => engine.ifStage
  | .stageId => engine.idStage
  | .stageEx => engine.exStage
  | .stageMem => engine.memStage
  | .stageWb => engine.wbStage

def PipelineEngine.setStage (engine : PipelineEngine) (kind : StageKind) (slot : StageSlot) :
    PipelineEngine :=
  match kind with
  | .stageIf => { engine with ifStage := slot }
  | .stageId => { engine with idStage := slot }
  | .stageEx => { engine with exStage := slot }
  | .stageMem => { engine with memStage := slot }
  | .stageWb => { engine with wbStage := slot }

/-- `HazardDecision`. -/
structure HazardDecision where
  stalled : Bool
  producerReg : Int
  reason : Option String
  deriving DecidableEq

/-- An instruction that completed WB, with the register write it committed. -/
structure Retirement where
  pc : UInt32
  raw : UInt32
  write : Option (Int × Int32)
  deriving DecidableEq

/-- The retirement of the instruction in a register that reaches WB. -/
def retirement (reg : PipelineRegister) : Retirement where
  pc := reg.pc
  raw := reg.rawInstruction
  write := committedWrite reg

/-- What a run does, in order: the fetches (address and word), the words handed to
`decode_raw_instruction`, the numbers handed to `readRegister` and `writeRegister`, the slots that
complete and the instructions that retire (each with its cycle), the stores attempted in MEM and
the results of `validatePipeline`. -/
structure Trace where
  fetched : List (UInt32 × UInt32)
  decoded : List UInt32
  registerNumbers : List Int
  completed : List (ℕ × StageKind)
  retired : List (ℕ × Retirement)
  stores : List (Int32 × Int32)
  validated : List Bool

def Trace.empty : Trace where
  fetched := []
  decoded := []
  registerNumbers := []
  completed := []
  retired := []
  stores := []
  validated := []

/-- The global CPU, the CPU object passed when it is another one, the engine and the trace. -/
structure Simulation where
  cpu : CPU
  object : Option CPU
  engine : PipelineEngine
  trace : Trace

/-- The CPU that `target` points to. -/
def Simulation.target (s : Simulation) : CPU :=
  s.object.getD s.cpu

/-- A store through `target`. -/
def Simulation.setTarget (s : Simulation) (target : CPU) : Simulation :=
  match s.object with
  | none => { s with cpu := target }
  | some _ => { s with object := some target }

/-- `cpu_set_pc`, which works on the global CPU. -/
def Simulation.setGlobalPc (s : Simulation) (value : UInt32) : Simulation :=
  { s with cpu := s.cpu.setPc value }

/-! ### The functions that only look at the engine -/

/-- `read_operand_with_forwarding`: EX when it completes in this cycle, then WB, then MEM, then the
register file. -/
def readOperandWithForwarding (target : CPU) (engine : PipelineEngine) (regIndex : Int) : Int32 :=
  let exDest := destinationRegister engine.exStage.reg
  let wbDest := destinationRegister engine.wbStage.reg
  let memDest := destinationRegister engine.memStage.reg
  if regIndex = 0 then 0
  else if exDest = regIndex ∧ engine.exStage.completed = true ∧
      engine.exStage.reg.opcode ≠ .movr then
    engine.exStage.reg.aluResult
  else if wbDest = regIndex then
    if engine.wbStage.reg.opcode = .movr then engine.wbStage.reg.memoryData
    else engine.wbStage.reg.aluResult
  else if memDest = regIndex then
    if engine.memStage.reg.opcode = .movr then engine.memStage.reg.memoryData
    else engine.memStage.reg.aluResult
  else readRegister target regIndex

/-- `latch_decode_operands`. -/
def latchDecodeOperands (target : CPU) (engine : PipelineEngine) (reg : PipelineRegister) :
    PipelineRegister :=
  latchOperands (readOperandWithForwarding target engine) (decodeRawInstruction reg)

/-- `evaluate_id_hazard`. -/
def evaluateIdHazard (engine : PipelineEngine) : HazardDecision :=
  let decision : HazardDecision := { stalled := false, producerReg := 0, reason := none }
  if slotIsEmpty engine.idStage || engine.idStage.completed then decision
  else
    let consumer := decodeRawInstruction engine.idStage.reg
    if !consumer.valid then decision
    else if !slotIsEmpty engine.exStage && engine.exStage.reg.opcode = .movr then
      let producerReg := destinationRegister engine.exStage.reg
      if producerReg > 0 ∧ instructionReadsRegister consumer producerReg = true then
        { stalled := true
          producerReg := producerReg
          reason := some "waiting for MOVR load result from EX" }
      else decision
    else decision

/-- The word `evaluate_id_hazard` decodes, if it gets that far. -/
def hazardDecodes (engine : PipelineEngine) : List UInt32 :=
  if slotIsEmpty engine.idStage || engine.idStage.completed then []
  else [engine.idStage.reg.rawInstruction]

/-- `validatePipeline`. -/
def validatePipeline (engine : PipelineEngine) (fetchedThisCycle memActiveAtCycleStart : Bool) :
    Bool :=
  !(fetchedThisCycle && memActiveAtCycleStart) &&
  !(fetchedThisCycle && engine.cycle % 2 == 0) &&
  !(!slotIsEmpty engine.idStage && decide (engine.idStage.cyclesLeft > idCycles)) &&
  !(!slotIsEmpty engine.exStage && decide (engine.exStage.cyclesLeft > exCycles))

/-- `can_fetch_this_cycle`. -/
def canFetchThisCycle (target : CPU) (engine : PipelineEngine) : Bool :=
  if target.pc ≥ target.instructionCount.toUInt32 then false
  else if engine.cycle % 2 = 0 then false
  else if !slotIsEmpty engine.ifStage then false
  else if !slotIsEmpty engine.memStage then false
  else if engine.waitForTakenBranchMem then false
  else true

/-- The slots `flushPipeline` clears. -/
def flushPipeline (engine : PipelineEngine) : PipelineEngine :=
  { engine with ifStage := clearSlot, idStage := clearSlot }

/-- The words `flushPipeline` decodes before it clears the slots. -/
def flushDecodes (engine : PipelineEngine) : List UInt32 :=
  (if slotIsEmpty engine.ifStage then [] else [engine.ifStage.reg.rawInstruction]) ++
    (if slotIsEmpty engine.idStage then [] else [engine.idStage.reg.rawInstruction])

/-- The five moves of `transfer_completed_stages`, from WB back to IF. -/
def transferWb (engine : PipelineEngine) : PipelineEngine :=
  if !slotIsEmpty engine.wbStage && engine.wbStage.completed then
    { engine with wbStage := clearSlot }
  else engine

def transferMem (engine : PipelineEngine) : PipelineEngine :=
  if !slotIsEmpty engine.memStage && engine.memStage.completed && slotIsEmpty engine.wbStage then
    { engine with wbStage := setSlot engine.memStage.reg wbCycles, memStage := clearSlot }
  else engine

def transferEx (engine : PipelineEngine) : PipelineEngine :=
  if !slotIsEmpty engine.exStage && engine.exStage.completed && slotIsEmpty engine.memStage then
    { engine with memStage := setSlot engine.exStage.reg memCycles, exStage := clearSlot }
  else engine

def transferId (engine : PipelineEngine) : PipelineEngine :=
  if !slotIsEmpty engine.idStage && engine.idStage.completed && slotIsEmpty engine.exStage then
    { engine with exStage := setSlot engine.idStage.reg exCycles, idStage := clearSlot }
  else engine

def transferIf (engine : PipelineEngine) : PipelineEngine :=
  if !slotIsEmpty engine.ifStage && engine.ifStage.completed && slotIsEmpty engine.idStage then
    { engine with idStage := setSlot engine.ifStage.reg idCycles, ifStage := clearSlot }
  else engine

/-- `transfer_completed_stages`. -/
def transferCompletedStages (engine : PipelineEngine) : PipelineEngine :=
  transferIf (transferId (transferEx (transferMem (transferWb engine))))

/-- `pipeline_has_work`. -/
def pipelineHasWork (target : CPU) (engine : PipelineEngine) : Bool :=
  target.pc < target.instructionCount.toUInt32 ||
    !slotIsEmpty engine.ifStage ||
    !slotIsEmpty engine.idStage ||
    !slotIsEmpty engine.exStage ||
    !slotIsEmpty engine.memStage ||
    !slotIsEmpty engine.wbStage

/-! ### One cycle -/

/-- The register `fetch_into_if` builds: the opcode is set early, for display only. -/
def fetchedRegister (pc raw : UInt32) : PipelineRegister :=
  { PipelineRegister.zeroed with
    valid := true
    pc := pc
    rawInstruction := raw
    opcode := rawOpcode raw }

/-- `fetch_into_if`: the address comes from `target`, the word and the increment of the program
counter from the global CPU. -/
def fetchIntoIf (s : Simulation) : Simulation :=
  let pc := s.target.pc
  let raw := memoryFetchInstruction s.cpu pc
  { s.setGlobalPc (pc + 1) with
    engine := { s.engine with ifStage := setSlot (fetchedRegister pc raw) ifCycles }
    trace := { s.trace with fetched := s.trace.fetched ++ [(pc, raw)] } }

/-- The ID case of `tick_slot`. -/
def completeIdStage (s : Simulation) : Simulation :=
  let reg := s.engine.idStage.reg
  let latched := latchDecodeOperands s.target s.engine reg
  { s with
    engine := { s.engine with idStage := { s.engine.idStage with reg := latched } }
    trace :=
      { s.trace with
        decoded := s.trace.decoded ++ [reg.rawInstruction]
        registerNumbers :=
          s.trace.registerNumbers ++ latchedRegisters (decodeRawInstruction reg) } }

/-- `complete_ex_stage`: a taken branch sets the global program counter, flushes IF and ID and
holds the fetch. -/
def completeExStage (s : Simulation) : Simulation :=
  let reg := exResult s.engine.exStage.reg
  let engine := { s.engine with exStage := { s.engine.exStage with reg := reg } }
  let s := { s with engine := engine }
  if reg.control.branch || reg.control.jump then
    match calculateBranchTarget reg with
    | none => s
    | some targetPc =>
      { s.setGlobalPc targetPc with
        engine := { flushPipeline engine with waitForTakenBranchMem := true }
        trace := { s.trace with decoded := s.trace.decoded ++ flushDecodes engine } }
  else s

/-- `complete_mem_stage`: any branch that reaches MEM releases the fetch. -/
def completeMemStage (s : Simulation) : Simulation :=
  let reg := s.engine.memStage.reg
  let (reg', target) := memResult s.target reg
  let engine := { s.engine with memStage := { s.engine.memStage with reg := reg' } }
  { s.setTarget target with
    engine :=
      if reg.opcode = .jeq ∨ reg.opcode = .jmp then { engine with waitForTakenBranchMem := false }
      else engine
    trace := { s.trace with stores := s.trace.stores ++ (attemptedStore reg).toList } }

/-- The numbers `complete_wb_stage` hands to `readRegister`, `writeRegister` and `readRegister`. -/
def writeBackNumbers (reg : PipelineRegister) : List Int :=
  match committedWrite reg with
  | none => []
  | some (r, _) => [r, r, r]

/-- `complete_wb_stage`. -/
def completeWbStage (s : Simulation) : Simulation :=
  let reg := s.engine.wbStage.reg
  { s.setTarget (wbResult s.target reg) with
    trace :=
      { s.trace with
        registerNumbers := s.trace.registerNumbers ++ writeBackNumbers reg
        retired := s.trace.retired ++ [(s.engine.cycle, retirement reg)] } }

/-- `tick_slot`. -/
def tickSlot (s : Simulation) (kind : StageKind) (allowProgress : Bool) : Simulation :=
  let slot := s.engine.stage kind
  if slotIsEmpty slot || slot.completed || !allowProgress then s
  else if slot.cyclesLeft - 1 > 0 then
    { s with engine := s.engine.setStage kind { slot with cyclesLeft := slot.cyclesLeft - 1 } }
  else
    let slot := { slot with cyclesLeft := slot.cyclesLeft - 1, completed := true }
    let s :=
      { s with
        engine := s.engine.setStage kind slot
        trace := { s.trace with completed := s.trace.completed ++ [(s.engine.cycle, kind)] } }
    match kind with
    | .stageIf => s
    | .stageId => completeIdStage s
    | .stageEx => completeExStage s
    | .stageMem => completeMemStage s
    | .stageWb => completeWbStage s

/-- The cycle counter moves on. -/
def beginCycle (s : Simulation) : Simulation :=
  { s with engine := { s.engine with cycle := s.engine.cycle + 1 } }

/-- The fetch of a cycle, if there is one, and the word the hazard unit looks at. -/
def fetchPhase (s : Simulation) : Simulation :=
  if canFetchThisCycle s.target s.engine then fetchIntoIf s else s

def hazardPhase (s : Simulation) : Simulation :=
  { s with trace := { s.trace with decoded := s.trace.decoded ++ hazardDecodes s.engine } }

/-- The slots that are ticked before ID. -/
def backPhase (s : Simulation) : Simulation :=
  tickSlot (tickSlot (tickSlot s .stageWb true) .stageMem true) .stageEx true

/-- ID, which a hazard holds, and IF. -/
def frontPhase (hazard : HazardDecision) (s : Simulation) : Simulation :=
  tickSlot (tickSlot s .stageId (!hazard.stalled)) .stageIf true

/-- The body of the loop of `pipeline_sim_run`. -/
def simulateCycle (s : Simulation) : Simulation :=
  let started := beginCycle s
  let memActiveAtCycleStart := !slotIsEmpty started.engine.memStage
  let fetchedThisCycle := canFetchThisCycle started.target started.engine
  let ready := hazardPhase (fetchPhase started)
  let hazard := evaluateIdHazard ready.engine
  let ticked := frontPhase hazard (backPhase ready)
  let engine := transferCompletedStages ticked.engine
  { ticked with
    engine := engine
    trace :=
      { ticked.trace with
        validated := ticked.trace.validated ++
          [validatePipeline engine fetchedThisCycle memActiveAtCycleStart] } }

/-! ### The run -/

def Simulation.hasWork (s : Simulation) : Bool :=
  pipelineHasWork s.target s.engine

/-- A run about to start: empty stages and an empty trace. -/
def Simulation.start (cpu : CPU) (object : Option CPU) : Simulation where
  cpu := cpu
  object := object
  engine := .zeroed
  trace := .empty

/-- At most `n` cycles of the loop of `pipeline_sim_run`. -/
def simulate (n : ℕ) (cpu : CPU) (object : Option CPU) : Simulation :=
  boundedWhile Simulation.hasWork simulateCycle n (.start cpu object)

/-- `PipelineSimOptions`. -/
structure PipelineSimOptions where
  dumpNonzeroMemoryOnly : Bool
  maxCycles : Int32

/-- The bound of the loop; a bound that is not positive means `INT_MAX`. -/
def PipelineSimOptions.cycleBound (options : PipelineSimOptions) : ℕ :=
  if 0 < options.maxCycles.toInt then options.maxCycles.toInt.toNat else 2147483647

/-- `pipeline_sim_run`. The counter starts at 0 and moves by one each round, so `max_cycles` bounds
the number of rounds. -/
def pipelineSimRun (cpu : CPU) (object : Option CPU) (options : PipelineSimOptions) : Simulation :=
  simulate options.cycleBound cpu object

end Fillet
