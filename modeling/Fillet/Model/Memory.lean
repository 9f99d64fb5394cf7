import Fillet.Model.Cpu

/-!
# The memory module

The functions of `memory.c`. Those without a CPU argument work on the global CPU, which is passed
here as `cpu`.
-/

namespace Fillet

/-- `memory_init`. -/
def memoryInit (cpu : CPU) : CPU :=
  { cpu with memory := fun _ => 0 }

/-- `memory_store_instruction`. -/
def memoryStoreInstruction (cpu : CPU) (address instruction : UInt32) : CPU :=
  if !isInstructionAddress address.toInt32 then cpu
  else
    { cpu with
      memory := Function.update cpu.memory (memoryIndex address.toInt32) instruction.toInt32 }

/-- `memory_fetch_instruction`: 0 outside instruction memory. -/
def memoryFetchInstruction (cpu : CPU) (address : UInt32) : UInt32 :=
  if !isInstructionAddress address.toInt32 then 0
  else (cpu.memory (memoryIndex address.toInt32)).toUInt32

/-- `memory_read_data`: whether the address was accepted, the value delivered and the CPU. -/
def memoryReadData (cpu : CPU) (address : UInt32) : Bool × Int32 × CPU :=
  if !isDataAddress address.toInt32 then (false, 0, cpu)
  else (true, readMemory cpu address.toInt32)

/-- `memory_write_data`. -/
def memoryWriteData (cpu : CPU) (address : UInt32) (value : Int32) : Bool × CPU :=
  if !isDataAddress address.toInt32 then (false, cpu)
  else (true, writeMemory cpu address.toInt32 value)

/-- `memory_load_to_register`. -/
def memoryLoadToRegister (cpu : CPU) (destinationRegister : UInt8) (address : UInt32) :
    Bool × CPU :=
  match memoryReadData cpu address with
  | (false, _, cpu) => (false, cpu)
  | (true, value, cpu) => cpuWriteRegister cpu destinationRegister value

/-- `memory_store_from_register`. -/
def memoryStoreFromRegister (cpu : CPU) (sourceRegister : UInt8) (address : UInt32) :
    Bool × CPU :=
  memoryWriteData cpu address (cpuReadRegister cpu sourceRegister)

/-- `executeMOVR`: a rejected address clears `valid` and leaves the register file alone. -/
def executeMOVR (target : CPU) (stage : PipelineRegister) : CPU × PipelineRegister :=
  if !stage.valid then (target, stage)
  else
    let effectiveAddress := readRegister target stage.r2 + stage.immediate
    let stage := { stage with address := effectiveAddress }
    if !isDataAddress effectiveAddress then
      ((readMemory target effectiveAddress).2, { stage with valid := false })
    else
      let (value, target) := readMemory target effectiveAddress
      (writeRegister target stage.r1 value, { stage with memoryData := value })

/-- `executeMOVM`. -/
def executeMOVM (target : CPU) (stage : PipelineRegister) : CPU × PipelineRegister :=
  if !stage.valid then (target, stage)
  else
    let effectiveAddress := readRegister target stage.r2 + stage.immediate
    let value := readRegister target stage.r1
    let stage := { stage with address := effectiveAddress, memoryData := value }
    if !isDataAddress effectiveAddress then
      (writeMemory target effectiveAddress value, { stage with valid := false })
    else
      (writeMemory target effectiveAddress value, stage)

/-- `executeMemoryStage`. -/
def executeMemoryStage (target : CPU) (stage : PipelineRegister) : CPU × PipelineRegister :=
  if !stage.valid then (target, stage)
  else if stage.opcode = .movr then executeMOVR target stage
  else if stage.opcode = .movm then executeMOVM target stage
  else (target, stage)

/-- `memory_access_t`. -/
inductive MemoryAccess where
  | none | load | store
  deriving DecidableEq, Repr

/-- `memory_stage_input_t`. -/
structure MemoryStageInput where
  access : MemoryAccess
  address : UInt32
  writeData : Int32
  passthroughValue : Int32
  destinationRegister : UInt8
  registerWrite : Bool

/-- `memory_stage_output_t`. -/
structure MemoryStageOutput where
  success : Bool
  writeBackValue : Int32
  destinationRegister : UInt8
  registerWrite : Bool

/-- `memory_execute_stage`. -/
def memoryExecuteStage (cpu : CPU) (input : MemoryStageInput) : MemoryStageOutput × CPU :=
  let output : MemoryStageOutput :=
    { success := true
      writeBackValue := input.passthroughValue
      destinationRegister := input.destinationRegister
      registerWrite := input.registerWrite }
  match input.access with
  | .none => (output, cpu)
  | .load =>
    let (success, value, cpu) := memoryReadData cpu input.address
    ({ output with
        success := success
        writeBackValue := value
        registerWrite := success && input.registerWrite }, cpu)
  | .store =>
    let (success, cpu) := memoryWriteData cpu input.address input.writeData
    ({ output with success := success, registerWrite := false }, cpu)

end Fillet
