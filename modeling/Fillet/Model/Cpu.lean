import Mathlib.Tactic.Common
import Fillet.Model.Opcodes

/-!
# The CPU object and the pipeline register

The register file, the memory and the program counter of `cpu.h`, with the accessors of `cpu.c`.
A C `int` that is only compared or counted (a register number, a counter) is an `Int`; every word
that is computed with is a 32-bit integer and wraps around.
-/

namespace Fillet

abbrev memorySize : ℕ := 2048
abbrev instructionMemorySize : ℕ := 1024
abbrev dataMemoryStart : ℕ := 1024
abbrev registerCount : ℕ := 32

/-- The machine state of `cpu.h`. -/
@[ext] structure CPU where
  memory : Fin memorySize → Int32
  registers : Fin registerCount → Int32
  pc : UInt32
  instructionCount : Int32
  memoryBusy : Int32

/-- `PipelineRegister`: one instruction and everything computed for it so far. -/
structure PipelineRegister where
  valid : Bool
  rawInstruction : UInt32
  opcode : Opcode
  format : InstructionFormat
  control : ControlSignals
  r1 : Int
  r2 : Int
  r3 : Int
  immediate : Int32
  shamt : Int
  address : Int32
  operand1 : Int32
  operand2 : Int32
  aluResult : Int32
  memoryData : Int32
  pc : UInt32
  deriving DecidableEq

/-- The control word of a register that was zeroed. -/
def ControlSignals.zeroed : ControlSignals where
  regWrite := false
  memRead := false
  memWrite := false
  memToReg := false
  branch := false
  jump := false
  useImmediate := false
  useShamt := false
  aluOp := .none

/-- A register after `memset` to zero. -/
def PipelineRegister.zeroed : PipelineRegister where
  valid := false
  rawInstruction := 0
  opcode := .add
  format := .invalid
  control := .zeroed
  r1 := 0
  r2 := 0
  r3 := 0
  immediate := 0
  shamt := 0
  address := 0
  operand1 := 0
  operand2 := 0
  aluResult := 0
  memoryData := 0
  pc := 0

/-- The cell an address selects; it is only used behind a range check. -/
def memoryIndex (address : Int32) : Fin memorySize :=
  ⟨address.toInt.toNat % memorySize, Nat.mod_lt _ (by decide)⟩

/-- The register a number selects; it is only used behind a range check. -/
def registerIndex (reg : Int) : Fin registerCount :=
  ⟨reg.toNat % registerCount, Nat.mod_lt _ (by decide)⟩

/-- `is_instruction_address`, the same test in `cpu.c` and `memory.c`. -/
def isInstructionAddress (address : Int32) : Bool :=
  0 ≤ address.toInt && address.toInt < instructionMemorySize

/-- `is_data_address`, the same test in `cpu.c` and `memory.c`. -/
def isDataAddress (address : Int32) : Bool :=
  dataMemoryStart ≤ address.toInt && address.toInt < memorySize

/-- `cpu_reset`: everything is zeroed. -/
def cpuReset : CPU where
  memory := fun _ => 0
  registers := fun _ => 0
  pc := 0
  instructionCount := 0
  memoryBusy := 0

/-- `cpu_set_pc` on the CPU it belongs to. -/
def CPU.setPc (cpu : CPU) (value : UInt32) : CPU :=
  { cpu with pc := value }

/-- `cpu_set_instruction_count`: a negative count is stored as 0. -/
def CPU.setInstructionCount (cpu : CPU) (count : Int32) : CPU :=
  { cpu with instructionCount := if count.toInt < 0 then 0 else count }

/-- `readRegister`: an unknown register reads as 0, and so does R0. -/
def readRegister (target : CPU) (reg : Int) : Int32 :=
  if reg < 0 ∨ reg ≥ registerCount then 0
  else if reg = 0 then 0
  else target.registers (registerIndex reg)

/-- `writeRegister`: an unknown register is left alone, and R0 is stored as 0. -/
def writeRegister (target : CPU) (reg : Int) (value : Int32) : CPU :=
  if reg < 0 ∨ reg ≥ registerCount then target
  else if reg = 0 then
    { target with registers := Function.update target.registers (registerIndex 0) 0 }
  else
    { target with registers := Function.update target.registers (registerIndex reg) value }

/-- `readMemory`: the word at a data address, or 0 with an error outside the data segment. The
busy flag is raised and lowered around the access. -/
def readMemory (target : CPU) (address : Int32) : Int32 × CPU :=
  if !isDataAddress address then (0, target)
  else (target.memory (memoryIndex address), { target with memoryBusy := 0 })

/-- `writeMemory`: only the data segment is written. -/
def writeMemory (target : CPU) (address : Int32) (value : Int32) : CPU :=
  if !isDataAddress address then target
  else
    { target with
      memory := Function.update target.memory (memoryIndex address) value
      memoryBusy := 0 }

/-- `cpu_read_register`. -/
def cpuReadRegister (cpu : CPU) (index : UInt8) : Int32 :=
  readRegister cpu index.toNat

/-- `cpu_write_register`: whether the index was accepted, and the CPU afterwards. -/
def cpuWriteRegister (cpu : CPU) (index : UInt8) (value : Int32) : Bool × CPU :=
  if index.toNat ≥ registerCount then (false, cpu)
  else (true, writeRegister cpu index.toNat value)

/-! ### Which field an accessor touches -/

@[simp] lemma CPU.setPc_pc (cpu : CPU) (v : UInt32) : (cpu.setPc v).pc = v := rfl

@[simp] lemma CPU.setPc_memory (cpu : CPU) (v : UInt32) : (cpu.setPc v).memory = cpu.memory := rfl

@[simp] lemma CPU.setPc_registers (cpu : CPU) (v : UInt32) :
    (cpu.setPc v).registers = cpu.registers := rfl

@[simp] lemma CPU.setPc_instructionCount (cpu : CPU) (v : UInt32) :
    (cpu.setPc v).instructionCount = cpu.instructionCount := rfl

@[simp] lemma CPU.setPc_setPc (cpu : CPU) (v w : UInt32) : (cpu.setPc v).setPc w = cpu.setPc w :=
  rfl

@[simp] lemma CPU.setPc_self (cpu : CPU) : cpu.setPc cpu.pc = cpu := rfl

@[simp] lemma readRegister_setPc (cpu : CPU) (v : UInt32) (r : Int) :
    readRegister (cpu.setPc v) r = readRegister cpu r := rfl

@[simp] lemma writeRegister_memory (cpu : CPU) (r : Int) (v : Int32) :
    (writeRegister cpu r v).memory = cpu.memory := by
  simp only [writeRegister]; split_ifs <;> rfl

@[simp] lemma writeRegister_pc (cpu : CPU) (r : Int) (v : Int32) :
    (writeRegister cpu r v).pc = cpu.pc := by
  simp only [writeRegister]; split_ifs <;> rfl

@[simp] lemma writeRegister_instructionCount (cpu : CPU) (r : Int) (v : Int32) :
    (writeRegister cpu r v).instructionCount = cpu.instructionCount := by
  simp only [writeRegister]; split_ifs <;> rfl

lemma writeRegister_setPc (cpu : CPU) (r : Int) (v : Int32) (w : UInt32) :
    writeRegister (cpu.setPc w) r v = (writeRegister cpu r v).setPc w := by
  simp only [writeRegister]; split_ifs <;> rfl

@[simp] lemma readMemory_registers (cpu : CPU) (a : Int32) :
    (readMemory cpu a).2.registers = cpu.registers := by
  simp only [readMemory]; split_ifs <;> rfl

@[simp] lemma readMemory_memory (cpu : CPU) (a : Int32) :
    (readMemory cpu a).2.memory = cpu.memory := by
  simp only [readMemory]; split_ifs <;> rfl

@[simp] lemma readMemory_pc (cpu : CPU) (a : Int32) : (readMemory cpu a).2.pc = cpu.pc := by
  simp only [readMemory]; split_ifs <;> rfl

@[simp] lemma readMemory_instructionCount (cpu : CPU) (a : Int32) :
    (readMemory cpu a).2.instructionCount = cpu.instructionCount := by
  simp only [readMemory]; split_ifs <;> rfl

@[simp] lemma writeMemory_registers (cpu : CPU) (a v : Int32) :
    (writeMemory cpu a v).registers = cpu.registers := by
  simp only [writeMemory]; split_ifs <;> rfl

@[simp] lemma writeMemory_pc (cpu : CPU) (a v : Int32) : (writeMemory cpu a v).pc = cpu.pc := by
  simp only [writeMemory]; split_ifs <;> rfl

@[simp] lemma writeMemory_instructionCount (cpu : CPU) (a v : Int32) :
    (writeMemory cpu a v).instructionCount = cpu.instructionCount := by
  simp only [writeMemory]; split_ifs <;> rfl

lemma readMemory_setPc (cpu : CPU) (a : Int32) (w : UInt32) :
    readMemory (cpu.setPc w) a = ((readMemory cpu a).1, (readMemory cpu a).2.setPc w) := by
  simp only [readMemory]; split_ifs <;> rfl

lemma writeMemory_setPc (cpu : CPU) (a v : Int32) (w : UInt32) :
    writeMemory (cpu.setPc w) a v = (writeMemory cpu a v).setPc w := by
  simp only [writeMemory]; split_ifs <;> rfl

/-! ### The register file -/

@[simp] lemma readRegister_zero (cpu : CPU) : readRegister cpu 0 = 0 := by
  simp [readRegister]

lemma readRegister_congr {cpu cpu' : CPU} (h : cpu.registers = cpu'.registers) (r : Int) :
    readRegister cpu r = readRegister cpu' r := by
  simp [readRegister, h]

lemma registerIndex_ne {r r' : Int} (hr : 0 ≤ r ∧ r < 32) (hr' : 0 ≤ r' ∧ r' < 32) (h : r ≠ r') :
    registerIndex r ≠ registerIndex r' := by
  intro heq
  have hval : r.toNat % 32 = r'.toNat % 32 := congrArg Fin.val heq
  omega

lemma readRegister_of_range (cpu : CPU) {r : Int} (hr : 0 < r ∧ r < 32) :
    readRegister cpu r = cpu.registers (registerIndex r) := by
  have hin : ¬ (r < 0 ∨ 32 ≤ r) := by omega
  have hne : r ≠ 0 := by omega
  simp [readRegister, hin, hne]

lemma writeRegister_of_range (cpu : CPU) {r : Int} (v : Int32) (hr : 0 < r ∧ r < 32) :
    writeRegister cpu r v =
      { cpu with registers := Function.update cpu.registers (registerIndex r) v } := by
  have hin : ¬ (r < 0 ∨ 32 ≤ r) := by omega
  have hne : r ≠ 0 := by omega
  simp [writeRegister, hin, hne]

lemma readRegister_of_not_range (cpu : CPU) {r : Int} (hr : ¬ (0 < r ∧ r < 32)) :
    readRegister cpu r = 0 := by
  by_cases h0 : r = 0
  · simp [h0]
  · have hout : r < 0 ∨ 32 ≤ r := by omega
    simp [readRegister, hout]

lemma readRegister_writeRegister_self (cpu : CPU) {r : Int} (v : Int32) (hr : 0 < r ∧ r < 32) :
    readRegister (writeRegister cpu r v) r = v := by
  rw [readRegister_of_range _ hr, writeRegister_of_range _ _ hr]
  exact Function.update_self ..

lemma readRegister_writeRegister_ne (cpu : CPU) {r r' : Int} (v : Int32) (h : r ≠ r') :
    readRegister (writeRegister cpu r v) r' = readRegister cpu r' := by
  by_cases hr' : 0 < r' ∧ r' < 32
  · rw [readRegister_of_range _ hr', readRegister_of_range _ hr']
    simp only [writeRegister]
    split_ifs with hout hzero
    · rfl
    · exact Function.update_of_ne (registerIndex_ne (by omega) (by omega) (by omega)) ..
    · simp only [registerCount] at hout
      exact Function.update_of_ne (registerIndex_ne (by omega) (by omega) h.symm) ..
  · rw [readRegister_of_not_range _ hr', readRegister_of_not_range _ hr']

/-! ### The two segments -/

lemma isDataAddress_iff (a : Int32) : isDataAddress a = true ↔ 1024 ≤ a.toInt ∧ a.toInt < 2048 := by
  simp [isDataAddress]

lemma isInstructionAddress_iff (a : Int32) :
    isInstructionAddress a = true ↔ 0 ≤ a.toInt ∧ a.toInt < 1024 := by
  simp [isInstructionAddress]

/-- A data address selects a cell outside instruction memory. -/
lemma le_memoryIndex_of_isDataAddress {a : Int32} (h : isDataAddress a = true) :
    1024 ≤ (memoryIndex a).val := by
  rw [isDataAddress_iff] at h
  show 1024 ≤ a.toInt.toNat % 2048
  omega

/-- A store never reaches instruction memory. -/
lemma writeMemory_instruction (cpu : CPU) (a v : Int32) {i : Fin memorySize}
    (hi : i.val < 1024) : (writeMemory cpu a v).memory i = cpu.memory i := by
  simp only [writeMemory]
  split_ifs with h
  · rfl
  · have hle := le_memoryIndex_of_isDataAddress (a := a) (by simpa using h)
    have hne : i ≠ memoryIndex a := by
      rintro rfl
      omega
    simp [Function.update_of_ne hne]

end Fillet
