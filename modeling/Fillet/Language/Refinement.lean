import Fillet.Arithmetic
import Fillet.ExecuteStages
import Fillet.Library.Wrapping
import Fillet.Language.Machine
import Fillet.Pipeline.Completion

/-!
# The sequential machine executes programs of the assembly language

A CPU stands for a machine of the assembly language (`CPU.machine`), a decoded register for one of
its instructions. When instruction memory holds the words of a program, a step of the sequential
machine is a step of that program.
-/

namespace Fillet

open BitField Wrapping

variable {cpu : CPU} {reg : PipelineRegister} {program : List Instruction}

/-! ### Registers and memory -/

/-- The machine a CPU stands for. -/
def CPU.machine (cpu : CPU) : Machine where
  registers r := readRegister cpu r.val
  registers_zero := readRegister_zero cpu
  data i := cpu.memory ⟨1024 + i.val, by
    have hlt : i.val < 1024 := i.isLt
    show 1024 + i.val < 2048
    omega⟩
  pc := cpu.pc.toNat

/-- The machine without the program counter does not see it. -/
lemma machine_setPc (cpu : CPU) (v : UInt32) :
    (cpu.setPc v).machine = { cpu.machine with pc := v.toNat } := rfl

lemma registerIndex_val {r : Int} (hr : 0 ≤ r ∧ r < 32) : ((registerIndex r).val : Int) = r := by
  show ((r.toNat % 32 : ℕ) : Int) = r
  omega

/-- A register number selects the register of the machine. -/
lemma machine_registers (cpu : CPU) {r : Int} (hr : 0 ≤ r ∧ r < 32) :
    cpu.machine.registers (registerIndex r) = readRegister cpu r := by
  show readRegister cpu (registerIndex r).val = _
  rw [registerIndex_val hr]

lemma machine_writeRegister (cpu : CPU) {r : Int} (hr : 0 ≤ r ∧ r < 32) (v : Int32) :
    (writeRegister cpu r v).machine = cpu.machine.write (registerIndex r) v := by
  have hmemory := writeRegister_memory cpu r v
  have hpc := writeRegister_pc cpu r v
  by_cases hzero : r = 0
  · have hindex : registerIndex r = 0 := by rw [hzero]; rfl
    rw [hindex, Machine.write_zero]
    apply Machine.ext_fields
    · intro i
      show readRegister (writeRegister cpu r v) i.val = readRegister cpu i.val
      by_cases hi : (i.val : Int) = 0
      · rw [hi, readRegister_zero, readRegister_zero]
      · exact readRegister_writeRegister_ne cpu v (by omega)
    · intro i
      exact congrFun hmemory _
    · exact congrArg UInt32.toNat hpc
  · have hindex : registerIndex r ≠ 0 := registerIndex_ne hr (by decide) hzero
    rw [Machine.write, dif_neg hindex]
    apply Machine.ext_fields
    · intro i
      show readRegister (writeRegister cpu r v) i.val =
        Function.update cpu.machine.registers (registerIndex r) v i
      by_cases hi : i = registerIndex r
      · rw [hi, Function.update_self, registerIndex_val hr]
        exact readRegister_writeRegister_self cpu v (by omega)
      · rw [Function.update_of_ne hi]
        apply readRegister_writeRegister_ne
        intro heq
        apply hi
        rw [heq]
        exact Fin.ext (Nat.mod_eq_of_lt i.isLt).symm
    · intro i
      exact congrFun hmemory _
    · exact congrArg UInt32.toNat hpc

/-- The data segment of the CPU is the one of the language. -/
lemma inDataSegment_iff (a : Int32) : InDataSegment a.toInt ↔ isDataAddress a = true :=
  (isDataAddress_iff a).symm

lemma memoryIndex_dataCell {a : Int32} (h : InDataSegment a.toInt) :
    (memoryIndex a).val = 1024 + (dataCell a.toInt h).val := by
  obtain ⟨hlow, hhigh⟩ := h
  show a.toInt.toNat % 2048 = 1024 + (a.toInt - 1024).toNat
  omega

lemma machine_readMemory (cpu : CPU) (a : Int32) :
    (readMemory cpu a).1 = cpu.machine.load a.toInt ∧
      (readMemory cpu a).2.machine = cpu.machine := by
  by_cases h : isDataAddress a = true
  · have hsegment := (inDataSegment_iff a).mpr h
    have hcell := memoryIndex_dataCell hsegment
    simp only [readMemory, h, Bool.not_true, Machine.load, dif_pos hsegment]
    exact ⟨congrArg cpu.memory (Fin.ext hcell), rfl⟩
  · have hsegment := mt (inDataSegment_iff a).mp h
    simp [readMemory, h, Machine.load, hsegment]

lemma machine_writeMemory (cpu : CPU) (a v : Int32) :
    (writeMemory cpu a v).machine = cpu.machine.store a.toInt v := by
  by_cases h : isDataAddress a = true
  · have hsegment := (inDataSegment_iff a).mpr h
    have hcell := memoryIndex_dataCell hsegment
    rw [Machine.store, dif_pos hsegment]
    have hwrite : (writeMemory cpu a v).memory = Function.update cpu.memory (memoryIndex a) v := by
      simp [writeMemory, h]
    apply Machine.ext_fields
    · intro r
      exact readRegister_congr (writeMemory_registers cpu a v) _
    · intro i
      show (writeMemory cpu a v).memory _ =
        Function.update cpu.machine.data (dataCell a.toInt hsegment) v i
      rw [hwrite]
      by_cases hi : i = dataCell a.toInt hsegment
      · rw [hi, Function.update_self]
        have hindex : (⟨1024 + (dataCell a.toInt hsegment).val, by
            rw [← hcell]; exact (memoryIndex a).isLt⟩ : Fin memorySize) = memoryIndex a :=
          Fin.ext hcell.symm
        rw [hindex, Function.update_self]
      · rw [Function.update_of_ne hi, Function.update_of_ne]
        · rfl
        · intro heq
          apply hi
          have hval := congrArg Fin.val heq
          rw [hcell] at hval
          exact Fin.ext (Nat.add_left_cancel hval)
    · exact congrArg UInt32.toNat (writeMemory_pc cpu a v)
  · have hsegment := mt (inDataSegment_iff a).mp h
    simp [writeMemory, h, Machine.store, hsegment]

/-- An 18-bit offset does not wrap an address into the data segment. -/
lemma inDataSegment_add_iff (base : Int32) {offset : Int32}
    (hoffset : -131072 ≤ offset.toInt ∧ offset.toInt ≤ 131071) :
    (InDataSegment (base + offset).toInt ↔ InDataSegment (base.toInt + offset.toInt)) ∧
      (InDataSegment (base.toInt + offset.toInt) →
        (base + offset).toInt = base.toInt + offset.toInt) := by
  obtain ⟨hbase, hbase'⟩ := fits_toInt base
  obtain ⟨hwindow, hexact⟩ := wrap_mem_window_iff 2147483648 131072 1024 2047
    (x := base.toInt + offset.toInt) (by omega) (by decide) (by decide) (by decide)
  have hsegment : ∀ x : Int, InDataSegment x ↔ 1024 ≤ x ∧ x ≤ 2047 := fun x =>
    and_congr_right fun _ => (Int.lt_add_one_iff (b := 2047))
  rw [hsegment, hsegment, toInt_add]
  exact ⟨hwindow, hexact⟩

lemma load_wrapped (m : Machine) {base offset : Int32}
    (hoffset : -131072 ≤ offset.toInt ∧ offset.toInt ≤ 131071) :
    m.load (base + offset).toInt = m.load (base.toInt + offset.toInt) := by
  obtain ⟨hiff, hexact⟩ := inDataSegment_add_iff base hoffset
  by_cases h : InDataSegment (base.toInt + offset.toInt)
  · rw [hexact h]
  · rw [Machine.load, Machine.load, dif_neg (mt hiff.mp h), dif_neg h]

lemma store_wrapped (m : Machine) {base offset : Int32}
    (hoffset : -131072 ≤ offset.toInt ∧ offset.toInt ≤ 131071) (v : Int32) :
    m.store (base + offset).toInt v = m.store (base.toInt + offset.toInt) v := by
  obtain ⟨hiff, hexact⟩ := inDataSegment_add_iff base hoffset
  by_cases h : InDataSegment (base.toInt + offset.toInt)
  · rw [hexact h]
  · rw [Machine.store, Machine.store, dif_neg (mt hiff.mp h), dif_neg h]

/-! ### Shifts -/

lemma toNat_toUInt32_ofInt (x : Int) : ((Int32.ofInt x).toUInt32.toNat : Int) = x % 2 ^ 32 := by
  rw [toNat_toUInt32, Int32.toInt_ofInt]
  simp [Int.bmod]
  omega

lemma toUInt32_injective {v w : Int32} (h : (v.toUInt32.toNat : Int) = w.toUInt32.toNat) :
    v = w := by
  have hword : v.toUInt32 = w.toUInt32 := UInt32.toNat_inj.mp (by exact_mod_cast h)
  simpa using congrArg UInt32.toInt32 hword

/-- Bits that are shifted out are lost, as in a multiplication. -/
lemma shiftLeft_eq (v : Int32) {amount : ℕ} (h : amount < 32) :
    (v.toUInt32 <<< UInt32.ofNat amount).toInt32 = ShiftDirection.left.apply v amount := by
  have hamount : (UInt32.ofNat amount).toNat = amount := UInt32.toNat_ofNat_of_lt' (by
    show amount < 4294967296
    omega)
  have hword := toNat_toUInt32 v
  apply toUInt32_injective
  rw [ShiftDirection.apply, toNat_toUInt32_ofInt, UInt32.toUInt32_toInt32, UInt32.toNat_shiftLeft,
    hamount, Nat.mod_eq_of_lt h, Nat.shiftLeft_eq]
  push_cast
  show _ % (2 : Int) ^ 32 = _ % (2 : Int) ^ 32
  rw [hword, Int.mul_emod, Int.emod_emod_of_dvd _ (dvd_refl _), ← Int.mul_emod]

lemma shiftLeft_wide (v : Int32) {amount : ℕ} (h : 32 ≤ amount) :
    ShiftDirection.left.apply v amount = 0 := by
  have hpow : (2 : Int) ^ 32 ∣ v.toInt * 2 ^ amount :=
    Dvd.dvd.mul_left (pow_dvd_pow 2 h) _
  apply toUInt32_injective
  rw [ShiftDirection.apply, toNat_toUInt32_ofInt, Int.emod_eq_zero_of_dvd hpow]
  rfl

lemma shiftRight_eq (v : Int32) {amount : ℕ} (h : amount < 32) :
    (v.toUInt32 >>> UInt32.ofNat amount).toInt32 = ShiftDirection.right.apply v amount := by
  have hamount : (UInt32.ofNat amount).toNat = amount := UInt32.toNat_ofNat_of_lt' (by
    show amount < 4294967296
    omega)
  have hword : v.toUInt32 >>> UInt32.ofNat amount =
      UInt32.ofNat (v.toUInt32.toNat / 2 ^ amount) := by
    have hlt := v.toUInt32.toNat_lt
    have hle := Nat.div_le_self v.toUInt32.toNat (2 ^ amount)
    rw [← UInt32.toNat_inj, UInt32.toNat_shiftRight, hamount, Nat.mod_eq_of_lt h,
      Nat.shiftRight_eq_div_pow, UInt32.toNat_ofNat_of_lt']
    exact hle.trans_lt hlt
  rw [ShiftDirection.apply, hword]

lemma shiftRight_wide (v : Int32) {amount : ℕ} (h : 32 ≤ amount) :
    ShiftDirection.right.apply v amount = 0 := by
  have hlt : v.toUInt32.toNat < 2 ^ amount :=
    v.toUInt32.toNat_lt.trans_le (Nat.pow_le_pow_right (by decide) h)
  rw [ShiftDirection.apply, Nat.div_eq_of_lt hlt]
  rfl

/-! ### Instructions -/

/-- The instruction a decoded register stands for, if it has a format. -/
def PipelineRegister.instruction (reg : PipelineRegister) : Option Instruction :=
  let r1 := registerIndex reg.r1
  let r2 := registerIndex reg.r2
  let r3 := registerIndex reg.r3
  if !reg.valid then none
  else
    match reg.opcode with
    | .add => some (.arithmetic .add r1 r2 r3)
    | .sub => some (.arithmetic .sub r1 r2 r3)
    | .mul => some (.arithmetic .mul r1 r2 r3)
    | .and => some (.arithmetic .and r1 r2 r3)
    | .lsl => some (.shift .left r1 r2 reg.shamt.toNat)
    | .lsr => some (.shift .right r1 r2 reg.shamt.toNat)
    | .movi => some (.movi r1 reg.immediate.toInt)
    | .ori => some (.xori r1 r2 reg.immediate.toInt)
    | .movr => some (.movr r1 r2 reg.immediate.toInt)
    | .movm => some (.movm r1 r2 reg.immediate.toInt)
    | .jeq => some (.jeq r1 r2 reg.immediate.toInt)
    | .jmp => some (.jmp reg.address.toInt.toNat)
    | .reserved _ => none

lemma valid_of_instruction {i : Instruction} (h : reg.instruction = some i) : reg.valid = true := by
  by_contra hv
  simp [PipelineRegister.instruction, hv] at h

/-- The ranges of the fields of a decoded word. -/
structure InRange (d : PipelineRegister) : Prop where
  r1 : 0 ≤ d.r1 ∧ d.r1 < 32
  r2 : 0 ≤ d.r2 ∧ d.r2 < 32
  r3 : 0 ≤ d.r3 ∧ d.r3 < 32
  immediate : -131072 ≤ d.immediate.toInt ∧ d.immediate.toInt ≤ 131071
  shamt : 0 ≤ d.shamt
  address : d.opcode = .jmp → 0 ≤ d.address.toInt ∧ d.address.toInt < 2 ^ 28

lemma inRange_decoded (pc raw : UInt32) (hcode : (rawOpcode raw).code < 12) :
    InRange (decodeRawInstruction (fetchedRegister pc raw)) where
  r1 := (decodeRawInstruction_registers _).1
  r2 := (decodeRawInstruction_registers _).2.1
  r3 := (decodeRawInstruction_registers _).2.2
  immediate := decodeRawInstruction_immediate _
  shamt := (entering_decoded pc raw 0 0 hcode).shamt
  address := (entering_decoded pc raw 0 0 hcode).address

/-! ### One instruction -/

section Execute

variable {d : PipelineRegister} {i : Instruction} (m : Sequential)

/-- What is left of a step once the instruction at the program counter has been decoded. -/
def Sequential.executed (m : Sequential) (d : PipelineRegister) : CPU :=
  let reg := exResult (latchOperands (readRegister m.cpu) d)
  (wbResult (memResult m.cpu reg).2 (memResult m.cpu reg).1).setPc (nextPc reg)

/-- An instruction that is neither a branch nor a memory access writes its ALU result. -/
lemma executed_alu (hd : Decoded d) (hvalid : d.valid = true)
    (halu : opcodeAluOperation d.opcode ≠ .none) :
    m.executed d = (writeRegister m.cpu d.r1
      (exAluResult (latchOperands (readRegister m.cpu) d))).setPc (d.pc + 1) := by
  have hcontrol := hd.control
  cases hop : d.opcode <;> simp only [hop, opcodeAluOperation, ne_eq, not_true_eq_false] at halu
  all_goals
    simp [Sequential.executed, latchOperands, hop, exResult, memResult, wbResult, committedWrite,
      instructionWritesRegister, opcodeWritesRegister, hcontrol, generateControlSignals,
      ControlSignals.zeroed, hvalid, nextPc, calculateBranchTarget]

lemma executed_movr (hd : Decoded d) (hvalid : d.valid = true) (hop : d.opcode = .movr) :
    m.executed d =
      (writeRegister (readMemory m.cpu (readRegister m.cpu d.r2 + d.immediate)).2 d.r1
        (readMemory m.cpu (readRegister m.cpu d.r2 + d.immediate)).1).setPc (d.pc + 1) := by
  have hcontrol := hd.control
  simp [Sequential.executed, latchOperands, hop, exResult, memResult, wbResult, committedWrite,
    instructionWritesRegister, opcodeWritesRegister, hcontrol, generateControlSignals,
    ControlSignals.zeroed, hvalid, nextPc, calculateBranchTarget]

lemma executed_movm (hd : Decoded d) (hvalid : d.valid = true) (hop : d.opcode = .movm) :
    m.executed d =
      (writeMemory m.cpu (readRegister m.cpu d.r2 + d.immediate)
        (readRegister m.cpu d.r1)).setPc (d.pc + 1) := by
  have hcontrol := hd.control
  simp [Sequential.executed, latchOperands, hop, exResult, memResult, wbResult, committedWrite,
    instructionWritesRegister, opcodeWritesRegister, hcontrol, generateControlSignals,
    ControlSignals.zeroed, hvalid, nextPc, calculateBranchTarget]

/-- A branch only moves the program counter. -/
lemma executed_branch (hd : Decoded d) (hop : d.opcode = .jeq ∨ d.opcode = .jmp) :
    m.executed d = m.cpu.setPc
      ((calculateBranchTarget (latchOperands (readRegister m.cpu) d)).getD (d.pc + 1)) := by
  have hcontrol := hd.control
  rcases hop with hop | hop
  all_goals
    simp [Sequential.executed, nextPc, calculateBranchTarget_exResult, memResult, wbResult,
      committedWrite, instructionWritesRegister, opcodeWritesRegister, hcontrol, hop,
      generateControlSignals, ControlSignals.zeroed]

/-- On to the next address. -/
lemma machine_advance {c : CPU} {w : UInt32} (hw : w.toNat = c.pc.toNat + 1) :
    (c.setPc w).machine = c.machine.next := by
  rw [machine_setPc, hw]
  rfl

lemma toNat_succ {pc : UInt32} (hroom : pc.toNat < 1024) : (pc + 1).toNat = pc.toNat + 1 := by
  rw [UInt32.toNat_add]
  show (pc.toNat + 1) % 4294967296 = _
  omega

/-- The target of a jump within the first 2^28 words is its address. -/
lemma toNat_jumpTarget (pc : UInt32) {address : Int32} (hpc : pc.toNat < 2 ^ 28)
    (haddress : 0 ≤ address.toInt ∧ address.toInt < 2 ^ 28) :
    ((pc &&& 0xF0000000) ||| (address.toUInt32 &&& 0x0FFFFFFF)).toNat = address.toInt.toNat := by
  have hword := toNat_toUInt32 address
  have hfield : (address.toUInt32 &&& 0x0FFFFFFF).toNat = address.toUInt32.toNat % 2 ^ 28 :=
    toNat_and_mask address.toUInt32 _ (k := 28) rfl
  rw [and_upperBits_eq_zero hpc, UInt32.zero_or, hfield]
  omega

/-- The value of a shift, whatever its amount. -/
lemma exAluResult_lsl (hd : Decoded d) (hop : d.opcode = .lsl) (hshamt : 0 ≤ d.shamt)
    (read : Int → Int32) :
    exAluResult (latchOperands read d) =
      ShiftDirection.left.apply (read d.r2) d.shamt.toNat := by
  simp only [exAluResult, latchOperands, hop, hd.control, generateControlSignals_aluOp,
    opcodeAluOperation]
  split_ifs with hout
  · exact (shiftLeft_wide _ (by omega)).symm
  · exact shiftLeft_eq _ (by omega)

lemma exAluResult_lsr (hd : Decoded d) (hop : d.opcode = .lsr) (hshamt : 0 ≤ d.shamt)
    (read : Int → Int32) :
    exAluResult (latchOperands read d) =
      ShiftDirection.right.apply (read d.r2) d.shamt.toNat := by
  simp only [exAluResult, latchOperands, hop, hd.control, generateControlSignals_aluOp,
    opcodeAluOperation]
  split_ifs with hout
  · exact (shiftRight_wide _ (by omega)).symm
  · exact shiftRight_eq _ (by omega)

variable (hd : Decoded d) (hr : InRange d) (hpc : d.pc = m.cpu.pc) (hroom : m.cpu.pc.toNat < 1024)
include hd hr hpc hroom

/-- The instructions that compute a value. -/
lemma machine_executed_alu (hi : d.instruction = some i)
    (halu : opcodeAluOperation d.opcode ≠ .none) :
    (m.executed d).machine = m.cpu.machine.execute i := by
  have hvalid := valid_of_instruction hi
  have hcontrol := hd.control
  have hnext : (d.pc + 1).toNat = (writeRegister m.cpu d.r1
      (exAluResult (latchOperands (readRegister m.cpu) d))).pc.toNat + 1 := by
    rw [hpc, toNat_succ hroom, writeRegister_pc]
  have h2 := machine_registers m.cpu hr.r2
  have h3 := machine_registers m.cpu hr.r3
  rw [executed_alu m hd hvalid halu, machine_advance hnext, machine_writeRegister _ hr.r1]
  cases hop : d.opcode <;> simp only [hop, opcodeAluOperation, ne_eq, not_true_eq_false] at halu
  case add | sub | mul | and =>
    simp only [PipelineRegister.instruction, hvalid, hop] at hi
    obtain rfl := Option.some.inj hi
    simp [Machine.execute, ArithmeticOperation.apply, latchOperands, hop, exAluResult, hcontrol,
      opcodeAluOperation, h2, h3]
  case movi =>
    simp only [PipelineRegister.instruction, hvalid, hop] at hi
    obtain rfl := Option.some.inj hi
    simp [Machine.execute, latchOperands, hop, exAluResult, hcontrol, opcodeAluOperation]
  case ori =>
    simp only [PipelineRegister.instruction, hvalid, hop] at hi
    obtain rfl := Option.some.inj hi
    simp [Machine.execute, latchOperands, hop, exAluResult, hcontrol, opcodeAluOperation, h2]
  case lsl =>
    simp only [PipelineRegister.instruction, hvalid, hop] at hi
    obtain rfl := Option.some.inj hi
    rw [exAluResult_lsl hd hop hr.shamt, Machine.execute, h2]
  case lsr =>
    simp only [PipelineRegister.instruction, hvalid, hop] at hi
    obtain rfl := Option.some.inj hi
    rw [exAluResult_lsr hd hop hr.shamt, Machine.execute, h2]

/-- The instructions that access memory. -/
lemma machine_executed_memory (hi : d.instruction = some i)
    (hop : d.opcode = .movr ∨ d.opcode = .movm) :
    (m.executed d).machine = m.cpu.machine.execute i := by
  have hvalid := valid_of_instruction hi
  have h1 := machine_registers m.cpu hr.r1
  have h2 := machine_registers m.cpu hr.r2
  rcases hop with hop | hop
  · simp only [PipelineRegister.instruction, hvalid, hop] at hi
    obtain rfl := Option.some.inj hi
    obtain ⟨hvalue, hmachine⟩ :=
      machine_readMemory m.cpu (readRegister m.cpu d.r2 + d.immediate)
    rw [executed_movr m hd hvalid hop, machine_advance, machine_writeRegister _ hr.r1, hmachine,
      hvalue, load_wrapped _ hr.immediate, Machine.execute, Machine.address, h2]
    rw [hpc, toNat_succ hroom, writeRegister_pc, readMemory_pc]
  · simp only [PipelineRegister.instruction, hvalid, hop] at hi
    obtain rfl := Option.some.inj hi
    rw [executed_movm m hd hvalid hop, machine_advance, machine_writeMemory,
      store_wrapped _ hr.immediate, Machine.execute, Machine.address, h1, h2]
    rw [hpc, toNat_succ hroom, writeMemory_pc]

/-- The branches. -/
lemma machine_executed_branch (hi : d.instruction = some i)
    (hop : d.opcode = .jeq ∨ d.opcode = .jmp) :
    (m.executed d).machine = m.cpu.machine.execute i := by
  have hvalid := valid_of_instruction hi
  have h1 := machine_registers m.cpu hr.r1
  have h2 := machine_registers m.cpu hr.r2
  have hnext : (m.cpu.setPc (d.pc + 1)).machine = m.cpu.machine.next :=
    machine_advance (by rw [hpc, toNat_succ hroom])
  have hmachinePc : (m.cpu.machine.pc : Int) = d.pc.toNat := by
    rw [hpc]
    rfl
  rw [executed_branch m hd hop]
  rcases hop with hop | hop
  · simp only [PipelineRegister.instruction, hvalid, hop] at hi
    obtain rfl := Option.some.inj hi
    simp only [Machine.execute, h1, h2, hmachinePc]
    simp only [calculateBranchTarget, latchOperands, hop]
    split_ifs with heq hout
    · rw [Option.getD_none, hnext, Machine.goto, if_neg (by omega)]
    · have hbound : d.pc.toNat + 1 + d.immediate.toInt < 1024 := by
        change ¬ (_ ∨ _ ≥ (1024 : Int)) at hout
        omega
      rw [Option.getD_some, machine_setPc, Machine.goto, if_pos (by omega), UInt32.toNat_ofNat',
        Nat.mod_eq_of_lt (by omega)]
    · rw [Option.getD_none, hnext]
  · simp only [PipelineRegister.instruction, hvalid, hop] at hi
    obtain rfl := Option.some.inj hi
    have haddress := hr.address hop
    have htarget := toNat_jumpTarget d.pc (by rw [hpc]; omega) haddress
    simp only [Machine.execute]
    simp only [calculateBranchTarget, latchOperands, hop]
    split_ifs with hout
    · rw [Option.getD_none, hnext, Machine.goto, if_neg]
      rw [htarget] at hout
      omega
    · rw [Option.getD_some, machine_setPc, htarget, Machine.goto, if_pos]
      · rfl
      · rw [htarget] at hout
        omega

end Execute

/-- Executing a decoded word is executing its instruction. -/
lemma machine_executed {d : PipelineRegister} {i : Instruction} (m : Sequential) (hd : Decoded d)
    (hr : InRange d) (hpc : d.pc = m.cpu.pc) (hroom : m.cpu.pc.toNat < 1024)
    (hi : d.instruction = some i) : (m.executed d).machine = m.cpu.machine.execute i := by
  cases hop : d.opcode with
  | add | sub | mul | and | movi | ori | lsl | lsr =>
    exact machine_executed_alu m hd hr hpc hroom hi (by simp [hop, opcodeAluOperation])
  | movr | movm => exact machine_executed_memory m hd hr hpc hroom hi (by simp [hop])
  | jeq | jmp => exact machine_executed_branch m hd hr hpc hroom hi (by simp [hop])
  | reserved k => simp [PipelineRegister.instruction, hop] at hi

/-! ### Programs -/

/-- The instruction a word stands for. -/
def wordInstruction (word : UInt32) : Option Instruction :=
  (decodeRawInstruction (fetchedRegister 0 word)).instruction

/-- The address of a word is not part of its instruction. -/
lemma instruction_fetchedRegister (pc word : UInt32) :
    (decodeRawInstruction (fetchedRegister pc word)).instruction = wordInstruction word := by
  have hdecode : decodeRawInstruction (fetchedRegister pc word) =
      { decodeRawInstruction (fetchedRegister 0 word) with pc := pc } := by
    simp only [decodeRawInstruction, fetchedRegister]
    split <;> rfl
  rw [hdecode]
  rfl

lemma code_lt_of_wordInstruction {word : UInt32} {i : Instruction}
    (h : wordInstruction word = some i) : (rawOpcode word).code < 12 := by
  have hvalid := valid_of_instruction h
  rw [decodeRawInstruction_valid] at hvalid
  exact of_decide_eq_true ((Bool.and_eq_true _ _ ▸ hvalid : _ ∧ _).2)

/-- Instruction memory holds the words of a program. -/
structure Holds (program : List Instruction) (cpu : CPU) : Prop where
  room : program.length ≤ 1024
  count : cpu.instructionCount.toUInt32.toNat = program.length
  words : ∀ a : UInt32, a.toNat < program.length →
    wordInstruction (memoryFetchInstruction cpu a) = program[a.toNat]?

lemma Holds.sameProgram {cpu cpu' : CPU} (h : Holds program cpu) (hsame : SameProgram cpu cpu') :
    Holds program cpu' where
  room := h.room
  count := by rw [hsame.count, h.count]
  words a ha := by rw [memoryFetchInstruction_congr hsame.memory, h.words a ha]

lemma Holds.formatted (h : Holds program cpu) : Formatted cpu := by
  intro a ha
  rw [UInt32.lt_iff_toNat_lt, h.count] at ha
  have hword := h.words a ha
  rw [List.getElem?_eq_getElem ha] at hword
  have hvalid := valid_of_instruction hword
  rw [decodeRawInstruction_valid] at hvalid
  exact of_decide_eq_true hvalid

/-- The CPU runs as long as the machine does. -/
lemma Holds.running_iff (h : Holds program cpu) :
    running cpu = true ↔ cpu.pc.toNat < program.length := by
  rw [running, decide_eq_true_iff, UInt32.lt_iff_toNat_lt, h.count]

lemma Holds.running_eq (h : Holds program cpu) :
    running cpu = !Machine.halted program cpu.machine := by
  rw [Bool.eq_iff_iff, h.running_iff, Machine.halted, Bool.not_eq_true', decide_eq_false_iff_not,
    Nat.not_le]
  rfl

/-- A step of the sequential machine is a step of the program. -/
theorem Holds.machine_step {m : Sequential} (h : Holds program m.cpu) :
    m.step.cpu.machine = m.cpu.machine.step program := by
  by_cases hrun : running m.cpu = true
  · have hpc := h.running_iff.mp hrun
    have hword : program[m.cpu.machine.pc]? = some program[m.cpu.pc.toNat] :=
      List.getElem?_eq_getElem hpc
    have hinstruction := h.words m.cpu.pc hpc
    rw [List.getElem?_eq_getElem hpc] at hinstruction
    have hcode := code_lt_of_wordInstruction hinstruction
    have hdecoded := instruction_fetchedRegister m.cpu.pc (memoryFetchInstruction m.cpu m.cpu.pc)
    rw [hinstruction] at hdecoded
    have hexecuted := machine_executed m (decoded_decodeRawInstruction _)
      (inRange_decoded m.cpu.pc _ hcode) (decodeRawInstruction_pc _)
      (hpc.trans_le h.room) hdecoded
    have hvalid : (sequentialInstruction m.cpu).valid = true := by
      rw [sequentialInstruction, latchOperands_valid]
      exact valid_of_instruction hdecoded
    rw [Machine.step, hword]
    show _ = m.cpu.machine.execute program[m.cpu.pc.toNat]
    rw [← hexecuted, Sequential.step]
    simp only [hrun, hvalid, Bool.not_true, Bool.false_eq_true, if_false]
    rfl
  · have hhalted : Machine.halted program m.cpu.machine = true := by
      have heq := h.running_eq
      rw [Bool.not_eq_true] at hrun
      rw [hrun] at heq
      simpa using heq.symm
    rw [Machine.step_of_halted hhalted, Sequential.step]
    simp [hrun]

/-- The sequential machine runs the program. -/
theorem Holds.machine_run (h : Holds program cpu) (k : ℕ) :
    (machineAt cpu k).cpu.machine = cpu.machine.run program k := by
  induction k with
  | zero => rfl
  | succ k ih =>
    rw [machineAt_succ, (h.sameProgram (sameProgram_machineAt cpu k)).machine_step, ih, Machine.run,
      Machine.run, Function.iterate_succ_apply']

lemma Holds.running_machineAt (h : Holds program cpu) (k : ℕ) :
    running (machineAt cpu k).cpu = !Machine.halted program (cpu.machine.run program k) := by
  rw [(h.sameProgram (sameProgram_machineAt cpu k)).running_eq, h.machine_run k]

end Fillet
