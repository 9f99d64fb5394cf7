import Fillet.Model.Cpu

/-!
# The assembly language

What a program of this assembly language means, apart from words, pipeline registers and cycles:
instructions with their operands as numbers, and a machine with a register file, a data segment and
a program counter that executes them one after the other. Addresses and branch targets are computed
in unbounded arithmetic, shifts multiply and divide by powers of two.
-/

namespace Fillet

/-- The operations on two registers. -/
inductive ArithmeticOperation where
  | add | sub | mul | and
  deriving DecidableEq, Repr

/-- The two shifts. -/
inductive ShiftDirection where
  | left | right
  deriving DecidableEq, Repr

/-- An instruction with its operands. -/
inductive Instruction where
  | arithmetic (operation : ArithmeticOperation) (r1 r2 r3 : Fin registerCount)
  | shift (direction : ShiftDirection) (r1 r2 : Fin registerCount) (amount : ℕ)
  | movi (r1 : Fin registerCount) (immediate : Int)
  | xori (r1 r2 : Fin registerCount) (immediate : Int)
  | movr (r1 r2 : Fin registerCount) (offset : Int)
  | movm (r1 r2 : Fin registerCount) (offset : Int)
  | jeq (r1 r2 : Fin registerCount) (offset : Int)
  | jmp (address : ℕ)
  deriving DecidableEq, Repr

abbrev dataMemorySize : ℕ := 1024

/-- The state of the machine. R0 holds 0. -/
@[ext] structure Machine where
  registers : Fin registerCount → Int32
  registers_zero : registers 0 = 0
  data : Fin dataMemorySize → Int32
  pc : ℕ

/-- The machine with everything set to 0. -/
def Machine.initial : Machine where
  registers := fun _ => 0
  registers_zero := rfl
  data := fun _ => 0
  pc := 0

/-- The value of an operation, as a 32-bit integer that wraps around. -/
def ArithmeticOperation.apply : ArithmeticOperation → Int32 → Int32 → Int32
  | .add, a, b => a + b
  | .sub, a, b => a - b
  | .mul, a, b => a * b
  | .and, a, b => a &&& b

/-- A shift to the left multiplies, a shift to the right divides the unsigned value. -/
def ShiftDirection.apply : ShiftDirection → Int32 → ℕ → Int32
  | .left, v, amount => Int32.ofInt (v.toInt * 2 ^ amount)
  | .right, v, amount => (UInt32.ofNat (v.toUInt32.toNat / 2 ^ amount)).toInt32

/-- The data segment. -/
def InDataSegment (address : Int) : Prop :=
  1024 ≤ address ∧ address < 2048

instance (address : Int) : Decidable (InDataSegment address) :=
  inferInstanceAs (Decidable (_ ∧ _))

/-- The cell of an address in the data segment. -/
def dataCell (address : Int) (h : InDataSegment address) : Fin dataMemorySize :=
  ⟨(address - 1024).toNat, by
    obtain ⟨hlow, hhigh⟩ := h
    show (address - 1024).toNat < 1024
    omega⟩

namespace Machine

/-- A register is written; R0 keeps its value. -/
def write (m : Machine) (r : Fin registerCount) (value : Int32) : Machine :=
  if h : r = 0 then m
  else
    { m with
      registers := Function.update m.registers r value
      registers_zero := (Function.update_of_ne (Ne.symm h) ..).trans m.registers_zero }

/-- The word at an address; 0 outside the data segment. -/
def load (m : Machine) (address : Int) : Int32 :=
  if h : InDataSegment address then m.data (dataCell address h) else 0

/-- A word is stored; nothing happens outside the data segment. -/
def store (m : Machine) (address : Int) (value : Int32) : Machine :=
  if h : InDataSegment address then
    { m with data := Function.update m.data (dataCell address h) value }
  else m

/-- On to the next instruction. -/
def next (m : Machine) : Machine :=
  { m with pc := m.pc + 1 }

/-- A jump; a target outside instruction memory is ignored. -/
def goto (m : Machine) (target : Int) : Machine :=
  if 0 ≤ target ∧ target < instructionMemorySize then { m with pc := target.toNat } else m.next

/-- The address a register and an offset make. -/
def address (m : Machine) (base : Fin registerCount) (offset : Int) : Int :=
  (m.registers base).toInt + offset

/-- One instruction. -/
def execute (m : Machine) : Instruction → Machine
  | .arithmetic operation r1 r2 r3 =>
    (m.write r1 (operation.apply (m.registers r2) (m.registers r3))).next
  | .shift direction r1 r2 amount => (m.write r1 (direction.apply (m.registers r2) amount)).next
  | .movi r1 immediate => (m.write r1 (Int32.ofInt immediate)).next
  | .xori r1 r2 immediate => (m.write r1 (m.registers r2 ^^^ Int32.ofInt immediate)).next
  | .movr r1 r2 offset => (m.write r1 (m.load (m.address r2 offset))).next
  | .movm r1 r2 offset => (m.store (m.address r2 offset) (m.registers r1)).next
  | .jeq r1 r2 offset =>
    if m.registers r1 = m.registers r2 then m.goto (m.pc + 1 + offset) else m.next
  | .jmp address => m.goto address

/-- The machine halts behind the last instruction. -/
def halted (program : List Instruction) (m : Machine) : Bool :=
  program.length ≤ m.pc

/-- One step of a program. -/
def step (program : List Instruction) (m : Machine) : Machine :=
  match program[m.pc]? with
  | none => m
  | some instruction => m.execute instruction

/-- `k` steps of a program. -/
def run (program : List Instruction) (k : ℕ) (m : Machine) : Machine :=
  (step program)^[k] m

lemma step_of_halted {program : List Instruction} {m : Machine} (h : halted program m = true) :
    m.step program = m := by
  rw [step, List.getElem?_eq_none (of_decide_eq_true h)]

@[simp] lemma write_zero (m : Machine) (v : Int32) : m.write 0 v = m :=
  dif_pos rfl

/-- Two machines agree when their registers, data and program counters do. -/
lemma ext_fields {m m' : Machine} (hregisters : ∀ r, m.registers r = m'.registers r)
    (hdata : ∀ i, m.data i = m'.data i) (hpc : m.pc = m'.pc) : m = m' :=
  Machine.ext (funext hregisters) (funext hdata) hpc

end Machine

end Fillet
