import Fillet.Language.Translation
import Fillet.Library.Reaching

/-!
# A logic for programs

Total correctness with a bound on the number of instructions, for programs of the assembly language.
What is proved of a text with its rules is true of the simulation of the assembled file, and a bound
on the instructions is a bound on the cycles.
-/

namespace Fillet

open CString Reaching

/-- From a state the program gets to a state of `Q` within `n` instructions. -/
abbrev ProgramReaches (program : List Instruction) : (Machine → Prop) → ℕ → Machine → Prop :=
  Reaches (Machine.step program) fun m => !Machine.halted program m

/-- Started in a state of `P` the program halts in a state of `Q`, within so many instructions. -/
def Terminates (program : List Instruction) (P Q : Machine → Prop) (time : Machine → ℕ) : Prop :=
  ∀ m, P m →
    ProgramReaches program (fun m => Machine.halted program m = true ∧ Q m) (time m) m

/-! ### Rules -/

section Rules

variable {program : List Instruction} {Q : Machine → Prop} {n : ℕ} {m : Machine}

/-- The rule for an instruction. -/
lemma reaches_execute {i : Instruction} (h : program[m.pc]? = some i)
    (hnext : ProgramReaches program Q n (m.execute i)) : ProgramReaches program Q (n + 1) m := by
  have hstep : m.step program = m.execute i := by rw [Machine.step, h]
  refine .onward ?_ (hstep ▸ hnext)
  rw [Machine.halted, Bool.not_eq_true', decide_eq_false_iff_not, Nat.not_le]
  exact (List.getElem?_eq_some_iff.mp h).1

/-! What an instruction does to registers and the program counter. -/

lemma Machine.registers_write (m : Machine) (r r' : Fin registerCount) (v : Int32) :
    (m.write r v).registers r' = if r' = r ∧ r ≠ 0 then v else m.registers r' := by
  by_cases hzero : r = 0
  · simp [Machine.write, hzero]
  · by_cases hr : r' = r
    · rw [if_pos ⟨hr, hzero⟩, Machine.write, dif_neg hzero, hr]
      exact Function.update_self ..
    · rw [if_neg fun hboth => hr hboth.1, Machine.write, dif_neg hzero]
      exact Function.update_of_ne hr ..

@[simp] lemma Machine.pc_write (m : Machine) (r : Fin registerCount) (v : Int32) :
    (m.write r v).pc = m.pc := by
  rw [Machine.write]
  split_ifs <;> rfl

@[simp] lemma Machine.pc_next (m : Machine) : m.next.pc = m.pc + 1 := rfl

@[simp] lemma Machine.registers_next (m : Machine) : m.next.registers = m.registers := rfl

@[simp] lemma Machine.registers_goto (m : Machine) (target : Int) :
    (m.goto target).registers = m.registers := by
  rw [Machine.goto]
  split_ifs <;> rfl

lemma Machine.pc_goto (m : Machine) {target : ℕ} (h : target < 1024) :
    (m.goto target).pc = target := by
  have hin : 0 ≤ (target : Int) ∧ (target : Int) < instructionMemorySize := by
    show 0 ≤ (target : Int) ∧ (target : Int) < 1024
    omega
  rw [Machine.goto, if_pos hin]
  exact Int.toNat_natCast target

end Rules

/-! ### Soundness -/

/-- What is proved of a program is true of the simulation of a CPU that holds it. -/
lemma Holds.simulation_of_terminates {program : List Instruction} {cpu : CPU}
    (hholds : Holds program cpu) {P Q : Machine → Prop} {time : Machine → ℕ}
    (hprogram : Terminates program P Q time) (hP : P cpu.machine) {n : ℕ}
    (hn : 6 * time cpu.machine + 7 ≤ n) :
    (simulate n cpu none).hasWork = false ∧ Q (simulate n cpu none).cpu.machine ∧
      (simulate n cpu none).engine.cycle ≤ 6 * time cpu.machine + 7 := by
  obtain ⟨k, hk, -, hhalt, hQ⟩ := (hprogram _ hP).run
  have hcycles : 6 * k + 7 ≤ 6 * time cpu.machine + 7 := by omega
  obtain ⟨hdone, hfinal⟩ := hholds.no_work (k := k) hhalt (hcycles.trans hn)
  have hearly : simulate n cpu none = simulate (6 * time cpu.machine + 7) cpu none :=
    BoundedLoop.boundedWhile_of_exit hn (hholds.no_work (k := k) hhalt hcycles).1
  refine ⟨hdone, hfinal ▸ hQ, ?_⟩
  rw [hearly]
  exact simulate_cycle_le _ cpu

/-- What the logic proves of a text is true of its simulation: started in a state of `P` the
simulation ends by itself in a state of `Q`, after at most six cycles for each instruction and seven
more. -/
theorem logic_sound {text : List Char}
    (hlines : ∀ line ∈ lines text, line.length ≤ lineCapacity ∧ JumpFits line)
    {P Q : Machine → Prop} {time : Machine → ℕ}
    (hprogram : Terminates (sourceProgram (some text)) P Q time)
    (cpu : CPU) (hP : P cpu.machine) (filepath : List Char) (options : PipelineSimOptions)
    (hbound : 6 * time cpu.machine + 7 ≤ options.cycleBound) :
    let s := pipelineSimRun (parseAssemblyFile cpu filepath (some text)).1 none options
    s.hasWork = false ∧ Q s.cpu.machine ∧ s.engine.cycle ≤ 6 * time cpu.machine + 7 := by
  have hmachine := machine_parse cpu filepath text
  rw [← hmachine] at hP hbound ⊢
  exact (holds_assembled cpu filepath hlines).simulation_of_terminates hprogram hP hbound

/-! ### A program with a loop -/

/-- R2 becomes the product of R1 and R3; R4 holds 1. -/
def multiplyText : List Char :=
  "JEQ R1 R0 3\nADD R2 R2 R3\nSUB R1 R1 R4\nJMP 0\n".toList

def multiplyProgram : List Instruction :=
  sourceProgram (some multiplyText)

lemma multiplyProgram_eq :
    multiplyProgram = [.jeq 1 0 3, .arithmetic .add 2 2 3, .arithmetic .sub 1 1 4, .jmp 0] := by
  decide

/-- The invariant of the loop, with R1 as its variant. -/
structure MultiplyLoop (product : Int32) (m : Machine) : Prop where
  pc : m.pc = 0
  sign : 0 ≤ (m.registers 1).toInt
  sum : m.registers 2 + m.registers 1 * m.registers 3 = product
  one : m.registers 4 = 1

lemma toInt_sub_one {v : Int32} (hsign : 0 ≤ v.toInt) (hne : v ≠ 0) :
    (v - 1).toInt = v.toInt - 1 := by
  have hone : (1 : Int32).toInt = 1 := rfl
  have hpos : v.toInt ≠ 0 := fun hz => hne (Int32.toInt_inj.mp hz)
  have hlt := v.toInt_lt
  rw [Int32.toInt_sub, hone, Int.bmod_eq_of_le] <;> omega

/-- One turn of the loop, of at most four instructions. -/
lemma multiply_turn {product : Int32} {m : Machine} (h : MultiplyLoop product m) :
    ProgramReaches multiplyProgram
      (fun m' => (Machine.halted multiplyProgram m' = true ∧ m'.registers 2 = product) ∨
        MultiplyLoop product m' ∧ (m'.registers 1).toInt.toNat < (m.registers 1).toInt.toNat)
      4 m := by
  have hzero : m.registers 0 = 0 := m.registers_zero
  have hsum := h.sum
  refine reaches_execute (i := .jeq 1 0 3) (by rw [h.pc, multiplyProgram_eq]; rfl) ?_
  by_cases hdone : m.registers 1 = 0
  · have hpc : (m.pc : Int) + 1 + 3 = (4 : ℕ) := by rw [h.pc]; rfl
    have hnext : m.execute (.jeq 1 0 3) = m.goto (4 : ℕ) := by
      rw [Machine.execute, hzero, if_pos hdone, hpc]
    refine .here (Or.inl ?_)
    rw [hdone] at hsum
    rw [hnext, Machine.halted, Machine.pc_goto m (by decide), Machine.registers_goto,
      multiplyProgram_eq]
    exact ⟨by decide, by grind⟩
  · have hnext : m.execute (.jeq 1 0 3) = m.next := by
      rw [Machine.execute, hzero, if_neg hdone]
    rw [hnext]
    have hfetch : ∀ (a : ℕ) (m' : Machine), m'.pc = a →
        multiplyProgram[m'.pc]? = ([.jeq 1 0 3, .arithmetic .add 2 2 3, .arithmetic .sub 1 1 4,
          .jmp 0] : List Instruction)[a]? := by
      rintro _ m' rfl
      rw [multiplyProgram_eq]
    refine reaches_execute (i := .arithmetic .add 2 2 3) (hfetch 1 _ (by simp [h.pc])) ?_
    refine reaches_execute (i := .arithmetic .sub 1 1 4)
      (hfetch 2 _ (by simp [Machine.execute, h.pc])) ?_
    refine reaches_execute (i := .jmp 0) (hfetch 3 _ (by simp [Machine.execute, h.pc]))
      (.here (Or.inr ?_))
    set m' := ((m.next.execute (.arithmetic .add 2 2 3)).execute (.arithmetic .sub 1 1 4)).execute
      (.jmp 0) with hm'
    have hregisters : m'.registers 1 = m.registers 1 - 1 ∧
        m'.registers 2 = m.registers 2 + m.registers 3 ∧ m'.registers 3 = m.registers 3 ∧
        m'.registers 4 = 1 := by
      simp [hm', Machine.execute, Machine.registers_write, ArithmeticOperation.apply, h.one]
    obtain ⟨h1, h2, h3, h4⟩ := hregisters
    have hsign := h.sign
    have hless := toInt_sub_one hsign hdone
    have hpos : (m.registers 1).toInt ≠ 0 := fun hz => hdone (Int32.toInt_inj.mp hz)
    refine ⟨⟨Machine.pc_goto _ (by decide), ?_, ?_, h4⟩, ?_⟩
    · rw [h1, hless]
      omega
    · rw [h1, h2, h3, ← hsum]
      grind
    · rw [h1, hless]
      omega

/-- The program multiplies, whatever the factors are, as long as the first is not negative. -/
lemma terminates_multiplyProgram (product : Int32) :
    Terminates multiplyProgram (MultiplyLoop product)
      (fun m : Machine => m.registers 2 = product)
      fun m : Machine => 4 * ((m.registers 1).toInt.toNat + 1) :=
  fun _ hm => reaches_of_loop (fun m : Machine => (m.registers 1).toInt.toNat) 4
    (fun _ h => multiply_turn h) hm

/-- R1 is 3 and R3 is 7. -/
def factors : CPU :=
  { cpuReset with
    registers := fun r =>
      if r.val = 1 then 3 else if r.val = 3 then 7 else if r.val = 4 then 1 else 0 }

lemma lines_multiplyText :
    ∀ line ∈ lines multiplyText, line.length ≤ lineCapacity ∧ JumpFits line := by
  have hlines : lines multiplyText = ["JEQ R1 R0 3".toList, "ADD R2 R2 R3".toList,
      "SUB R1 R1 R4".toList, "JMP 0".toList, []] := by
    decide
  rw [hlines]
  intro line hline
  simp only [List.mem_cons, List.not_mem_nil, or_false] at hline
  rcases hline with rfl | rfl | rfl | rfl | rfl
  case inr.inr.inr.inl => exact ⟨by decide, jumpFits_jmp_zero⟩
  all_goals exact ⟨by decide, jumpFits_of_no_jump (by decide)⟩

theorem logic_sound_multiply :
    (pipelineSimRun (parseAssemblyFile factors [] (some multiplyText)).1 none
      ⟨true, 1000⟩).cpu.machine.registers 2 = 21 := by
  have hstart : MultiplyLoop 21 factors.machine := by constructor <;> decide
  exact (logic_sound lines_multiplyText (terminates_multiplyProgram 21) factors hstart []
    ⟨true, 1000⟩ (by decide)).2.1

end Fillet
