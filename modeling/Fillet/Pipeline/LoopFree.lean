import Fillet.Library.Reaching
import Fillet.Pipeline.Completion

/-!
# Programs without loops

In a program whose branches all lead forward every instruction is executed at most once, in the
order of the addresses, and the simulation ends after a number of cycles that is known before it
starts.
-/

namespace Fillet

open Reaching

variable {cpu : CPU}

/-- Whatever the registers hold, no branch is taken to its own address or to one before it. -/
def LoopFree (cpu : CPU) : Prop :=
  ∀ (a : UInt32) (read : Int → Int32) (target : UInt32), a < cpu.instructionCount.toUInt32 →
    calculateBranchTarget (latchOperands read
      (decodeRawInstruction (fetchedRegister a (memoryFetchInstruction cpu a)))) = some target →
    a < target

lemma LoopFree.sameProgram {cpu' : CPU} (h : LoopFree cpu) (hsame : SameProgram cpu cpu') :
    LoopFree cpu' := by
  intro a read target ha htarget
  rw [hsame.count] at ha
  rw [memoryFetchInstruction_congr hsame.memory] at htarget
  exact h a read target ha htarget

/-- The number of instructions from the program counter to the end of the program. -/
def remaining (cpu : CPU) : ℕ :=
  cpu.instructionCount.toUInt32.toNat - cpu.pc.toNat

/-- An instruction leads to a later address. -/
lemma LoopFree.pc_lt_step {m : Sequential} (h : LoopFree m.cpu) (hrun : running m.cpu = true) :
    m.cpu.pc < m.step.cpu.pc := by
  have hpc : m.cpu.pc < m.cpu.instructionCount.toUInt32 := of_decide_eq_true hrun
  have hnext : m.cpu.pc < m.cpu.pc + 1 := by
    have hbound := m.cpu.instructionCount.toUInt32.toNat_lt
    rw [UInt32.lt_iff_toNat_lt] at hpc
    rw [UInt32.lt_iff_toNat_lt, UInt32.toNat_add, Nat.mod_eq_of_lt]
    · exact Nat.lt_succ_self _
    · exact Nat.lt_of_le_of_lt hpc hbound
  rw [step_pc hrun]
  cases htarget : calculateBranchTarget (sequentialInstruction m.cpu) with
  | none => exact hnext
  | some target => exact h m.cpu.pc _ target hpc htarget

/-- A sequential run of a program without loops: what has retired lies behind the program counter,
in order. -/
structure Ascending (cpu : CPU) (m : Sequential) : Prop where
  program : SameProgram cpu m.cpu
  behind : ∀ r ∈ m.retired, r.pc < m.cpu.pc
  order : (m.retired.map Retirement.pc).Pairwise (· < ·)

lemma memResult_reg_pc (cpu : CPU) (reg : PipelineRegister) :
    (memResult cpu reg).1.pc = reg.pc := by
  simp only [memResult]
  split_ifs <;> rfl

/-- At most the instruction at the program counter retires. -/
lemma Sequential.retired_step (m : Sequential) :
    m.step.retired = m.retired ∨ ∃ r, r.pc = m.cpu.pc ∧ m.step.retired = m.retired ++ [r] := by
  rw [Sequential.step]
  split_ifs
  · exact Or.inl rfl
  · dsimp only
    split_ifs
    · exact Or.inl rfl
    · refine Or.inr ⟨_, ?_, rfl⟩
      rw [retirement, memResult_reg_pc, exResult_pc, sequentialInstruction_pc]

lemma Ascending.next {m : Sequential} (h : Ascending cpu m) (hfree : LoopFree cpu)
    (hrun : running m.cpu = true) : Ascending cpu m.step := by
  have hlater := (hfree.sameProgram h.program).pc_lt_step hrun
  have hbehind : ∀ r ∈ m.retired, r.pc < m.step.cpu.pc :=
    fun r hr => UInt32.lt_trans (h.behind r hr) hlater
  refine ⟨h.program.trans (extends_step m).program, ?_, ?_⟩
  · rcases m.retired_step with hsame | ⟨r, hpc, happend⟩
    · rwa [hsame]
    · rw [happend, List.forall_mem_append, List.forall_mem_singleton]
      exact ⟨hbehind, hpc ▸ hlater⟩
  · rcases m.retired_step with hsame | ⟨r, hpc, happend⟩
    · rw [hsame]
      exact h.order
    · rw [happend, List.map_append, List.pairwise_append]
      refine ⟨h.order, List.pairwise_singleton _ _, ?_⟩
      intro a ha b hb
      obtain ⟨r', hr', rfl⟩ := List.mem_map.mp ha
      rw [List.map_singleton, List.mem_singleton] at hb
      rw [hb, hpc]
      exact h.behind r' hr'

/-- The sequential machine halts after at most the remaining instructions. -/
lemma LoopFree.halts (hfree : LoopFree cpu) :
    ∃ k ≤ remaining cpu,
      running (machineAt cpu k).cpu = false ∧ Ascending cpu (machineAt cpu k) := by
  have hstart : Ascending cpu (.start cpu) :=
    ⟨.refl cpu, fun r hr => absurd hr List.not_mem_nil, List.Pairwise.nil⟩
  have hreach : Reaches Sequential.step (fun m => running m.cpu)
      (fun m => running m.cpu = false ∧ Ascending cpu m) (remaining cpu) (.start cpu) := by
    refine reaches_of_rank (I := Ascending cpu) (fun m => remaining m.cpu) ?_ hstart
    intro m h
    cases hrun : running m.cpu with
    | false => exact Or.inl ⟨rfl, h⟩
    | true =>
      have hlater := UInt32.lt_iff_toNat_lt.mp ((hfree.sameProgram h.program).pc_lt_step hrun)
      have hpc := UInt32.lt_iff_toNat_lt.mp (of_decide_eq_true hrun)
      refine Or.inr ⟨rfl, h.next hfree hrun, ?_⟩
      rw [remaining, remaining, (extends_step m).program.count]
      omega
  obtain ⟨k, hk, -, hhalt⟩ := hreach.run
  exact ⟨k, hk, hhalt⟩

/-- The simulation of a program without loops ends within six cycles for each remaining instruction
and seven more, if `max_cycles` allows that many, and the addresses of the instructions that it
retires ascend. -/
theorem loop_free_run_ends (hfree : LoopFree cpu) (options : PipelineSimOptions)
    (hbound : 6 * remaining cpu + 7 ≤ options.cycleBound) :
    let s := pipelineSimRun cpu none options
    s.hasWork = false ∧ s.engine.cycle ≤ 6 * remaining cpu + 7 ∧
      (s.trace.retired.map fun r => r.2.pc).Pairwise (· < ·) := by
  intro s
  obtain ⟨k, hk, hhalt, hascending⟩ := hfree.halts
  have hcycles : 6 * k + 7 ≤ 6 * remaining cpu + 7 := by omega
  have hearly : s = simulate (6 * remaining cpu + 7) cpu none :=
    BoundedLoop.boundedWhile_of_exit hbound (no_work_of_halted hhalt hcycles)
  have hdone : s.hasWork = false := hearly ▸ no_work_of_halted hhalt hcycles
  refine ⟨hdone, hearly ▸ simulate_cycle_le _ cpu, ?_⟩
  obtain ⟨j, -, hj, hhistory⟩ := simulate_of_no_work hdone
  have horder := hascending.order
  rw [machineAt_eq_of_halted hj hhalt, ← hhistory] at horder
  change ((s.trace.retired.map Prod.snd).map Retirement.pc).Pairwise (· < ·) at horder
  rwa [List.map_map] at horder

/-- A branch over an instruction. -/
def skipProgram : CPU :=
  { cpuReset with
    memory := fun i =>
      if i.val = 0 then UInt32.toInt32 0x40000001
      else if i.val = 1 then UInt32.toInt32 0x30800005
      else if i.val = 2 then UInt32.toInt32 0x31000007
      else 0
    instructionCount := 3 }

lemma loopFree_skipProgram : LoopFree skipProgram := by
  intro a read target ha htarget
  have hlt : a.toNat < 3 := UInt32.lt_iff_toNat_lt.mp ha
  have hcode := calculateBranchTarget_opcode htarget
  rw [latchOperands_opcode, decodeRawInstruction_opcode] at hcode
  have hcases : a = 0 ∨ a = 1 ∨ a = 2 := by
    rw [← UInt32.toNat_inj, ← UInt32.toNat_inj, ← UInt32.toNat_inj]
    show a.toNat = 0 ∨ a.toNat = 1 ∨ a.toNat = 2
    omega
  rcases hcases with rfl | rfl | rfl
  · have hbranch : calculateBranchTarget (latchOperands read (decodeRawInstruction
        (fetchedRegister 0 (memoryFetchInstruction skipProgram 0)))) =
        if read 0 = read 0 then some 2 else none := rfl
    rw [hbranch, if_pos rfl, Option.some.injEq] at htarget
    exact htarget ▸ by decide
  · exact absurd hcode (by decide)
  · exact absurd hcode (by decide)

theorem loop_free_run_ends_skip :
    (pipelineSimRun skipProgram none ⟨true, 100⟩).hasWork = false ∧
      (pipelineSimRun skipProgram none ⟨true, 100⟩).engine.cycle ≤ 25 := by
  have hends := loop_free_run_ends loopFree_skipProgram ⟨true, 100⟩ (by decide)
  exact ⟨hends.1, hends.2.1⟩

end Fillet
