import Fillet.Encoding
import Fillet.LoadStore
import Fillet.Model.Execute

/-!
# The two execute stages

`executeStage` and `evaluateBranch` were written for the same stage as `complete_ex_stage` and
`calculate_branch_target`. The first pair differs in ORI, which `executeALU` does not know, the
second in a taken branch that leaves instruction memory, which only the pipeline ignores.
-/

namespace Fillet

open BitField

variable {reg : PipelineRegister}

/-- A decoded word with operand values, as it enters EX. -/
def enteringEx (pc raw : UInt32) (operand1 operand2 : Int32) : PipelineRegister :=
  { decodeRawInstruction (fetchedRegister pc raw) with operand1 := operand1, operand2 := operand2 }

/-- What decoding establishes about the fields that EX reads. -/
structure Entering (reg : PipelineRegister) : Prop where
  valid : reg.valid = true
  aluOp : reg.control.aluOp = opcodeAluOperation reg.opcode
  aluResult : reg.aluResult = 0
  shamt : 0 ≤ reg.shamt
  address : reg.opcode = .jmp → 0 ≤ reg.address.toInt ∧ reg.address.toInt < 2 ^ 28

/-- A J-format address has 28 bits. -/
lemma toInt_addressField (raw : UInt32) :
    0 ≤ (raw &&& 0x0FFFFFFF).toInt32.toInt ∧ (raw &&& 0x0FFFFFFF).toInt32.toInt < 2 ^ 28 := by
  have hfield : (raw &&& 0x0FFFFFFF).toNat = raw.toNat % 2 ^ 28 :=
    toNat_and_mask raw _ (k := 28) rfl
  rw [toInt_toInt32, hfield]
  split_ifs <;> omega

lemma entering_decoded (pc raw : UInt32) (operand1 operand2 : Int32)
    (hop : (rawOpcode raw).code < 12) : Entering (enteringEx pc raw operand1 operand2) where
  valid := by
    show (decodeRawInstruction (fetchedRegister pc raw)).valid = true
    rw [decodeRawInstruction_valid]
    exact decide_eq_true hop
  aluOp := by simp [enteringEx]
  aluResult := by
    simp only [enteringEx, decodeRawInstruction]
    split <;> rfl
  shamt := by
    simp only [enteringEx, decodeRawInstruction]
    split
    case h_3 => exact Int.natCast_nonneg _
    all_goals exact Int.le_refl 0
  address := by
    intro hjmp
    have hformat : opcodeInstructionFormat (rawOpcode (fetchedRegister pc raw).rawInstruction) =
        .j := by
      have hcode : rawOpcode raw = .jmp := by simpa [enteringEx, fetchedRegister] using hjmp
      rw [fetchedRegister, hcode]
      rfl
    show 0 ≤ (decodeRawInstruction (fetchedRegister pc raw)).address.toInt ∧ _
    rw [enteringEx, decode_j hformat]
    exact toInt_addressField raw

/-! ### Results -/

/-- The two stages leave the same results behind. -/
structure ExecuteStagesAgree (s : Simulation) (reg : PipelineRegister) : Prop where
  aluResult : (executeStage reg).aluResult =
    (completeExStage (s.place .stageEx (setSlot reg exCycles))).engine.exStage.reg.aluResult
  address : (executeStage reg).address =
    (completeExStage (s.place .stageEx (setSlot reg exCycles))).engine.exStage.reg.address
  memoryData : (executeStage reg).memoryData =
    (completeExStage (s.place .stageEx (setSlot reg exCycles))).engine.exStage.reg.memoryData

/-- Apart from the ALU the two stages are the same. -/
lemma executeStage_of_valid (hvalid : reg.valid = true) :
    executeStage reg =
      { exResult reg with
        aluResult :=
          (executeALU reg.control.aluOp reg.operand1 reg.operand2 reg.immediate
            reg.shamt).result } := by
  simp only [executeStage, exResult, hvalid, Bool.not_true, Bool.false_eq_true, if_false]
  split_ifs <;> rfl

@[simp] lemma exResult_aluResult (reg : PipelineRegister) :
    (exResult reg).aluResult = exAluResult reg := by
  simp only [exResult]
  split_ifs <;> rfl

/-- The two ALUs agree but for ORI, which `executeALU` answers with 0. -/
lemma executeALU_result (h : Entering reg) (hshamt : reg.shamt ≤ 31) :
    (executeALU reg.control.aluOp reg.operand1 reg.operand2 reg.immediate reg.shamt).result =
      if reg.opcode = .ori then 0 else exAluResult reg := by
  have hrange : ¬ (reg.shamt < 0 ∨ 31 < reg.shamt) := by
    have hlow := h.shamt
    omega
  rw [exAluResult, h.aluOp]
  cases hop : reg.opcode with
  | add | sub | mul | and | movi => rfl
  | lsl | lsr => simp [opcodeAluOperation, executeALU, hrange]
  | ori => rfl
  | jeq | jmp | movr | movm | reserved k =>
    simp [opcodeAluOperation, executeALU, h.aluResult]

lemma executeStagesAgree_iff (s : Simulation) (h : Entering reg) (hshamt : reg.shamt ≤ 31) :
    ExecuteStagesAgree s reg ↔ (reg.opcode = .ori → reg.operand1 = reg.immediate) := by
  have hresult : (completeExStage (s.place .stageEx (setSlot reg exCycles))).engine.exStage.reg =
      exResult reg := completeExStage_exStage _
  have hsides : ExecuteStagesAgree s reg ↔ (executeStage reg).aluResult = exAluResult reg := by
    constructor
    · intro hagree
      rw [hagree.aluResult, hresult, exResult_aluResult]
    · intro halu
      constructor
      · rw [hresult, halu, exResult_aluResult]
      · rw [hresult, executeStage_of_valid h.valid]
      · rw [hresult, executeStage_of_valid h.valid]
  rw [hsides, executeStage_of_valid h.valid]
  dsimp only
  rw [executeALU_result h hshamt]
  split_ifs with hori
  · have hxor : exAluResult reg = reg.operand1 ^^^ reg.immediate := by
      rw [exAluResult, h.aluOp, hori]
      rfl
    rw [hxor, eq_comm, Int32.xor_eq_zero_iff]
    simp [hori]
  · simp [hori]

/-- The two execute stages leave the same results for every word and all operands, except for an ORI
whose result is not 0. -/
theorem execute_stages_agree_iff (s : Simulation) (pc raw : UInt32) (operand1 operand2 : Int32)
    (hop : (rawOpcode raw).code < 12)
    (hshamt : (decodeRawInstruction (fetchedRegister pc raw)).shamt ≤ 31) :
    ExecuteStagesAgree s (enteringEx pc raw operand1 operand2) ↔
      (rawOpcode raw = .ori →
        operand1 = (decodeRawInstruction (fetchedRegister pc raw)).immediate) := by
  have hiff := executeStagesAgree_iff s (entering_decoded pc raw operand1 operand2 hop) hshamt
  have hopcode : (enteringEx pc raw operand1 operand2).opcode = rawOpcode raw :=
    decodeRawInstruction_opcode _
  rwa [hopcode] at hiff

/-- `ORI R1 R2 5` with 1 in R2 gives 4 in the pipeline and 0 in `executeStage`. -/
theorem executeStage_loses_ori :
    ¬ ExecuteStagesAgree (.start cpuReset none) (enteringEx 0 0x60880005 1 0) := by
  intro h
  exact absurd h.aluResult (by decide)

/-- `SUB R1 R2 R3` with 3 and 4. -/
theorem execute_stages_agree_sub :
    ExecuteStagesAgree (.start cpuReset none) (enteringEx 0 0x10886000 3 4) :=
  (execute_stages_agree_iff (.start cpuReset none) 0 0x10886000 3 4 (by decide) (by decide)).mpr
    fun hori => absurd hori (by decide)

/-! ### Branches -/

/-- The two resolvers take the same decision, and what is taken lies in instruction memory. -/
structure BranchResolversAgree (reg : PipelineRegister) : Prop where
  same : evaluateBranch reg = calculateBranchTarget reg
  inside : ∀ target, evaluateBranch reg = some target → target.toNat < instructionMemorySize

/-- Where a taken branch goes, before any wrap-around. -/
def branchDestination (reg : PipelineRegister) : Int :=
  if reg.opcode = .jeq then reg.pc.toNat + 1 + reg.immediate.toInt else reg.address.toInt

/-- The upper bits of an address below 2^28 are 0. -/
lemma and_upperBits_eq_zero {pc : UInt32} (hpc : pc.toNat < 2 ^ 28) : pc &&& 0xF0000000 = 0 := by
  have hlt : pc.toNat &&& 0xF0000000 < 2 ^ 28 := by
    rw [Nat.and_comm]
    exact Nat.and_lt_two_pow _ hpc
  have hmod : (pc.toNat &&& 0xF0000000) % 2 ^ 28 = 0 := by
    rw [Nat.and_mod_two_pow]
    exact Nat.and_zero _
  rw [← UInt32.toNat_inj, UInt32.toNat_and]
  show pc.toNat &&& 0xF0000000 = 0
  omega

/-- In range the wrapping sum is the exact one. -/
lemma wrapping_target (pc : UInt32) (offset : Int32)
    (hrange : 0 ≤ (pc.toNat : Int) + 1 + offset.toInt ∧
      (pc.toNat : Int) + 1 + offset.toInt < 1024) :
    pc + 1 + offset.toUInt32 = UInt32.ofNat ((pc.toNat : Int) + 1 + offset.toInt).toNat := by
  have hoffset := toNat_toUInt32 offset
  have hone : (1 : UInt32).toNat = 1 := rfl
  rw [← UInt32.toNat_inj, UInt32.toNat_add, UInt32.toNat_add, UInt32.toNat_ofNat', hone]
  omega

lemma branchResolversAgree_jeq (hop : reg.opcode = .jeq) :
    BranchResolversAgree reg ↔ (reg.operand1 = reg.operand2 →
      0 ≤ branchDestination reg ∧ branchDestination reg < 1024) := by
  have hdest : branchDestination reg = reg.pc.toNat + 1 + reg.immediate.toInt := if_pos hop
  by_cases htaken : reg.operand1 = reg.operand2
  · have heval : evaluateBranch reg = some (reg.pc + 1 + reg.immediate.toUInt32) := by
      simp [evaluateBranch, hop, htaken]
    have hcalc : calculateBranchTarget reg =
        if branchDestination reg < 0 ∨ branchDestination reg ≥ 1024 then none
        else some (UInt32.ofNat (branchDestination reg).toNat) := by
      simp [calculateBranchTarget, hop, htaken, hdest]
    constructor
    · intro h _
      have hsame := h.same
      rw [heval, hcalc] at hsame
      split_ifs at hsame with hout
      omega
    · intro h
      have hrange := h htaken
      have hin : ¬ (branchDestination reg < 0 ∨ branchDestination reg ≥ 1024) := by omega
      have htarget : reg.pc + 1 + reg.immediate.toUInt32 =
          UInt32.ofNat (branchDestination reg).toNat := by
        rw [hdest] at hrange ⊢
        exact wrapping_target _ _ hrange
      constructor
      case same => rw [heval, hcalc, if_neg hin, htarget]
      case inside =>
        intro target hsome
        rw [heval, htarget, Option.some.injEq] at hsome
        rw [← hsome, UInt32.toNat_ofNat']
        show (branchDestination reg).toNat % 2 ^ 32 < 1024
        omega
  · constructor
    · intro _ heq
      exact absurd heq htaken
    · intro _
      constructor
      case same => simp [evaluateBranch, calculateBranchTarget, hop, htaken]
      case inside =>
        intro target hsome
        simp [evaluateBranch, hop, htaken] at hsome

lemma branchResolversAgree_jmp (h : Entering reg) (hop : reg.opcode = .jmp)
    (hpc : reg.pc.toNat < 1024) :
    BranchResolversAgree reg ↔ branchDestination reg < 1024 := by
  obtain ⟨hlow, hhigh⟩ := h.address hop
  have hdest : branchDestination reg = reg.address.toInt := if_neg (by simp [hop])
  have htarget : (((reg.pc &&& 0xF0000000) ||| (reg.address.toUInt32 &&& 0x0FFFFFFF)).toNat : Int) =
      reg.address.toInt := by
    have hword := toNat_toUInt32 reg.address
    have hfield : (reg.address.toUInt32 &&& 0x0FFFFFFF).toNat =
        reg.address.toUInt32.toNat % 2 ^ 28 := toNat_and_mask _ _ (k := 28) rfl
    rw [and_upperBits_eq_zero (by omega), UInt32.zero_or, hfield]
    omega
  have heval : evaluateBranch reg =
      some ((reg.pc &&& 0xF0000000) ||| (reg.address.toUInt32 &&& 0x0FFFFFFF)) := by
    simp [evaluateBranch, hop]
  have hcalc : calculateBranchTarget reg =
      if ((reg.pc &&& 0xF0000000) ||| (reg.address.toUInt32 &&& 0x0FFFFFFF)).toNat ≥ 1024 then none
      else some ((reg.pc &&& 0xF0000000) ||| (reg.address.toUInt32 &&& 0x0FFFFFFF)) := by
    simp [calculateBranchTarget, hop]
  generalize (reg.pc &&& 0xF0000000) ||| (reg.address.toUInt32 &&& 0x0FFFFFFF) = target
    at htarget heval hcalc
  constructor
  · intro hagree
    have hinside : target.toNat < 1024 := hagree.inside target heval
    omega
  · intro hrange
    have hinside : target.toNat < 1024 := by omega
    constructor
    case same => rw [heval, hcalc, if_neg (Nat.not_le.mpr hinside)]
    case inside =>
      intro target' hsome
      rw [heval, Option.some.injEq] at hsome
      rwa [← hsome]

/-- The two resolvers agree, inside instruction memory, exactly on branches that are not taken or
whose exact target lies there. -/
theorem branch_resolvers_agree_iff (pc raw : UInt32) (operand1 operand2 : Int32)
    (hop : rawOpcode raw = .jeq ∨ rawOpcode raw = .jmp) (hpc : pc.toNat < 1024) :
    BranchResolversAgree (enteringEx pc raw operand1 operand2) ↔
      (rawOpcode raw = .jeq ∧ operand1 ≠ operand2) ∨
        (0 ≤ branchDestination (enteringEx pc raw operand1 operand2) ∧
          branchDestination (enteringEx pc raw operand1 operand2) < 1024) := by
  have hcode : (rawOpcode raw).code < 12 := by
    rcases hop with hjeq | hjmp
    · rw [hjeq]
      decide
    · rw [hjmp]
      decide
  have hentering := entering_decoded pc raw operand1 operand2 hcode
  have hopcode : (enteringEx pc raw operand1 operand2).opcode = rawOpcode raw :=
    decodeRawInstruction_opcode _
  have hregpc : (enteringEx pc raw operand1 operand2).pc = pc := decodeRawInstruction_pc _
  rcases hop with hjeq | hjmp
  · rw [branchResolversAgree_jeq (hopcode.trans hjeq)]
    show (operand1 = operand2 → _) ↔ _
    simp only [hjeq, true_and, ne_eq]
    exact imp_iff_not_or
  · have hnot : ¬ rawOpcode raw = .jeq := by
      rw [hjmp]
      exact Opcode.noConfusion
    rw [branchResolversAgree_jmp hentering (hopcode.trans hjmp) (by rwa [hregpc])]
    have hdest : branchDestination (enteringEx pc raw operand1 operand2) =
        (enteringEx pc raw operand1 operand2).address.toInt := if_neg (by rwa [hopcode])
    have hlow := (hentering.address (hopcode.trans hjmp)).1
    simp only [hnot, false_and, false_or]
    omega

/-- `JEQ R0 R0 -2` at address 0 is taken to 2^32 - 1, and is ignored by the pipeline. -/
theorem negative_branch_is_taken :
    ¬ BranchResolversAgree (enteringEx 0 0x4003FFFE 0 0) := by
  intro h
  exact absurd h.same (by decide)

/-- `JEQ R0 R0 -1` at address 0 goes back to 0. -/
theorem branch_resolvers_agree_loop :
    BranchResolversAgree (enteringEx 0 0x4003FFFF 0 0) :=
  (branch_resolvers_agree_iff 0 0x4003FFFF 0 0 (by decide) (by decide)).mpr
    (Or.inr (by decide))

end Fillet
