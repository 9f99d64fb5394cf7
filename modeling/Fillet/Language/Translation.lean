import Fillet.Assembler.Meaning
import Fillet.Language.Refinement
import Fillet.Model.Main

/-!
# From the text of a program to its run

A line is read as an instruction of the assembly language (`lineInstruction`). The words the
assembler stores stand for the instructions of the lines, so that the simulator computes what the
text means.
-/

namespace Fillet

open CString BitField

/-! ### Lines as instructions -/

/-- The register an operand names. -/
def registerOperand (token : Option (List Char)) : Option (Fin registerCount) :=
  match parseRegister token with
  | .ok value => some (registerIndex value.toNat)
  | .error _ => none

/-- What `parse_immediate` returns for an operand, if it lies between the bounds: the integer that is
written after the saturation to a `long` and the cast to `int32_t`, so that `MOVI R1 4294967296` is
read as `MOVI R1 0`. -/
def immediateOperand (low high : Int) (token : Option (List Char)) : Option Int :=
  match parseImmediate token with
  | .ok value => if low ≤ value.toInt ∧ value.toInt ≤ high then some value.toInt else none
  | .error _ => none

/-- An 18-bit immediate. -/
def shortOperand : Option (List Char) → Option Int :=
  immediateOperand (-131072) 131071

section Forms

variable (tokens : LineTokens)

/-- Three registers. -/
def arithmeticForm (operation : ArithmeticOperation) : Option Instruction :=
  match registerOperand tokens.arg1, registerOperand tokens.arg2, registerOperand tokens.arg3,
      tokens.arg4 with
  | some r1, some r2, some r3, none => some (.arithmetic operation r1 r2 r3)
  | _, _, _, _ => none

/-- Two registers and an amount. -/
def shiftForm (direction : ShiftDirection) : Option Instruction :=
  match registerOperand tokens.arg1, registerOperand tokens.arg2,
      immediateOperand 0 31 tokens.arg3, tokens.arg4 with
  | some r1, some r2, some amount, none => some (.shift direction r1 r2 amount.toNat)
  | _, _, _, _ => none

/-- Two registers and an immediate. -/
def immediateForm (make : Fin registerCount → Fin registerCount → Int → Instruction) :
    Option Instruction :=
  match registerOperand tokens.arg1, registerOperand tokens.arg2, shortOperand tokens.arg3,
      tokens.arg4 with
  | some r1, some r2, some immediate, none => some (make r1 r2 immediate)
  | _, _, _, _ => none

/-- A register and an immediate. -/
def moveForm : Option Instruction :=
  match registerOperand tokens.arg1, shortOperand tokens.arg2, tokens.arg3 with
  | some r1, some immediate, none => some (.movi r1 immediate)
  | _, _, _ => none

/-- An address. -/
def jumpForm : Option Instruction :=
  match immediateOperand 0 2147483647 tokens.arg1, tokens.arg2 with
  | some address, none => some (.jmp address.toNat)
  | _, _ => none

/-- The instruction that the tokens of a line make. -/
def tokensInstruction : Opcode → Option Instruction
  | .add => arithmeticForm tokens .add
  | .sub => arithmeticForm tokens .sub
  | .mul => arithmeticForm tokens .mul
  | .and => arithmeticForm tokens .and
  | .lsl => shiftForm tokens .left
  | .lsr => shiftForm tokens .right
  | .movi => moveForm tokens
  | .ori => immediateForm tokens .xori
  | .movr => immediateForm tokens .movr
  | .movm => immediateForm tokens .movm
  | .jeq => immediateForm tokens .jeq
  | .jmp => jumpForm tokens
  | .reserved _ => none

end Forms

/-- The instruction on a line, if there is one. -/
def lineInstruction (line : List Char) : Option Instruction :=
  match instructionTokens line with
  | none => none
  | some tokens =>
    match opcodeFromString tokens.opcodeToken with
    | none => none
    | some opcode => tokensInstruction tokens opcode

/-- The program a text stands for; a file that cannot be opened is an empty program. -/
def sourceProgram (content : Option (List Char)) : List Instruction :=
  match content with
  | none => []
  | some text => ((lines text).filterMap lineInstruction).take instructionMemorySize

/-! ### Operands -/

section Operands

variable {token : Option (List Char)} {tokens : LineTokens} {opcode : Opcode} {word : UInt32}

lemma registerOperand_of_ok {value : UInt32} (h : parseRegister token = .ok value) :
    registerOperand token = some (registerIndex value.toNat) := by
  simp only [registerOperand, h]

lemma exists_of_registerOperand {r : Fin registerCount} (h : registerOperand token = some r) :
    ∃ value, parseRegister token = .ok value := by
  simp only [registerOperand] at h
  split at h
  · rename_i value hvalue
    exact ⟨value, hvalue⟩
  · simp at h

lemma immediateOperand_of_ok {low high : Int} {value : Int32} (h : parseImmediate token = .ok value)
    (hrange : low ≤ value.toInt ∧ value.toInt ≤ high) :
    immediateOperand low high token = some value.toInt := by
  simp only [immediateOperand, h, if_pos hrange]

lemma exists_of_immediateOperand {low high v : Int} (h : immediateOperand low high token = some v) :
    ∃ value, parseImmediate token = .ok value ∧ low ≤ value.toInt ∧ value.toInt ≤ high := by
  simp only [immediateOperand] at h
  split at h
  · rename_i value hvalue
    split_ifs at h with hrange
    exact ⟨value, hvalue, hrange⟩
  · simp at h

/-! The forms of accepted lines. -/

lemma arithmeticForm_of_ok (operation : ArithmeticOperation) {r1 r2 r3 : UInt32}
    (h1 : parseRegister tokens.arg1 = .ok r1) (h2 : parseRegister tokens.arg2 = .ok r2)
    (h3 : parseRegister tokens.arg3 = .ok r3) (hlast : tokens.arg4 = none) :
    arithmeticForm tokens operation = some (.arithmetic operation (registerIndex r1.toNat)
      (registerIndex r2.toNat) (registerIndex r3.toNat)) := by
  simp only [arithmeticForm, registerOperand_of_ok h1, registerOperand_of_ok h2,
    registerOperand_of_ok h3, hlast]

lemma shiftForm_of_ok (direction : ShiftDirection) {r1 r2 : UInt32} {amount : Int32}
    (h1 : parseRegister tokens.arg1 = .ok r1) (h2 : parseRegister tokens.arg2 = .ok r2)
    (h3 : parseImmediate tokens.arg3 = .ok amount) (hlast : tokens.arg4 = none)
    (hrange : 0 ≤ amount.toInt ∧ amount.toInt ≤ 31) :
    shiftForm tokens direction = some (.shift direction (registerIndex r1.toNat)
      (registerIndex r2.toNat) amount.toInt.toNat) := by
  simp only [shiftForm, registerOperand_of_ok h1, registerOperand_of_ok h2,
    immediateOperand_of_ok h3 hrange, hlast]

lemma immediateForm_of_ok (make : Fin registerCount → Fin registerCount → Int → Instruction)
    {r1 r2 : UInt32} {value : Int32}
    (h1 : parseRegister tokens.arg1 = .ok r1) (h2 : parseRegister tokens.arg2 = .ok r2)
    (h3 : parseImmediate tokens.arg3 = .ok value) (hlast : tokens.arg4 = none)
    (hrange : -131072 ≤ value.toInt ∧ value.toInt ≤ 131071) :
    immediateForm tokens make = some (make (registerIndex r1.toNat) (registerIndex r2.toNat)
      value.toInt) := by
  simp only [immediateForm, shortOperand, registerOperand_of_ok h1, registerOperand_of_ok h2,
    immediateOperand_of_ok h3 hrange, hlast]

lemma moveForm_of_ok {r1 : UInt32} {value : Int32} (h1 : parseRegister tokens.arg1 = .ok r1)
    (h2 : parseImmediate tokens.arg2 = .ok value) (hlast : tokens.arg3 = none)
    (hrange : -131072 ≤ value.toInt ∧ value.toInt ≤ 131071) :
    moveForm tokens = some (.movi (registerIndex r1.toNat) value.toInt) := by
  simp only [moveForm, shortOperand, registerOperand_of_ok h1, immediateOperand_of_ok h2 hrange,
    hlast]

lemma jumpForm_of_ok {value : Int32} (h1 : parseImmediate tokens.arg1 = .ok value)
    (hlast : tokens.arg2 = none) (hsign : 0 ≤ value.toInt) :
    jumpForm tokens = some (.jmp value.toInt.toNat) := by
  have hrange : 0 ≤ value.toInt ∧ value.toInt ≤ 2147483647 :=
    ⟨hsign, Int.le_of_lt_add_one value.toInt_lt⟩
  simp only [jumpForm, immediateOperand_of_ok h1 hrange, hlast]

/-- The word that is stored for the tokens of a line stands for the instruction they make. -/
lemma Assembles.instruction (h : Assembles tokens opcode word)
    (hfits : opcode = .jmp → ∀ value, parseImmediate tokens.arg1 = .ok value →
      value.toInt < 2 ^ 28) :
    ∃ i, tokensInstruction tokens opcode = some i ∧ wordInstruction word = some i := by
  obtain ⟨hvalid, hopcode⟩ := h.decoded 0
  cases h with
  | arithmetic hop h1 h2 h3 hlast =>
    obtain ⟨d1, d2, d3⟩ := fields_arithmetic h1 0 hop h2 h3
    rcases hop with rfl | rfl | rfl | rfl
    all_goals
      refine ⟨_, arithmeticForm_of_ok _ h1 h2 h3 hlast, ?_⟩
      simp only [wordInstruction, PipelineRegister.instruction, hvalid, hopcode, d1, d2, d3]
      rfl
  | immediate hop h1 h2 h3 hlast hrange =>
    obtain ⟨d1, d2, d3⟩ := fields_immediate h1 0 hop h2 hrange
    rcases hop with rfl | rfl | rfl | rfl
    all_goals
      refine ⟨_, immediateForm_of_ok _ h1 h2 h3 hlast hrange, ?_⟩
      simp only [wordInstruction, PipelineRegister.instruction, hvalid, hopcode, d1, d2, d3]
      rfl
  | movi h1 h2 hlast hrange =>
    obtain ⟨d1, -, d3⟩ := fields_movi h1 0 hrange
    refine ⟨_, moveForm_of_ok h1 h2 hlast hrange, ?_⟩
    simp only [wordInstruction, PipelineRegister.instruction, hvalid, hopcode, d1, d3]
    rfl
  | shift hop h1 h2 h3 hlast hrange =>
    obtain ⟨d1, d2, -, d4⟩ := fields_shift h1 0 hop h2 hrange
    rcases hop with rfl | rfl
    all_goals
      refine ⟨_, shiftForm_of_ok _ h1 h2 h3 hlast hrange, ?_⟩
      simp only [wordInstruction, PipelineRegister.instruction, hvalid, hopcode, d1, d2, d4]
      rfl
  | @jump value h1 hlast hsign =>
    have haddress := toInt_jumpField 0 hsign
    rw [Int.emod_eq_of_lt hsign (hfits rfl value h1)] at haddress
    refine ⟨_, jumpForm_of_ok h1 hlast hsign, ?_⟩
    simp only [wordInstruction, PipelineRegister.instruction, hvalid, hopcode, haddress]
    rfl

/-! ### Lines without an instruction -/

lemma assembles_of_arithmeticForm {operation : ArithmeticOperation} {i : Instruction}
    (hop : opcode = .add ∨ opcode = .sub ∨ opcode = .mul ∨ opcode = .and)
    (h : arithmeticForm tokens operation = some i) : ∃ word, Assembles tokens opcode word := by
  simp only [arithmeticForm] at h
  split at h
  · rename_i h1 h2 h3 hlast
    obtain ⟨_, h1⟩ := exists_of_registerOperand h1
    obtain ⟨_, h2⟩ := exists_of_registerOperand h2
    obtain ⟨_, h3⟩ := exists_of_registerOperand h3
    exact ⟨_, .arithmetic hop h1 h2 h3 hlast⟩
  · simp at h

lemma assembles_of_shiftForm {direction : ShiftDirection} {i : Instruction}
    (hop : opcode = .lsl ∨ opcode = .lsr) (h : shiftForm tokens direction = some i) :
    ∃ word, Assembles tokens opcode word := by
  simp only [shiftForm] at h
  split at h
  · rename_i h1 h2 h3 hlast
    obtain ⟨_, h1⟩ := exists_of_registerOperand h1
    obtain ⟨_, h2⟩ := exists_of_registerOperand h2
    obtain ⟨_, h3, hrange⟩ := exists_of_immediateOperand h3
    exact ⟨_, .shift hop h1 h2 h3 hlast hrange⟩
  · simp at h

lemma assembles_of_immediateForm
    {make : Fin registerCount → Fin registerCount → Int → Instruction} {i : Instruction}
    (hop : opcode = .movr ∨ opcode = .ori ∨ opcode = .jeq ∨ opcode = .movm)
    (h : immediateForm tokens make = some i) : ∃ word, Assembles tokens opcode word := by
  simp only [immediateForm] at h
  split at h
  · rename_i h1 h2 h3 hlast
    obtain ⟨_, h1⟩ := exists_of_registerOperand h1
    obtain ⟨_, h2⟩ := exists_of_registerOperand h2
    obtain ⟨_, h3, hrange⟩ := exists_of_immediateOperand h3
    exact ⟨_, .immediate hop h1 h2 h3 hlast hrange⟩
  · simp at h

/-- Only tokens that are assembled make an instruction. -/
lemma assembles_of_tokensInstruction {i : Instruction}
    (h : tokensInstruction tokens opcode = some i) : ∃ word, Assembles tokens opcode word := by
  cases opcode with
  | add | sub | mul | and => exact assembles_of_arithmeticForm (by simp) h
  | lsl | lsr => exact assembles_of_shiftForm (by simp) h
  | ori | movr | movm | jeq => exact assembles_of_immediateForm (by simp) h
  | movi =>
    simp only [tokensInstruction, moveForm] at h
    split at h
    · rename_i h1 h2 hlast
      obtain ⟨_, h1⟩ := exists_of_registerOperand h1
      obtain ⟨_, h2, hrange⟩ := exists_of_immediateOperand h2
      exact ⟨_, .movi h1 h2 hlast hrange⟩
    · simp at h
  | jmp =>
    simp only [tokensInstruction, jumpForm] at h
    split at h
    · rename_i h1 hlast
      obtain ⟨_, h1, hrange⟩ := exists_of_immediateOperand h1
      exact ⟨_, .jump h1 hlast hrange.1⟩
    · simp at h
  | reserved k => simp [tokensInstruction] at h

end Operands

/-- A line is assembled exactly when it holds an instruction, and its word stands for that
instruction. -/
lemma lineInstruction_eq {line : List Char} (hfits : JumpFits line) :
    lineInstruction line = (assembledWord line).bind wordInstruction ∧
      ∀ word, assembledWord line = some word → (wordInstruction word).isSome := by
  cases hword : assembledWord line with
  | some word =>
    obtain ⟨tokens, opcode, htokens, hopcode, hassembles⟩ := assembledWord_iff.mp hword
    obtain ⟨i, htext, hmeaning⟩ := hassembles.instruction (by
      rintro rfl value hvalue
      exact hfits tokens value htokens hopcode hvalue)
    constructor
    · simp only [lineInstruction, htokens, hopcode, htext, Option.bind_some, hmeaning]
    · intro word' hword'
      rw [← Option.some.inj hword', hmeaning]
      rfl
  | none =>
    refine ⟨?_, fun word hword' => absurd hword' (by simp)⟩
    by_contra hline
    obtain ⟨i, hi⟩ := Option.ne_none_iff_exists'.mp hline
    simp only [lineInstruction] at hi
    split at hi
    · simp at hi
    · rename_i tokens htokens
      split at hi
      · simp at hi
      · rename_i opcode hopcode
        obtain ⟨word, hassembles⟩ := assembles_of_tokensInstruction hi
        rw [assembledWord_iff.mpr ⟨tokens, opcode, htokens, hopcode, hassembles⟩] at hword
        simp at hword

/-! ### Files -/

/-- A list whose elements are all mapped is mapped element by element. -/
lemma getElem?_filterMap_of_isSome {α β : Type*} {f : α → Option β} {l : List α}
    (h : ∀ x ∈ l, (f x).isSome) (i : ℕ) : (l.filterMap f)[i]? = l[i]?.bind f := by
  induction l generalizing i with
  | nil => rfl
  | cons x l ih =>
    obtain ⟨y, hy⟩ := Option.isSome_iff_exists.mp (h x List.mem_cons_self)
    rw [List.filterMap_cons_some hy]
    cases i with
    | zero => exact hy.symm
    | succ i => exact ih (fun z hz => h z (List.mem_cons_of_mem _ hz)) i

lemma length_filterMap_of_isSome {α β : Type*} {f : α → Option β} {l : List α}
    (h : ∀ x ∈ l, (f x).isSome) : (l.filterMap f).length = l.length := by
  induction l with
  | nil => rfl
  | cons x l ih =>
    obtain ⟨y, hy⟩ := Option.isSome_iff_exists.mp (h x List.mem_cons_self)
    rw [List.filterMap_cons_some hy, List.length_cons, List.length_cons,
      ih fun z hz => h z (List.mem_cons_of_mem _ hz)]

/-- Words that are loaded hold the program they stand for. -/
lemma holds_loadProgram {words : List UInt32} (hwords : ∀ w ∈ words, (wordInstruction w).isSome)
    (cpu : CPU) :
    Holds ((words.filterMap wordInstruction).take 1024) (loadProgram words cpu) := by
  have hlength : ((words.filterMap wordInstruction).take 1024).length =
      min words.length 1024 := by
    rw [List.length_take, length_filterMap_of_isSome hwords, Nat.min_comm]
  have hroom : min words.length 1024 ≤ 1024 := Nat.min_le_right _ _
  constructor
  case room => rwa [hlength]
  case count =>
    have hsigned := toNat_toUInt32 (loadProgram words cpu).instructionCount
    have hcount : (loadProgram words cpu).instructionCount.toInt = min words.length 1024 :=
      toInt_ofNat_count hroom
    rw [hlength]
    omega
  case words =>
    intro a ha
    have hfetched := fetch_loadProgram words cpu (hlength ▸ ha)
    rw [hlength] at ha
    rw [List.getElem?_take_of_lt (by omega), getElem?_filterMap_of_isSome hwords, hfetched]
    rfl

/-- A file whose lines fit into the buffer and into the address field of a jump is assembled to the
program it stands for. -/
theorem holds_assembled (cpu : CPU) (filepath : List Char) {text : List Char}
    (hlines : ∀ line ∈ lines text, line.length ≤ lineCapacity ∧ JumpFits line) :
    Holds (sourceProgram (some text)) (parseAssemblyFile cpu filepath (some text)).1 := by
  have hwords : ((lines text).flatMap (pieces lineCapacity)).filterMap assembledWord =
      (lines text).filterMap assembledWord :=
    filterMap_pieces_congr fun line hline => filterMap_pieces_of_le (hlines line hline).1
  have hprogram : (lines text).filterMap lineInstruction =
      ((lines text).filterMap assembledWord).filterMap wordInstruction := by
    rw [List.filterMap_filterMap]
    exact List.filterMap_congr fun line hline => (lineInstruction_eq (hlines line hline).2).1
  rw [sourceProgram, hprogram, parseAssemblyFile_eq_load, buffers_eq_pieces, hwords]
  apply holds_loadProgram
  intro word hword
  obtain ⟨line, hline, hassembled⟩ := List.mem_filterMap.mp hword
  exact (lineInstruction_eq (hlines line hline).2).2 word hassembled

/-! ### The run of a text -/

/-- The run of a CPU that holds a program ends when the program halts, in the final state of the
program. -/
lemma Holds.no_work {program : List Instruction} {cpu : CPU} (h : Holds program cpu) {k n : ℕ}
    (hhalt : Machine.halted program (cpu.machine.run program k) = true) (hn : 6 * k + 7 ≤ n) :
    (simulate n cpu none).hasWork = false ∧
      (simulate n cpu none).cpu.machine = cpu.machine.run program k := by
  have hhalted : running (machineAt cpu k).cpu = false := by
    rw [h.running_machineAt, hhalt, Bool.not_true]
  have hdone := no_work_of_halted hhalted hn
  obtain ⟨j, -, hj, hhistory⟩ := simulate_of_no_work hdone
  refine ⟨hdone, ?_⟩
  rw [← h.machine_run, ← machineAt_eq_of_halted hhalted hj, ← hhistory]
  rfl

lemma Holds.halted_of_no_work {program : List Instruction} {cpu : CPU} (h : Holds program cpu)
    {n : ℕ} (hdone : (simulate n cpu none).hasWork = false) :
    ∃ k ≤ n, Machine.halted program (cpu.machine.run program k) = true ∧
      (simulate n cpu none).cpu.machine = cpu.machine.run program k := by
  obtain ⟨k, hk, hhalt, hhistory⟩ := simulate_of_no_work hdone
  rw [h.running_machineAt, Bool.not_eq_false'] at hhalt
  refine ⟨k, hk, hhalt, ?_⟩
  rw [← h.machine_run, ← hhistory]
  rfl

/-- The assembler touches neither the registers, nor the data, nor the program counter. -/
lemma machine_parse (cpu : CPU) (filepath text : List Char) :
    (parseAssemblyFile cpu filepath (some text)).1.machine = cpu.machine := by
  rw [parseAssemblyFile_eq_load]
  apply Machine.ext_fields
  · intro r
    rfl
  · intro i
    refine dif_neg ?_
    show ¬ 1024 + i.val < _
    omega
  · rfl

/-! A program of two instructions. -/

def sumText : List Char :=
  "MOVI R1 3\nADD R2 R1 R1\n".toList

lemma jumpFits_of_no_jump {line : List Char}
    (h : (instructionTokens line).bind (fun tokens => opcodeFromString tokens.opcodeToken) ≠
      some .jmp) : JumpFits line := by
  intro tokens _ htokens hopcode
  rw [htokens] at h
  exact absurd hopcode h

lemma jumpFits_jmp_zero : JumpFits "JMP 0".toList := by
  intro tokens value htokens hopcode hvalue
  have hargument : (instructionTokens "JMP 0".toList).map
      (fun tokens => parseImmediate tokens.arg1) = some (.ok 0) := by
    decide
  rw [htokens, Option.map_some, hvalue, Option.some.injEq, Except.ok.injEq] at hargument
  rw [hargument]
  decide

lemma lines_sumText : ∀ line ∈ lines sumText, line.length ≤ lineCapacity ∧ JumpFits line := by
  have hlines : lines sumText = ["MOVI R1 3".toList, "ADD R2 R1 R1".toList, []] := by
    decide
  rw [hlines]
  intro line hline
  simp only [List.mem_cons, List.not_mem_nil, or_false] at hline
  rcases hline with rfl | rfl | rfl
  all_goals exact ⟨by decide, jumpFits_of_no_jump (by decide)⟩

/-- Assembling preserves meaning: on any CPU, the sequential machine does with the words of a file
step by step what the text of the file says. -/
theorem assembled_program_meaning (cpu : CPU) (filepath : List Char) {text : List Char}
    (hlines : ∀ line ∈ lines text, line.length ≤ lineCapacity ∧ JumpFits line) (k : ℕ) :
    (machineAt (parseAssemblyFile cpu filepath (some text)).1 k).cpu.machine =
        cpu.machine.run (sourceProgram (some text)) k ∧
      running (machineAt (parseAssemblyFile cpu filepath (some text)).1 k).cpu =
        !Machine.halted (sourceProgram (some text))
          (cpu.machine.run (sourceProgram (some text)) k) := by
  have hholds := holds_assembled cpu filepath hlines
  rw [hholds.machine_run, hholds.running_machineAt, machine_parse]
  exact ⟨rfl, rfl⟩

theorem assembled_program_meaning_sum :
    (machineAt (parseAssemblyFile cpuReset [] (some sumText)).1 2).cpu.machine =
      cpuReset.machine.run (sourceProgram (some sumText)) 2 ∧
    (cpuReset.machine.run (sourceProgram (some sumText)) 2).registers 2 = 6 :=
  ⟨(assembled_program_meaning cpuReset [] lines_sumText 2).1, by decide⟩

/-- The program that `main` assembles. -/
lemma holds_main {argv : List (List Char)} {files : List Char → Option (List Char)}
    (hlines : ∀ text, files (programPath argv) = some text →
      ∀ line ∈ lines text, line.length ≤ lineCapacity ∧ JumpFits line) :
    let loaded := (parseAssemblyFile (memoryInit cpuReset) (programPath argv)
      (files (programPath argv))).1
    Holds (sourceProgram (files (programPath argv))) loaded ∧ loaded.machine = .initial := by
  cases hcontent : files (programPath argv) with
  | none =>
    refine ⟨⟨Nat.zero_le _, rfl, fun a ha => absurd ha (Nat.not_lt_zero _)⟩, ?_⟩
    exact Machine.ext_fields (fun r => by simp [readRegister, CPU.machine, parseAssemblyFile,
      memoryInit, cpuReset, Machine.initial]) (fun i => rfl) rfl
  | some text =>
    refine ⟨holds_assembled _ _ (hlines text hcontent), ?_⟩
    rw [machine_parse]
    exact Machine.ext_fields (fun r => by simp [readRegister, CPU.machine, memoryInit, cpuReset,
      Machine.initial]) (fun i => rfl) rfl

/-- The simulator computes what the text of its program means: if the program halts, the simulation
ends by itself, in the final state of the program, and it ends by itself only then. -/
theorem main_runs_program (argv : List (List Char)) (files : List Char → Option (List Char))
    (hlines : ∀ text, files (programPath argv) = some text →
      ∀ line ∈ lines text, line.length ≤ lineCapacity ∧ JumpFits line) :
    let program := sourceProgram (files (programPath argv))
    let s := (simulatorMain argv files).simulation
    (∀ k, Machine.halted program (Machine.initial.run program k) = true →
      6 * k + 7 ≤ 2147483647 →
        s.hasWork = false ∧ s.cpu.machine = Machine.initial.run program k) ∧
    (s.hasWork = false → ∃ k, Machine.halted program (Machine.initial.run program k) = true ∧
      s.cpu.machine = Machine.initial.run program k) := by
  obtain ⟨hholds, hinitial⟩ := holds_main hlines
  refine ⟨?_, ?_⟩
  · intro k hhalt hk
    have hrun := hholds.no_work (k := k) (by rwa [hinitial]) hk
    rw [hinitial] at hrun
    exact hrun
  · intro hdone
    obtain ⟨k, -, hrun⟩ := hholds.halted_of_no_work hdone
    rw [hinitial] at hrun
    exact ⟨k, hrun⟩

theorem main_runs_program_sum :
    (simulatorMain [] fun _ => some sumText).simulation.hasWork = false ∧
    (simulatorMain [] fun _ => some sumText).simulation.cpu.machine =
      Machine.initial.run (sourceProgram (some sumText)) 2 := by
  refine (main_runs_program [] (fun _ => some sumText) ?_).1 2 (by decide) (by decide)
  rintro _ ⟨⟩
  exact lines_sumText

end Fillet
