import Fillet.Assembler.Law
import Fillet.Assembler.Meaning
import Fillet.Model.Disassembly

/-!
# Assembling the disassembly

The text that `print_instruction_detail` prints for a stored word is a line of the assembler, and
the assembler gives the word back.
-/

namespace Fillet

open CString BitField

/-! ### Reading back what was printed -/

/-- A non-empty text without delimiters. -/
def IsToken (token : List Char) : Prop :=
  token ≠ [] ∧ ∀ c ∈ token, delimiter c = false

lemma delimiter_of_digit {c : Char} (h : c = '-' ∨ c.isDigit = true) : delimiter c = false := by
  have hne : ∀ d : Char, d ≠ '-' → d.isDigit = false → c ≠ d := by
    rintro d hminus hdigit rfl
    rcases h with h | h
    · exact hminus h
    · simp [hdigit] at h
  have hblank := hne ' ' (by decide) (by decide)
  have htab := hne '\t' (by decide) (by decide)
  have hcomma := hne ',' (by decide) (by decide)
  have hnewline := hne '\n' (by decide) (by decide)
  simp [delimiter, hblank, htab, hcomma, hnewline]

lemma isToken_decimal (v : Int) : IsToken (decimal v) :=
  ⟨decimal_ne_nil v, fun _ hc => delimiter_of_digit (mem_decimal hc)⟩

/-- A printed register is a token. -/
lemma isToken_register (r : Int) : IsToken ('R' :: decimal r) := by
  refine ⟨List.cons_ne_nil _ _, ?_⟩
  intro c hc
  rcases List.mem_cons.mp hc with rfl | hc
  · decide
  · exact (isToken_decimal r).2 c hc

lemma parseRegister_decimal {r : Int} (h : 0 ≤ r ∧ r ≤ 31) :
    parseRegister (some ('R' :: decimal r)) = .ok (UInt32.ofNat r.toNat) := by
  have hlong : longMin ≤ r ∧ r ≤ longMax := by
    simp only [longMin, longMax]
    omega
  have hrange : ¬ (r < 0 ∨ 31 < r) := by omega
  simp [parseRegister, strtol, parseInteger_decimal (Or.inr rfl), saturate_of_range hlong, hrange]

lemma parseRegister_decimal_toNat {r : UInt32} (h : r.toNat < 32) :
    parseRegister (some ('R' :: decimal r.toNat)) = .ok r := by
  rw [parseRegister_decimal (by omega), Int.toNat_natCast, UInt32.ofNat_toNat]

lemma parseImmediate_decimal (value : Int32) :
    parseImmediate (some (decimal value.toInt)) = .ok value := by
  have hlow := value.le_toInt
  have hhigh := value.toInt_lt
  have hlong : longMin ≤ value.toInt ∧ value.toInt ≤ longMax := by
    simp only [longMin, longMax]
    omega
  rw [parseImmediate_of_integer (parseInteger_decimal (Or.inl rfl) _), saturate_of_range hlong,
    Int32.ofInt_toInt]

/-- A printed operand: a token of bounded length. -/
def PrintedOperand (arg : List Char) : Prop :=
  IsToken arg ∧ arg.length ≤ 12

lemma printedOperand_register {r : UInt32} (h : r.toNat < 32) :
    PrintedOperand ('R' :: decimal r.toNat) := by
  have hlength := length_decimal r.toNat (k := 2) (by decide) (by omega)
  refine ⟨isToken_register _, ?_⟩
  rw [List.length_cons]
  omega

lemma printedOperand_immediate (value : Int32) : PrintedOperand (decimal value.toInt) := by
  have hlow := value.le_toInt
  have hhigh := value.toInt_lt
  have hlength := length_decimal value.toInt (k := 10) (by decide) (by omega)
  exact ⟨isToken_decimal _, by omega⟩

/-! ### Mnemonics -/

lemma opcodeName_upper (opcode : Opcode) :
    opcodeName opcode ≠ [] ∧ ∀ c ∈ opcodeName opcode, c.isUpper = true := by
  have hall : opcodeName opcode ≠ [] ∧ (opcodeName opcode).all Char.isUpper = true := by
    cases opcode <;> exact ⟨List.cons_ne_nil _ _, rfl⟩
  exact ⟨hall.1, List.all_eq_true.mp hall.2⟩

lemma length_opcodeName (opcode : Opcode) : (opcodeName opcode).length ≤ 7 := by
  cases opcode with
  | reserved k =>
    show "UNKNOWN".toList.length ≤ 7
    decide
  | _ => decide

lemma opcodeFromString_opcodeName {opcode : Opcode} (h : opcode.code < 12) :
    opcodeFromString (opcodeName opcode) = some opcode := by
  cases opcode with
  | reserved k =>
    simp only [Opcode.code] at h
    omega
  | _ => decide

lemma not_delimiter_of_upper {c : Char} (h : c.isUpper = true) :
    delimiter c = false ∧ isSpace c = false ∧ c ≠ '\n' ∧ c ≠ '#' ∧ c ≠ ';' := by
  have hne : ∀ d : Char, d.isUpper = false → c ≠ d := by
    rintro d hd rfl
    simp [hd] at h
  have hblank := hne ' ' (by decide)
  have htab := hne '\t' (by decide)
  have hcomma := hne ',' (by decide)
  have hnewline := hne '\n' (by decide)
  have hcontrol : ¬ c ≤ '\r' := by
    intro hle
    have hletter : 65 ≤ c.toNat := UInt32.le_iff_toNat_le.mp (of_decide_eq_true h).1
    have hreturn : c.toNat ≤ 13 := UInt32.le_iff_toNat_le.mp hle
    omega
  refine ⟨?_, ?_, hnewline, hne '#' (by decide), hne ';' (by decide)⟩
  · simp [delimiter, hblank, htab, hcomma, hnewline]
  · simp [isSpace, hblank, hcontrol]

/-! ### Printed lines -/

/-- The layout of a printed line: the mnemonic and the operands with blanks between them. -/
def printedLine (opcode : Opcode) (args : List (List Char)) : List Char :=
  [' '].intercalate (opcodeName opcode :: args)

/-- A printed line is tokenized into the mnemonic and the operands. -/
lemma instructionTokens_printedLine (opcode : Opcode) {args : List (List Char)}
    (hargs : ∀ arg ∈ args, IsToken arg) :
    instructionTokens (printedLine opcode args) =
      some (lineTokens (opcodeName opcode) args) := by
  obtain ⟨hne, hupper⟩ := opcodeName_upper opcode
  have hname : IsToken (opcodeName opcode) :=
    ⟨hne, fun c hc => (not_delimiter_of_upper (hupper c hc)).1⟩
  have hstrtok : ∀ {tokens : List (List Char)}, (∀ token ∈ tokens, IsToken token) →
      strtok delimiter ([' '].intercalate tokens) =
        (tokens.head?, [' '].intercalate tokens.tail) := fun htokens =>
    strtok_intercalate rfl htokens
  have htail : ∀ {tokens : List (List Char)}, (∀ token ∈ tokens, IsToken token) →
      ∀ token ∈ tokens.tail, IsToken token := fun htokens token htoken =>
    htokens token (List.mem_of_mem_tail htoken)
  have hall : ∀ token ∈ opcodeName opcode :: args, IsToken token := by
    intro token htoken
    rcases List.mem_cons.mp htoken with rfl | htoken
    · exact hname
    · exact hargs token htoken
  have htokens : tokenizeLine ([' '].intercalate (opcodeName opcode :: args)) =
      some (lineTokens (opcodeName opcode) args) := by
    rw [tokenizeLine_eq]
    simp only [hstrtok hall, List.head?_cons, List.tail_cons, hstrtok hargs, hstrtok (htail hargs),
      hstrtok (htail (htail hargs)), hstrtok (htail (htail (htail hargs))), Option.map_some,
      lineTokens]
  obtain ⟨c, rest, hc⟩ := List.exists_cons_of_ne_nil hne
  have hfirst := not_delimiter_of_upper (hupper c (hc ▸ List.mem_cons_self))
  rw [hc, List.intercalate_cons_cons_left] at htokens
  rw [printedLine, hc, List.intercalate_cons_cons_left]
  simp only [instructionTokens]
  rw [List.dropWhile_cons_of_neg (by simp [hfirst.2.1])]
  simp [hfirst.2.2, htokens]

lemma printRegister_eq (r : Int) : printRegister r = ' ' :: 'R' :: decimal r := rfl

section Printed

variable {reg : PipelineRegister}

lemma print_arithmetic (hvalid : reg.valid = true)
    (hop : reg.opcode = .add ∨ reg.opcode = .sub ∨ reg.opcode = .mul ∨ reg.opcode = .and) :
    printInstructionDetail reg = printedLine reg.opcode
      ['R' :: decimal reg.r1, 'R' :: decimal reg.r2, 'R' :: decimal reg.r3] ++ ['\n'] := by
  simp only [printInstructionDetail, printedLine]
  rw [hvalid]
  rcases hop with h | h | h | h <;>
    simp only [h, printRegister_eq, List.intercalate_cons_cons, List.intercalate_singleton,
      List.append_assoc, List.cons_append, List.nil_append] <;> rfl

lemma print_immediate (hvalid : reg.valid = true)
    (hop : reg.opcode = .movr ∨ reg.opcode = .ori ∨ reg.opcode = .jeq ∨ reg.opcode = .movm) :
    printInstructionDetail reg = printedLine reg.opcode
      ['R' :: decimal reg.r1, 'R' :: decimal reg.r2, decimal reg.immediate.toInt] ++ ['\n'] := by
  simp only [printInstructionDetail, printedLine]
  rw [hvalid]
  rcases hop with h | h | h | h <;>
    simp only [h, printRegister_eq, printNumber, List.intercalate_cons_cons,
      List.intercalate_singleton, List.append_assoc, List.cons_append, List.nil_append] <;> rfl

lemma print_movi (hvalid : reg.valid = true) (hop : reg.opcode = .movi) :
    printInstructionDetail reg = printedLine reg.opcode
      ['R' :: decimal reg.r1, decimal reg.immediate.toInt] ++ ['\n'] := by
  simp only [printInstructionDetail, printedLine]
  rw [hvalid]
  simp only [hop, printRegister_eq, printNumber, List.intercalate_cons_cons,
    List.intercalate_singleton, List.append_assoc, List.cons_append, List.nil_append]
  rfl

lemma print_shift (hvalid : reg.valid = true) (hop : reg.opcode = .lsl ∨ reg.opcode = .lsr) :
    printInstructionDetail reg = printedLine reg.opcode
      ['R' :: decimal reg.r1, 'R' :: decimal reg.r2, decimal reg.shamt] ++ ['\n'] := by
  simp only [printInstructionDetail, printedLine]
  rw [hvalid]
  rcases hop with h | h <;>
    simp only [h, printRegister_eq, printNumber, List.intercalate_cons_cons,
      List.intercalate_singleton, List.append_assoc, List.cons_append, List.nil_append] <;> rfl

lemma print_jump (hvalid : reg.valid = true) (hop : reg.opcode = .jmp) :
    printInstructionDetail reg =
      printedLine reg.opcode [decimal reg.address.toInt] ++ ['\n'] := by
  simp only [printInstructionDetail, printedLine]
  rw [hvalid]
  simp only [hop, printNumber, List.intercalate_cons_cons, List.intercalate_singleton,
    List.append_assoc, List.cons_append, List.nil_append]
  rfl

end Printed

/-- The address field of a jump as the parser would read it. -/
lemma encodeJType_address {value address : Int32} (hsign : 0 ≤ value.toInt)
    (h : address.toInt = value.toInt % 2 ^ 28) :
    encodeJType .jmp address.toUInt32 = encodeJType .jmp value.toUInt32 := by
  have hvalue := toNat_toUInt32_of_nonneg hsign
  have haddress : (address.toUInt32.toNat : Int) = address.toInt :=
    toNat_toUInt32_of_nonneg (by omega)
  rw [← UInt32.toNat_inj, toNat_encodeJType, toNat_encodeJType]
  omega

/-- The printed form of an accepted word: operands that are read back as they were. -/
lemma Assembles.printed {tokens : LineTokens} {opcode : Opcode} {word : UInt32} (pc : UInt32)
    (h : Assembles tokens opcode word) :
    ∃ args, printInstructionDetail (decodeRawInstruction (fetchedRegister pc word)) =
        printedLine opcode args ++ ['\n'] ∧
      (∀ arg ∈ args, PrintedOperand arg) ∧ args.length ≤ 3 ∧
      Assembles (lineTokens (opcodeName opcode) args) opcode word := by
  obtain ⟨hvalid, hopcode⟩ := h.decoded pc
  cases h with
  | @arithmetic _ r1 r2 r3 hop h1 h2 h3 hlast =>
    obtain ⟨d1, d2, d3⟩ := fields_arithmetic h1 pc hop h2 h3
    have hr1 := parseRegister_lt h1
    have hr2 := parseRegister_lt h2
    have hr3 := parseRegister_lt h3
    refine ⟨['R' :: decimal r1.toNat, 'R' :: decimal r2.toNat, 'R' :: decimal r3.toNat], ?_, ?_,
      Nat.le_refl _, ?_⟩
    · rw [print_arithmetic hvalid (hopcode.symm ▸ hop), hopcode, d1, d2, d3]
    · simp [printedOperand_register hr1, printedOperand_register hr2, printedOperand_register hr3]
    · exact .arithmetic hop (parseRegister_decimal_toNat hr1) (parseRegister_decimal_toNat hr2)
        (parseRegister_decimal_toNat hr3) rfl
  | @immediate _ r1 r2 value hop h1 h2 h3 hlast hrange =>
    obtain ⟨d1, d2, d3⟩ := fields_immediate h1 pc hop h2 hrange
    have hr1 := parseRegister_lt h1
    have hr2 := parseRegister_lt h2
    refine ⟨['R' :: decimal r1.toNat, 'R' :: decimal r2.toNat, decimal value.toInt], ?_, ?_,
      Nat.le_refl _, ?_⟩
    · rw [print_immediate hvalid (hopcode.symm ▸ hop), hopcode, d1, d2, d3]
    · simp [printedOperand_register hr1, printedOperand_register hr2,
        printedOperand_immediate value]
    · exact .immediate hop (parseRegister_decimal_toNat hr1) (parseRegister_decimal_toNat hr2)
        (parseImmediate_decimal value) rfl hrange
  | @movi r1 value h1 h2 hlast hrange =>
    obtain ⟨d1, -, d3⟩ := fields_movi h1 pc hrange
    have hr1 := parseRegister_lt h1
    refine ⟨['R' :: decimal r1.toNat, decimal value.toInt], ?_, ?_, Nat.le_succ _, ?_⟩
    · rw [print_movi hvalid hopcode, hopcode, d1, d3]
    · simp [printedOperand_register hr1, printedOperand_immediate value]
    · exact .movi (parseRegister_decimal_toNat hr1) (parseImmediate_decimal value) rfl hrange
  | @shift _ r1 r2 amount hop h1 h2 h3 hlast hrange =>
    obtain ⟨d1, d2, -, d4⟩ := fields_shift h1 pc hop h2 hrange
    have hr1 := parseRegister_lt h1
    have hr2 := parseRegister_lt h2
    refine ⟨['R' :: decimal r1.toNat, 'R' :: decimal r2.toNat, decimal amount.toInt], ?_, ?_,
      Nat.le_refl _, ?_⟩
    · rw [print_shift hvalid (hopcode.symm ▸ hop), hopcode, d1, d2, d4]
    · simp [printedOperand_register hr1, printedOperand_register hr2,
        printedOperand_immediate amount]
    · exact .shift hop (parseRegister_decimal_toNat hr1) (parseRegister_decimal_toNat hr2)
        (parseImmediate_decimal amount) rfl hrange
  | @jump value h1 hlast hsign =>
    have haddress := toInt_jumpField pc hsign
    set reg := decodeRawInstruction (fetchedRegister pc (encodeJType .jmp value.toUInt32))
    refine ⟨[decimal reg.address.toInt], ?_, ?_, Nat.le_add_left _ _, ?_⟩
    · rw [print_jump hvalid hopcode, hopcode]
    · simp [printedOperand_immediate]
    · rw [← encodeJType_address hsign haddress]
      exact .jump (parseImmediate_decimal _) rfl (by omega)

/-- The printed form of a stored word is a line, and the line is assembled to the word. -/
lemma assembledWord_printed {line : List Char} {word : UInt32} (pc : UInt32)
    (h : assembledWord line = some word) :
    ∃ printed, printInstructionDetail (decodeRawInstruction (fetchedRegister pc word)) =
        printed ++ ['\n'] ∧
      '\n' ∉ printed ∧ printed.length ≤ lineCapacity ∧ assembledWord printed = some word := by
  obtain ⟨tokens, opcode, -, -, hassembles⟩ := assembledWord_iff.mp h
  obtain ⟨args, hprinted, hargs, hlength, hagain⟩ := hassembles.printed pc
  have htokens := instructionTokens_printedLine opcode fun arg harg => (hargs arg harg).1
  refine ⟨printedLine opcode args, hprinted, ?_, ?_, ?_⟩
  · intro hmem
    rcases mem_intercalate hmem with hblank | ⟨token, htoken, hnewline⟩
    · exact absurd hblank (by decide)
    · rcases List.mem_cons.mp htoken with rfl | htoken
      · exact (not_delimiter_of_upper ((opcodeName_upper opcode).2 _ hnewline)).2.2.1 rfl
      · exact absurd ((hargs token htoken).1.2 _ hnewline) (by decide)
  · have hall : ∀ token ∈ opcodeName opcode :: args, token.length ≤ 12 := by
      intro token htoken
      rcases List.mem_cons.mp htoken with rfl | htoken
      · exact (length_opcodeName opcode).trans (by decide)
      · exact (hargs token htoken).2
    have hbound : (printedLine opcode args).length ≤ _ := length_intercalate_le hall
    rw [List.length_cons] at hbound
    have hcapacity : lineCapacity = 127 := rfl
    omega
  · exact assembledWord_iff.mpr
      ⟨_, opcode, htokens, opcodeFromString_opcodeName hassembles.code_lt, hagain⟩

/-- Every word that a file puts into instruction memory is printed as a line that is assembled to
the word again. -/
theorem disassembly_reassembles (cpu : CPU) (filepath text : List Char) (pc a : UInt32)
    (ha : (a.toNat : Int) <
      (parseAssemblyFile cpu filepath (some text)).1.instructionCount.toInt) :
    let word := memoryFetchInstruction (parseAssemblyFile cpu filepath (some text)).1 a
    let printed := printInstructionDetail (decodeRawInstruction (fetchedRegister pc word))
    ∀ (cpu' : CPU) (filepath' : List Char),
      (parseAssemblyFile cpu' filepath' (some printed)).1 = loadProgram [word] cpu' := by
  intro word printed cpu' filepath'
  obtain ⟨line, -, hword⟩ := stored_word ha
  obtain ⟨body, hprinted, hline, hlength, hagain⟩ := assembledWord_printed pc hword
  have htext : printed = body ++ ['\n'] := hprinted
  rw [htext, (parseAssemblyFile_line cpu' filepath' hline hlength).2, hagain]
  rfl

/-- The round trip of `MOVI R1 1`. -/
theorem disassembly_reassembles_movi :
    (parseAssemblyFile cpuReset [] (some (printInstructionDetail (decodeRawInstruction
      (fetchedRegister 0 (memoryFetchInstruction
        (parseAssemblyFile cpuReset [] (some "MOVI R1 1".toList)).1 0)))))).1 =
      loadProgram [memoryFetchInstruction
        (parseAssemblyFile cpuReset [] (some "MOVI R1 1".toList)).1 0] cpuReset :=
  disassembly_reassembles cpuReset [] "MOVI R1 1".toList 0 0 (by decide) cpuReset []

end Fillet
