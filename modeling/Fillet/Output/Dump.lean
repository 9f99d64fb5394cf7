import Mathlib.Data.List.FinRange
import Fillet.Language.Translation
import Fillet.Library.SelfDelimiting
import Fillet.Output.Alarms
import Fillet.Output.Stages

/-!
# The final dump

The text of the final dump determines the program counter, the flags, the registers and the memory
that were dumped. What `main` dumps at the end is the state in which the program of its text halts
or, if the cycle bound stops it, the state it has reached by then.
-/

namespace Fillet

open BoundedLoop CString

/-! ### The tables -/

/-- The registers are in range, so that nothing but the table is printed. -/
lemma dumpRegisters_eq (target : CPU) :
    dumpRegisters target =
      .registerFile target.pc target.instructionCount target.memoryBusy ::
        (List.range registerCount).map fun index : ℕ =>
          .registerLine index (readRegister target index) := by
  have hlines : ∀ index ∈ List.range registerCount,
      readRegisterOutput index ++ [Message.registerLine index (readRegister target index)] =
        [Message.registerLine index (readRegister target index)] := by
    intro index hindex
    have hlt : index < 32 := List.mem_range.mp hindex
    have hrange : ¬ ((index : Int) < 0 ∨ (index : Int) ≥ registerCount) := by
      show ¬ ((index : Int) < 0 ∨ (index : Int) ≥ (32 : ℕ))
      omega
    rw [readRegisterOutput, if_neg hrange, List.nil_append]
  rw [dumpRegisters, List.flatMap_congr hlines, List.map_eq_flatMap]

/-! ### Texts -/

lemma decimal_injective : Function.Injective decimal := by
  intro a b h
  have hread := parseInteger_decimal (Or.inr rfl : (10 : ℕ) = 0 ∨ 10 = 10) a
  rw [h, parseInteger_decimal (Or.inr rfl)] at hread
  simpa using hread.symm

lemma not_mem_decimal {c : Char} (hc : c ≠ '-' ∧ c.isDigit = false) (v : Int) : c ∉ decimal v := by
  intro hmem
  rcases mem_decimal hmem with h | h
  · exact hc.1 h
  · exact absurd h (by simp [hc.2])

/-- Padding with blanks does not hide a number. -/
lemma leftpad_decimal_injective (n : ℕ) :
    Function.Injective fun v : Int => List.leftpad n ' ' (decimal v) := by
  intro a b h
  have hdrop : ∀ v : Int, (List.leftpad n ' ' (decimal v)).dropWhile (· = ' ') = decimal v := by
    intro v
    obtain ⟨c, rest, hc⟩ := List.exists_cons_of_ne_nil (decimal_ne_nil v)
    have hblank : c ≠ ' ' := by
      rintro rfl
      exact not_mem_decimal (c := ' ') (by decide) v (hc ▸ List.mem_cons_self)
    rw [List.leftpad, List.dropWhile_append_of_pos (by simp), hc,
      List.dropWhile_cons_of_neg (by simpa using hblank)]
  have hvalue := congrArg (List.dropWhile (· = ' ')) h
  rw [hdrop, hdrop] at hvalue
  exact decimal_injective hvalue

/-- A cell has eleven columns for its value. -/
lemma selfDelimiting_printCell : SelfDelimiting printCell := by
  have hlength : ∀ v : Int32, (List.leftpad 11 ' ' (signed v)).length = 11 := by
    intro v
    have hlow := v.le_toInt
    have hhigh := v.toInt_lt
    have hdigits := length_decimal v.toInt (k := 10) (by decide) (by omega)
    rw [List.length_leftpad, signed]
    omega
  have hinjective : Function.Injective fun v : Int32 => List.leftpad 11 ' ' (signed v) :=
    fun a b h => Int32.toInt_inj.mp (leftpad_decimal_injective 11 h)
  have hcell := (SelfDelimiting.of_length hlength hinjective).repeated
    fun v => " (".toList ++ printWord v.toUInt32 ++ ")\n".toList
  intro a b r r' h
  exact hcell a b r r' (by simpa only [printCell, List.append_assoc] using h)

lemma selfDelimiting_signed : SelfDelimiting fun v => signed v ++ ['\n'] :=
  .of_terminator '\n' (fun _ => not_mem_decimal (by decide) _)
    fun _ _ h => Int32.toInt_inj.mp (decimal_injective h)

lemma selfDelimiting_unsigned : SelfDelimiting fun v => unsigned v ++ ['\n'] :=
  .of_terminator '\n' (fun _ => not_mem_decimal (by decide) _)
    fun _ _ h => UInt32.toNat_inj.mp (Int.ofNat.inj (decimal_injective h))

/-- The three lines above the registers. -/
lemma selfDelimiting_registerFile (cycle : ℕ) :
    SelfDelimiting fun x : UInt32 × Int32 × Int32 =>
      (Message.registerFile x.1 x.2.1 x.2.2).text cycle := by
  have hbusy : SelfDelimiting fun v => "  memoryBusy = ".toList ++ (signed v ++ ['\n']) :=
    .literal _ selfDelimiting_signed
  have hcount : SelfDelimiting fun x : Int32 × Int32 => "  instructionCount = ".toList ++
      ((signed x.1 ++ ['\n']) ++ ("  memoryBusy = ".toList ++ (signed x.2 ++ ['\n']))) :=
    .literal _ (.pair selfDelimiting_signed hbusy)
  have hfile := SelfDelimiting.literal "\nDUMP: register file:\n  PC  = ".toList
    (.pair selfDelimiting_unsigned hcount)
  have htext : ∀ x : UInt32 × Int32 × Int32, (Message.registerFile x.1 x.2.1 x.2.2).text cycle =
      "\nDUMP: register file:\n  PC  = ".toList ++ unsigned x.1 ++
        "\n  instructionCount = ".toList ++ signed x.2.1 ++ "\n  memoryBusy = ".toList ++
        signed x.2.2 ++ ['\n'] :=
    fun _ => rfl
  have hcountText : "\n  instructionCount = ".toList =
      ['\n'] ++ "  instructionCount = ".toList := by
    decide
  have hbusyText : "\n  memoryBusy = ".toList = ['\n'] ++ "  memoryBusy = ".toList := by
    decide
  intro x y r r' h
  refine hfile x y r r' ?_
  simpa only [htext, hcountText, hbusyText, List.append_assoc] using h

lemma selfDelimiting_registerLine (cycle index : ℕ) :
    SelfDelimiting fun v => (Message.registerLine index v).text cycle :=
  selfDelimiting_printCell.literal
    ("  R".toList ++ List.leftpad 2 '0' (decimal index) ++ " = ".toList)

lemma selfDelimiting_memoryLine (cycle address : ℕ) :
    SelfDelimiting fun v => (Message.memoryLine address v).text cycle :=
  selfDelimiting_printCell.literal
    ("  [".toList ++ List.leftpad 4 '0' (decimal address) ++ "] ".toList)

/-- The text of the final dump. -/
def dumpText (cpu : CPU) : List Char :=
  (pipelineDumpFinalState cpu).flatMap (Message.text 0)

lemma dumpText_eq (cpu : CPU) :
    dumpText cpu = Message.text 0 .finalState ++
      ((Message.registerFile cpu.pc cpu.instructionCount cpu.memoryBusy).text 0 ++
        (((List.range registerCount).flatMap fun index : ℕ =>
            (Message.registerLine index (readRegister cpu index)).text 0) ++
          (Message.text 0 .fullMemory ++
            ((List.finRange memorySize).flatMap fun address : Fin memorySize =>
              (Message.memoryLine address.val (cpu.memory address)).text 0)))) := by
  simp only [dumpText, pipelineDumpFinalState, dumpRegisters_eq, dumpMemory, List.flatMap_cons,
    List.flatMap_append, List.flatMap_map, List.cons_append]

/-- Two CPUs with the same dump agree in everything the simulator shows of them. -/
theorem dump_determines_state (cpu cpu' : CPU) :
    dumpText cpu = dumpText cpu' ↔
      cpu.pc = cpu'.pc ∧ cpu.instructionCount = cpu'.instructionCount ∧
      cpu.memoryBusy = cpu'.memoryBusy ∧ cpu.memory = cpu'.memory ∧
      ∀ r, readRegister cpu r = readRegister cpu' r := by
  rw [dumpText_eq, dumpText_eq]
  constructor
  · intro h
    obtain ⟨hfile, h⟩ := selfDelimiting_registerFile 0 (_, _, _) (_, _, _) _ _
      (List.append_cancel_left h)
    obtain ⟨hregisters, h⟩ := SelfDelimiting.table
      (u := fun index v => (Message.registerLine index v).text 0)
      (fun index _ => selfDelimiting_registerLine 0 index) h
    obtain ⟨hmemory, -⟩ := SelfDelimiting.table
      (u := fun (address : Fin memorySize) v => (Message.memoryLine address.val v).text 0)
      (fun address _ => selfDelimiting_memoryLine 0 address.val)
      (congrArg (fun text => text ++ ([] : List Char)) (List.append_cancel_left h))
    simp only [Prod.mk.injEq] at hfile
    refine ⟨hfile.1, hfile.2.1, hfile.2.2, funext fun i => hmemory i (List.mem_finRange i), ?_⟩
    intro r
    by_cases hr : 0 < r ∧ r < 32
    · have hindex := hregisters r.toNat (List.mem_range.mpr (by
        show r.toNat < 32
        omega))
      rwa [Int.toNat_of_nonneg hr.1.le] at hindex
    · rw [readRegister_of_not_range cpu hr, readRegister_of_not_range cpu' hr]
  · rintro ⟨hpc, hcount, hbusy, hmemory, hregisters⟩
    simp only [hpc, hcount, hbusy, hmemory, hregisters]

/-! ### The dump of `main` -/

/-- The registers of a machine. -/
def registerLines (m : Machine) : List Message :=
  (List.finRange registerCount).map fun r => .registerLine r.val (m.registers r)

/-- Its data segment. -/
def dataLines (m : Machine) : List Message :=
  (List.finRange dataMemorySize).map fun i => .memoryLine (instructionMemorySize + i.val) (m.data i)

/-- Instruction memory. -/
def instructionLines (words : Fin instructionMemorySize → Int32) : List Message :=
  (List.finRange instructionMemorySize).map fun i => .memoryLine i.val (words i)

/-- The words below the data segment. -/
def CPU.instructionWords (cpu : CPU) (i : Fin instructionMemorySize) : Int32 :=
  cpu.memory (Fin.castLE (by decide) i)

lemma map_finRange_add {β : Type*} (n m : ℕ) (f : Fin (n + m) → β) :
    (List.finRange (n + m)).map f =
      ((List.finRange n).map fun i => f (i.castAdd m)) ++
        (List.finRange m).map fun i => f (i.natAdd n) := by
  rw [← List.ofFn_eq_map, ← List.ofFn_eq_map, ← List.ofFn_eq_map]
  exact List.ofFn_add

/-- The final dump in terms of the machine that the CPU stands for. -/
lemma pipelineDumpFinalState_eq (cpu : CPU) :
    pipelineDumpFinalState cpu =
      [.finalState, .registerFile cpu.pc cpu.instructionCount cpu.memoryBusy] ++
        registerLines cpu.machine ++ [.fullMemory] ++ instructionLines cpu.instructionWords ++
        dataLines cpu.machine := by
  have hregisters : ((List.range registerCount).map fun index : ℕ =>
      Message.registerLine index (readRegister cpu index)) = registerLines cpu.machine := by
    rw [registerLines, ← List.map_coe_finRange_eq_range, List.map_map]
    rfl
  have hmemory : ((List.finRange memorySize).map fun address : Fin memorySize =>
      Message.memoryLine address.val (cpu.memory address)) =
        instructionLines cpu.instructionWords ++ dataLines cpu.machine := by
    let line := fun address : Fin (1024 + 1024) =>
      Message.memoryLine address.val (cpu.memory address)
    have hinstructions : instructionLines cpu.instructionWords =
        (List.finRange 1024).map fun i => line (i.castAdd 1024) := rfl
    have hdata : dataLines cpu.machine =
        (List.finRange 1024).map fun i => line (i.natAdd 1024) := rfl
    rw [hinstructions, hdata]
    exact map_finRange_add 1024 1024 line
  rw [pipelineDumpFinalState, dumpRegisters_eq, dumpMemory, hregisters, hmemory]
  simp

/-- Every topic but the final dump. -/
def runTopics : List Topic :=
  [.frame, .fetch, .hazard, .decode, .redirect, .update, .stage, .alarm]

lemma topics_simulate (n : ℕ) (cpu : CPU) : OnTopics runTopics (simulateOutput n cpu none) := by
  refine forall_mem_boundedLog (P := fun _ => True) (fun _ _ _ => trivial) ?_ n trivial
  intro s _ _
  obtain ⟨rest, hrest, htopics⟩ := topics_cycle s
  rw [hrest]
  exact ((topics_header _).mono (by simp [runTopics])).append (htopics.mono (by simp [runTopics]))

/-- Only the dump at the end is about the final state. -/
lemma simulatorOutput_eq_dump (argv : List (List Char)) (files : List Char → Option (List Char)) :
    ∃ earlier, OnTopics runTopics earlier ∧
      simulatorOutput argv files =
        earlier ++ pipelineDumpFinalState (simulatorMain argv files).simulation.target := by
  have hframe : ∀ m : Message, m.topic = .frame → OnTopics runTopics [m] :=
    fun m hm => onTopics_singleton (by simp [runTopics, hm])
  have hmessages : ∀ messages : List ParserMessage,
      OnTopics runTopics (messages.map .parserMessage) := by
    intro messages m hm
    obtain ⟨message, -, rfl⟩ := List.mem_map.mp hm
    simp [runTopics, Message.topic]
  have hwarning : ∀ (b : Bool) (bound : ℕ),
      OnTopics runTopics (if b then [.maxCyclesReached bound] else []) := by
    intro b bound
    split_ifs
    · exact hframe _ rfl
    · exact onTopics_nil _
  have hfirst : OnTopics runTopics [.startingSimulator, .loadingProgram (programPath argv)] :=
    onTopics_cons (by simp [runTopics, Message.topic]) (hframe _ rfl)
  exact ⟨_, (hfirst.append (hmessages _)).append
    ((((hframe _ rfl).append (topics_simulate _ _)).append (hwarning _ _)).append (hframe _ rfl)),
    (List.append_assoc _ _ _).symm⟩

lemma undisturbed_simulate {cpu : CPU} (h : Orderly cpu) (n : ℕ) :
    Undisturbed (simulate n cpu none) :=
  boundedWhile_invariant (fun _ hs _ => hs.next) n (undisturbed_start h)

/-- The words of a program in memory. -/
lemma Holds.instructionWords {program : List Instruction} {cpu : CPU} (h : Holds program cpu)
    (i : Fin instructionMemorySize) (hi : i.val < program.length) :
    wordInstruction (cpu.instructionWords i).toUInt32 = program[i.val]? := by
  have hlt : i.val < 1024 := i.isLt
  have haddress : (UInt32.ofNat i.val).toNat = i.val := by
    apply UInt32.toNat_ofNat_of_lt'
    show i.val < 4294967296
    omega
  obtain ⟨hinstruction, hindex⟩ := isInstructionAddress_toInt32 (a := UInt32.ofNat i.val) (by omega)
  have hcell : memoryIndex (UInt32.ofNat i.val).toInt32 = Fin.castLE (by decide) i :=
    Fin.ext (hindex.trans haddress)
  have hword := h.words (UInt32.ofNat i.val) (by omega)
  rw [memoryFetchInstruction, hinstruction, Bool.not_true, if_neg Bool.false_ne_true, hcell,
    haddress] at hword
  exact hword

/-- The dump of `main`, in terms of the machine that its CPU stands for. -/
lemma simulatorOutput_eq_machine {argv : List (List Char)}
    {files : List Char → Option (List Char)}
    (hlines : ∀ text, files (programPath argv) = some text →
      ∀ line ∈ lines text, line.length ≤ lineCapacity ∧ JumpFits line) :
    let program := sourceProgram (files (programPath argv))
    let cpu := (simulatorMain argv files).simulation.cpu
    ∃ earlier, OnTopics runTopics earlier ∧
      (∀ i : Fin instructionMemorySize, i.val < program.length →
        wordInstruction (cpu.instructionWords i).toUInt32 = program[i.val]?) ∧
      simulatorOutput argv files = earlier ++
        ([.finalState, .registerFile cpu.pc (Int32.ofNat program.length) 0] ++
          registerLines cpu.machine ++ [.fullMemory] ++ instructionLines cpu.instructionWords ++
          dataLines cpu.machine) := by
  intro program cpu
  obtain ⟨hholds, -⟩ := holds_main hlines
  have horderly : Orderly (parseAssemblyFile (memoryInit cpuReset) (programPath argv)
      (files (programPath argv))).1 :=
    orderly_loadedCpu (programPath argv) (files (programPath argv))
  have hundisturbed := undisturbed_simulate horderly 2147483647
  have hfinal : Holds program cpu := hholds.sameProgram (precise_simulate 2147483647 _).program
  obtain ⟨earlier, hearlier, houtput⟩ := simulatorOutput_eq_dump argv files
  have htarget : (simulatorMain argv files).simulation.target = cpu :=
    hundisturbed.toScheduled.target
  have hbusy : cpu.memoryBusy = 0 := hundisturbed.orderly.memoryBusy
  have hcount : cpu.instructionCount = Int32.ofNat program.length := by
    rw [← hfinal.count, ← UInt32.toInt32_ofNat', UInt32.ofNat_toNat, Int32.toInt32_toUInt32]
  refine ⟨earlier, hearlier, hfinal.instructionWords, ?_⟩
  rw [houtput, htarget, pipelineDumpFinalState_eq, hcount, hbusy]

/-- What `main` prints last is the state in which the program of its text halts: the program
counter, the registers and the data of the machine, and the words that stand for the program. -/
theorem main_prints_final_state (argv : List (List Char)) (files : List Char → Option (List Char))
    (hlines : ∀ text, files (programPath argv) = some text →
      ∀ line ∈ lines text, line.length ≤ lineCapacity ∧ JumpFits line)
    (k : ℕ) (hk : 6 * k + 7 ≤ 2147483647) :
    let program := sourceProgram (files (programPath argv))
    let m := Machine.initial.run program k
    Machine.halted program m = true →
      ∃ earlier words, OnTopics runTopics earlier ∧
        (∀ i : Fin instructionMemorySize, i.val < program.length →
          wordInstruction (words i).toUInt32 = program[i.val]?) ∧
        simulatorOutput argv files = earlier ++
          ([.finalState, .registerFile (UInt32.ofNat m.pc) (Int32.ofNat program.length) 0] ++
            registerLines m ++ [.fullMemory] ++ instructionLines words ++ dataLines m) := by
  intro program m hhalt
  obtain ⟨hholds, hinitial⟩ := holds_main hlines
  obtain ⟨-, hmachine⟩ := hholds.no_work (k := k) (by rwa [hinitial]) hk
  rw [hinitial] at hmachine
  obtain ⟨earlier, hearlier, hwords, houtput⟩ := simulatorOutput_eq_machine hlines
  change (simulatorMain argv files).simulation.cpu.machine = m at hmachine
  have hpc : (simulatorMain argv files).simulation.cpu.pc = UInt32.ofNat m.pc := by
    rw [← hmachine]
    exact UInt32.ofNat_toNat.symm
  refine ⟨earlier, _, hearlier, hwords, ?_⟩
  rw [houtput, hpc, hmachine]

theorem main_prints_final_state_sum :
    ∃ earlier words, OnTopics runTopics earlier ∧
      simulatorOutput [] (fun _ => some sumText) = earlier ++
        ([.finalState, .registerFile 2 2 0] ++
          registerLines (Machine.initial.run (sourceProgram (some sumText)) 2) ++ [.fullMemory] ++
          instructionLines words ++
          dataLines (Machine.initial.run (sourceProgram (some sumText)) 2)) := by
  have hlines : ∀ text, some sumText = some text →
      ∀ line ∈ lines text, line.length ≤ lineCapacity ∧ JumpFits line := by
    rintro _ ⟨⟩
    exact lines_sumText
  obtain ⟨earlier, words, hearlier, -, houtput⟩ :=
    main_prints_final_state [] (fun _ => some sumText) hlines 2 (by decide) (by decide)
  have hpc : (Machine.initial.run (sourceProgram (some sumText)) 2).pc = 2 := by decide
  have hlength : (sourceProgram (some sumText)).length = 2 := by decide
  rw [hpc, hlength] at houtput
  exact ⟨earlier, words, hearlier, houtput⟩

/-- Equal registers print the same lines, whatever else differs. -/
lemma registerLines_congr {m m' : Machine} (h : ∀ r, m.registers r = m'.registers r) :
    registerLines m = registerLines m' := by
  simp only [registerLines, h]

lemma dataLines_congr {m m' : Machine} (h : ∀ i, m.data i = m'.data i) :
    dataLines m = dataLines m' := by
  simp only [dataLines, h]

/-- A state of the program from which the run has been stopped: the program counter is that of one
of the next two states or its own, or at most three addresses behind it. -/
def StoppedAt (program : List Instruction) (m : Machine) (a : ℕ) (pc : UInt32) : Prop :=
  Machine.halted program (m.run program a) = false ∧
    ∃ i j, a ≤ i ∧ i ≤ a + 2 ∧ j ≤ 3 ∧ pc = UInt32.ofNat ((m.run program i).pc + j)

/-- If work is left after an odd cycle, the registers and the data are those of one and the same
state of the program, and it has not halted. -/
lemma Holds.stopped {program : List Instruction} {cpu : CPU} (h : Holds program cpu) {n : ℕ}
    (hn : n % 2 = 1) (hwork : (simulate n cpu none).hasWork = true) :
    ∃ a, n < 6 * a + 19 ∧ StoppedAt program cpu.machine a (simulate n cpu none).cpu.pc ∧
      (∀ r, (simulate n cpu none).cpu.machine.registers r =
        (cpu.machine.run program a).registers r) ∧
      ∀ i, (simulate n cpu none).cpu.machine.data i = (cpu.machine.run program a).data i := by
  have hcycle := (simulate_exit n cpu).resolve_left (by simp [hwork])
  have hstages := inStages_simulate cpu n
  obtain ⟨a, b, c, d, hs, hparity⟩ := hstages.staged
  rw [hcycle, if_neg (by omega)] at hparity
  subst hparity
  have hmemNear := hs.memSlot.near
  have hexNear := hs.exSlot.near
  have hrun := hs.toProgress.running hstages.toInStep (by omega) hwork
  refine ⟨a, ?_, ⟨?_, ?_⟩, ?_, ?_⟩
  · -- The bound is known for the state that the deadline is counted from, which is the same one.
    obtain ⟨a', b', c', d', hp, hle, hnear, hdue, hparity'⟩ := (precise_simulate n cpu).progress
    rw [hcycle, if_neg (by omega)] at hparity'
    have hrun' := hp.running hstages.toInStep (by omega) hwork
    obtain rfl := index_of_retired h.formatted hrun hrun' (hs.retired.symm.trans hp.retired)
    have hearly := (precise_simulate n cpu).toInTime.cycle_lt_deadline hwork
    omega
  · rw [h.running_machineAt] at hrun
    simpa using hrun
  · obtain ⟨i, j, hi, hj, hpc⟩ := hstages.pc_near hs
    refine ⟨i, j, by omega, by omega, hj, ?_⟩
    rw [hpc, ← h.machine_run, UInt32.ofNat_add]
    exact congrArg (· + UInt32.ofNat j) UInt32.ofNat_toNat.symm
  · intro r
    rw [← h.machine_run]
    exact readRegister_congr hs.registers _
  · intro i
    rw [← h.machine_run]
    exact congrFun hs.toProgress.stopped.memory _

/-- Whether its program halts or not, what `main` prints last are the registers and the data of a
state of the program: its final state, unless the cycle bound has stopped the run, and then a state
after more than 357 913 938 instructions that is not final. -/
theorem main_prints_program_state (argv : List (List Char))
    (files : List Char → Option (List Char))
    (hlines : ∀ text, files (programPath argv) = some text →
      ∀ line ∈ lines text, line.length ≤ lineCapacity ∧ JumpFits line) :
    let program := sourceProgram (files (programPath argv))
    ∃ a pc earlier words, let m := Machine.initial.run program a
      ((simulatorMain argv files).simulation.hasWork = false ∧
          Machine.halted program m = true ∧ pc = UInt32.ofNat m.pc ∨
        (simulatorMain argv files).simulation.hasWork = true ∧
          357913938 < a ∧ StoppedAt program .initial a pc) ∧
      OnTopics runTopics earlier ∧
      (∀ i : Fin instructionMemorySize, i.val < program.length →
        wordInstruction (words i).toUInt32 = program[i.val]?) ∧
      simulatorOutput argv files = earlier ++
        ([.finalState, .registerFile pc (Int32.ofNat program.length) 0] ++ registerLines m ++
          [.fullMemory] ++ instructionLines words ++ dataLines m) := by
  intro program
  obtain ⟨hholds, hinitial⟩ := holds_main hlines
  obtain ⟨earlier, hearlier, hwords, houtput⟩ := simulatorOutput_eq_machine hlines
  cases hwork : (simulatorMain argv files).simulation.hasWork with
  | false =>
    obtain ⟨a, -, hhalt, hmachine⟩ := hholds.halted_of_no_work hwork
    rw [hinitial] at hhalt hmachine
    change (simulatorMain argv files).simulation.cpu.machine = _ at hmachine
    have hpc : (simulatorMain argv files).simulation.cpu.pc =
        UInt32.ofNat (Machine.initial.run program a).pc := by
      rw [← hmachine]
      exact UInt32.ofNat_toNat.symm
    refine ⟨a, _, earlier, _, Or.inl ⟨rfl, hhalt, hpc⟩, hearlier, hwords, ?_⟩
    rw [houtput, hmachine]
  | true =>
    obtain ⟨a, hmany, hstopped, hregisters, hdata⟩ :=
      hholds.stopped (by decide : 2147483647 % 2 = 1) hwork
    rw [hinitial] at hstopped hregisters hdata
    have hregisterLines : registerLines (simulatorMain argv files).simulation.cpu.machine =
        registerLines (Machine.initial.run program a) :=
      registerLines_congr hregisters
    have hdataLines : dataLines (simulatorMain argv files).simulation.cpu.machine =
        dataLines (Machine.initial.run program a) :=
      dataLines_congr hdata
    refine ⟨a, (simulatorMain argv files).simulation.cpu.pc, earlier, _,
      Or.inr ⟨rfl, by omega, hstopped⟩, hearlier, hwords, ?_⟩
    rw [houtput, hregisterLines, hdataLines]

/-- A program that does not halt. -/
def loopText : List Char :=
  "JMP 0\n".toList

lemma run_loopText (k : ℕ) :
    Machine.initial.run (sourceProgram (some loopText)) k = .initial := by
  have hprogram : sourceProgram (some loopText) = [.jmp 0] := by decide
  rw [hprogram, Machine.run]
  exact Function.iterate_fixed rfl k

lemma lines_loopText :
    ∀ line ∈ lines loopText, line.length ≤ lineCapacity ∧ JumpFits line := by
  have hlines : lines loopText = ["JMP 0".toList, []] := by decide
  rw [hlines]
  intro line hline
  simp only [List.mem_cons, List.not_mem_nil, or_false] at hline
  rcases hline with rfl | rfl
  · exact ⟨by decide, jumpFits_jmp_zero⟩
  · exact ⟨by decide, jumpFits_of_no_jump (by decide)⟩

/-- The loop is stopped; its program counter is at most 3. -/
theorem main_prints_program_state_loop :
    ∃ j earlier words, j ≤ 3 ∧ OnTopics runTopics earlier ∧
      simulatorOutput [] (fun _ => some loopText) = earlier ++
        ([.finalState, .registerFile (UInt32.ofNat j) 1 0] ++ registerLines .initial ++
          [.fullMemory] ++ instructionLines words ++ dataLines .initial) := by
  have hlines : ∀ text, some loopText = some text →
      ∀ line ∈ lines text, line.length ≤ lineCapacity ∧ JumpFits line := by
    rintro _ ⟨⟩
    exact lines_loopText
  obtain ⟨a, pc, earlier, words, hstate, hearlier, -, houtput⟩ :=
    main_prints_program_state [] (fun _ => some loopText) hlines
  have hlength : (sourceProgram (some loopText)).length = 1 := by decide
  rw [run_loopText, hlength] at houtput
  rcases hstate with ⟨-, hhalt, -⟩ | ⟨-, -, -, i, j, -, -, hj, hpc⟩
  · rw [run_loopText, Machine.halted, hlength] at hhalt
    exact absurd hhalt (by decide)
  · rw [run_loopText] at hpc
    have hsame : pc = UInt32.ofNat j := hpc.trans (congrArg UInt32.ofNat (Nat.zero_add j))
    exact ⟨j, earlier, words, hj, hearlier, hsame ▸ houtput⟩

end Fillet
