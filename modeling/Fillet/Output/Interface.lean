import Fillet.Assembler.Lines
import Fillet.Model.Interface
import Fillet.Output.Accounting
import Fillet.Output.Fetches
import Fillet.RegisterTransfer

/-!
# The older fetch stage and the dumps of a part of memory

`fetchInstruction` walks through the program word by word and then delivers zeros. As long as no
branch is taken these are the words that the pipeline fetches. The dumps of `memory.c` stay inside
their segments although their bounds are 32-bit sums.
-/

namespace Fillet

variable {cpu : CPU}

/-! ### Fetching in sequence -/

/-- The words of `n` calls of `fetch_instruction`, and the CPU behind them. -/
def fetchInstructions : ℕ → CPU → List UInt32 × CPU
  | 0, cpu => ([], cpu)
  | n + 1, cpu =>
    let (raw, _, cpu) := fetchInstructionStage cpu
    let (rest, cpu) := fetchInstructions n cpu
    (raw :: rest, cpu)

/-- The first `n` addresses and words from `a` on. -/
def wordsFrom (cpu : CPU) : ℕ → UInt32 → List (UInt32 × UInt32)
  | 0, _ => []
  | n + 1, a => (a, memoryFetchInstruction cpu a) :: wordsFrom cpu n (a + 1)

lemma wordsFrom_succ (cpu : CPU) (n : ℕ) (a : UInt32) :
    wordsFrom cpu (n + 1) a = wordsFrom cpu n a ++
      [(a + UInt32.ofNat n, memoryFetchInstruction cpu (a + UInt32.ofNat n))] := by
  induction n generalizing a with
  | zero => simp [wordsFrom]
  | succ n ih =>
    have hshift : a + 1 + UInt32.ofNat n = a + UInt32.ofNat (n + 1) := by
      rw [UInt32.add_assoc, UInt32.add_comm 1, UInt32.ofNat_add]
      rfl
    rw [wordsFrom, ih, hshift]
    rfl

lemma length_wordsFrom (cpu : CPU) (n : ℕ) (a : UInt32) : (wordsFrom cpu n a).length = n := by
  induction n generalizing a with
  | zero => rfl
  | succ n ih => rw [wordsFrom, List.length_cons, ih]

lemma take_wordsFrom (cpu : CPU) {k n : ℕ} (h : k ≤ n) (a : UInt32) :
    (wordsFrom cpu n a).take k = wordsFrom cpu k a := by
  induction n generalizing k a with
  | zero => rw [Nat.le_zero.mp h, wordsFrom, List.take_nil]
  | succ n ih =>
    cases k with
    | zero => rfl
    | succ k => rw [wordsFrom, wordsFrom, List.take_succ_cons, ih (Nat.le_of_succ_le_succ h)]

lemma wordsFrom_congr {cpu' : CPU} (h : SameProgram cpu cpu') (n : ℕ) (a : UInt32) :
    wordsFrom cpu' n a = wordsFrom cpu n a := by
  induction n generalizing a with
  | zero => rfl
  | succ n ih => rw [wordsFrom, wordsFrom, ih, memoryFetchInstruction_congr h.memory]

/-- A word of the program is fetched like any word of instruction memory. -/
lemma fetchInstruction_of_running (hcount : cpu.instructionCount.toUInt32.toNat ≤ 1024)
    (hrun : running cpu = true) :
    fetchInstruction cpu = (memoryFetchInstruction cpu cpu.pc, (fetchInstruction cpu).2.1,
      { cpu with pc := cpu.pc + 1, memoryBusy := 0 }) := by
  have hpc := UInt32.lt_iff_toNat_lt.mp (of_decide_eq_true hrun)
  have hinside : ¬ cpu.pc ≥ cpu.instructionCount.toUInt32 := by
    rw [ge_iff_le, UInt32.le_iff_toNat_le]
    omega
  obtain ⟨hinstruction, -⟩ := isInstructionAddress_toInt32 (a := cpu.pc) (by omega)
  simp [fetchInstruction, memoryFetchInstruction, hinside, hinstruction]

lemma fetchInstruction_of_halted (hhalt : running cpu = false) :
    (fetchInstruction cpu).1 = 0 ∧ (fetchInstruction cpu).2.2 = cpu := by
  have hout : cpu.pc ≥ cpu.instructionCount.toUInt32 := by
    rw [running, decide_eq_false_iff_not, UInt32.not_lt] at hhalt
    exact hhalt
  simp [fetchInstruction, hout]

/-- As long as there are words left, the calls deliver them. -/
lemma fetchInstructions_of_room {n : ℕ} (hcount : cpu.instructionCount.toUInt32.toNat ≤ 1024)
    (hroom : cpu.pc.toNat + n ≤ cpu.instructionCount.toUInt32.toNat) (m : ℕ) :
    (fetchInstructions (n + m) cpu).1 = (wordsFrom cpu n cpu.pc).map Prod.snd ++
      (fetchInstructions m (fetchInstructions n cpu).2).1 ∧
    (fetchInstructions n cpu).2.pc.toNat = cpu.pc.toNat + n ∧
    SameProgram cpu (fetchInstructions n cpu).2 := by
  induction n generalizing cpu with
  | zero => exact ⟨by rw [Nat.zero_add]; rfl, rfl, .refl cpu⟩
  | succ n ih =>
    have hrun : running cpu = true := by
      rw [running, decide_eq_true_iff, UInt32.lt_iff_toNat_lt]
      omega
    set cpu' : CPU := { cpu with pc := cpu.pc + 1, memoryBusy := 0 } with hcpu'
    have hsame : SameProgram cpu cpu' := ⟨fun _ _ => rfl, rfl⟩
    have hpc : cpu'.pc.toNat = cpu.pc.toNat + 1 := by
      show (cpu.pc + 1).toNat = _
      rw [UInt32.toNat_add]
      show (cpu.pc.toNat + 1) % 4294967296 = _
      omega
    obtain ⟨hwords, hlast, hprogram⟩ := @ih cpu' hcount (by
      show cpu'.pc.toNat + n ≤ cpu.instructionCount.toUInt32.toNat
      omega)
    have hfetch := fetchInstruction_of_running hcount hrun
    rw [Nat.add_right_comm, fetchInstructions, fetchInstructions, fetchInstructionStage, wordsFrom,
      hfetch]
    refine ⟨?_, by rw [hlast, hpc]; omega, hsame.trans hprogram⟩
    rw [List.map_cons, List.cons_append, ← wordsFrom_congr hsame, ← hwords]

/-- Behind the program every call delivers 0. -/
lemma fetchInstructions_of_halted (hhalt : running cpu = false) (n : ℕ) :
    (fetchInstructions n cpu).1 = List.replicate n 0 := by
  obtain ⟨hzero, hsame⟩ := fetchInstruction_of_halted hhalt
  induction n with
  | zero => rfl
  | succ n ih =>
    rw [fetchInstructions, fetchInstructionStage, List.replicate_succ]
    dsimp only
    rw [hzero, hsame, ih]

/-! ### The two ways to fetch -/

/-- Without a taken branch the log of the sequential machine lists the words of the program. -/
lemma fetchLog_of_no_branch
    (hfree : ∀ i, running (machineAt cpu i).cpu = true → takenAt cpu i = false) (k : ℕ) :
    ∃ n, fetchLog cpu k = wordsFrom cpu n cpu.pc ∧
      (machineAt cpu k).cpu.pc = cpu.pc + UInt32.ofNat n ∧
      (running cpu = true → cpu.pc.toNat + n ≤ cpu.instructionCount.toUInt32.toNat) ∧
      (running cpu = false → n = 0) := by
  induction k with
  | zero => exact ⟨0, rfl, by simp [machineAt, Sequential.start], fun hrun =>
      (UInt32.lt_iff_toNat_lt.mp (of_decide_eq_true hrun)).le, fun _ => rfl⟩
  | succ k ih =>
    obtain ⟨n, hlog, hpc, hroom, hzero⟩ := ih
    cases hrun : running (machineAt cpu k).cpu with
    | false =>
      have hsame := machineAt_of_halted hrun (Nat.le_succ k)
      refine ⟨n, ?_, by rw [hsame, hpc], hroom, hzero⟩
      rw [fetchLog_of_halted hrun (Nat.le_succ k), hlog]
    | true =>
      have hstart := running_of_running_later (Nat.zero_le k) hrun
      have hnext : cpu.pc + UInt32.ofNat n + 1 = cpu.pc + UInt32.ofNat (n + 1) := by
        rw [UInt32.add_assoc, UInt32.ofNat_add]
        rfl
      have hnone : calculateBranchTarget (sequentialInstruction (machineAt cpu k).cpu) = none :=
        Option.not_isSome_iff_eq_none.mp (Bool.eq_false_iff.mp (hfree k hrun))
      have hword : stepFetches (machineAt cpu k).cpu =
          [(cpu.pc + UInt32.ofNat n, memoryFetchInstruction cpu (cpu.pc + UInt32.ofNat n))] := by
        rw [stepFetches, if_pos hrun, hnone, hpc,
          memoryFetchInstruction_congr (sameProgram_machineAt cpu k).memory]
        rfl
      refine ⟨n + 1, ?_, ?_, ?_, fun hhalt => absurd (hstart.symm.trans hhalt) (by decide)⟩
      · rw [fetchLog_succ, hlog, hword, wordsFrom_succ]
      · rw [machineAt_succ, step_pc hrun, hnone, Option.getD_none, hpc, hnext]
      · intro _
        have hbefore := hroom hstart
        have hlt := UInt32.lt_iff_toNat_lt.mp (of_decide_eq_true hrun)
        have hbound := cpu.instructionCount.toUInt32.toNat_lt
        rw [(sameProgram_machineAt cpu k).count, hpc, UInt32.toNat_add, UInt32.toNat_ofNat'] at hlt
        omega

/-- What is fetched in the order of the program is what the calls deliver. -/
lemma fetchInstructions_of_beginning {fetched : List (UInt32 × UInt32)} {n : ℕ}
    (hcount : cpu.instructionCount.toUInt32.toNat ≤ 1024)
    (hroom : cpu.pc.toNat + n ≤ cpu.instructionCount.toUInt32.toNat)
    (hbegins : fetched <+: wordsFrom cpu n cpu.pc) :
    (fetchInstructions fetched.length cpu).1 = fetched.map Prod.snd := by
  have hlength := hbegins.length_le
  rw [length_wordsFrom] at hlength
  have hcalls := (@fetchInstructions_of_room cpu fetched.length hcount (by omega) 0).1
  have hfetched : fetched = wordsFrom cpu fetched.length cpu.pc := by
    rw [← take_wordsFrom cpu hlength]
    exact List.prefix_iff_eq_take.mp hbegins
  rw [Nat.add_zero, ← hfetched] at hcalls
  rw [hcalls]
  exact List.append_nil _

/-- When the machine halts behind `n` words, further calls deliver zeros. -/
lemma fetchInstructions_of_end {n k : ℕ} (hcount : cpu.instructionCount.toUInt32.toNat ≤ 1024)
    (hroom : cpu.pc.toNat + n ≤ cpu.instructionCount.toUInt32.toNat)
    (hpc : (machineAt cpu k).cpu.pc = cpu.pc + UInt32.ofNat n)
    (hhalt : running (machineAt cpu k).cpu = false) (m : ℕ) :
    (fetchInstructions (n + m) cpu).1 =
      (wordsFrom cpu n cpu.pc).map Prod.snd ++ List.replicate m 0 := by
  obtain ⟨hcalls, hlast, hprogram⟩ := fetchInstructions_of_room hcount hroom m
  have hend : running (fetchInstructions n cpu).2 = false := by
    have htop := cpu.instructionCount.toUInt32.toNat_lt
    rw [running, (sameProgram_machineAt cpu k).count, hpc, decide_eq_false_iff_not,
      UInt32.lt_iff_toNat_lt, UInt32.toNat_add, UInt32.toNat_ofNat'] at hhalt
    rw [running, hprogram.count, decide_eq_false_iff_not, UInt32.lt_iff_toNat_lt, hlast]
    omega
  rw [hcalls, fetchInstructions_of_halted hend]

/-- In a run of at most 1024 instructions that takes no branch, `fetch_instruction` delivers the
words that the pipeline fetches, in the same order, and when the run has ended it delivers zeros. -/
theorem fetch_paths_agree (hcount : cpu.instructionCount.toUInt32.toNat ≤ 1024)
    (hfree : ∀ i, running (machineAt cpu i).cpu = true → takenAt cpu i = false) (n : ℕ) :
    let words := (fetchedLines (simulateOutput n cpu none)).map Prod.snd
    words = (fetchInstructions words.length cpu).1 ∧
    ((simulate n cpu none).hasWork = false → ∀ m,
      (fetchInstructions (words.length + m) cpu).1 = words ++ List.replicate m 0) := by
  intro words
  obtain ⟨j, hlogged⟩ := logged_simulate cpu n
  have hwords : words = (simulate n cpu none).trace.fetched.map Prod.snd := by
    show (fetchedLines _).map _ = _
    rw [fetchedLines_simulate]
  cases hrun : running cpu with
  | false =>
    have hnothing : ∀ k, fetchLog cpu k = [] := fun k => by
      rw [fetchLog_of_halted (k := 0) hrun (Nat.zero_le k)]
      rfl
    have hempty : words = [] := by
      have hprefix := hlogged.fetched_le
      rw [hnothing] at hprefix
      rw [hwords, List.prefix_nil.mp hprefix, List.map_nil]
    rw [hempty]
    refine ⟨rfl, fun _ m => ?_⟩
    rw [List.length_nil, Nat.zero_add, List.nil_append, fetchInstructions_of_halted hrun]
  | true =>
    rw [hwords, List.length_map]
    constructor
    · obtain ⟨l, hlog, -, hroom, -⟩ := fetchLog_of_no_branch hfree (j + 2)
      have hprefix := hlogged.fetched_le
      rw [hlog] at hprefix
      exact (fetchInstructions_of_beginning hcount (hroom hrun) hprefix).symm
    · intro hdone m
      obtain ⟨hfetched, hhalt⟩ := hlogged.fetched_of_no_work hdone
      obtain ⟨l, hlog, hpc, hroom, -⟩ := fetchLog_of_no_branch hfree j
      rw [hfetched, hlog, length_wordsFrom]
      exact fetchInstructions_of_end hcount (hroom hrun) hpc hhalt m

theorem fetch_paths_agree_loadUseProgram :
    (fetchedLines (simulateOutput 100 loadUseProgram none)).map Prod.snd =
        [0xA0800400, 0x01042000] ∧
      (fetchInstructions (2 + 3) loadUseProgram).1 = [0xA0800400, 0x01042000, 0, 0, 0] := by
  have hfree : ∀ i, running (machineAt loadUseProgram i).cpu = true →
      takenAt loadUseProgram i = false := by
    intro i hrun
    match i with
    | 0 | 1 => decide
    | i + 2 =>
      have hhalt : running (machineAt loadUseProgram 2).cpu = false := by decide
      rw [machineAt_of_halted hhalt (Nat.le_add_left 2 i)] at hrun
      exact absurd (hrun.symm.trans hhalt) (by decide)
  have hwords : (fetchedLines (simulateOutput 100 loadUseProgram none)).map Prod.snd =
      [0xA0800400, 0x01042000] := by
    decide
  have hends := (fetch_paths_agree (by decide) hfree 100).2 (by decide) 3
  rw [hwords] at hends
  exact ⟨hwords, hends⟩

/-! ### Dumps of a part of memory -/

/-- The loop over 32-bit addresses visits the numbers from `start` up to `stop`. -/
lemma dumpLoop_eq (line : UInt32 → DumpMessage) (start stop : UInt32) :
    dumpLoop line start stop =
      (List.range' start.toNat (stop.toNat - start.toNat)).map fun a => line (UInt32.ofNat a) := by
  fun_induction dumpLoop line start stop with
  | case1 start h ih =>
    have hlt := UInt32.lt_iff_toNat_lt.mp h
    have hstop := stop.toNat_lt
    have hnext : (start + 1).toNat = start.toNat + 1 := by
      rw [UInt32.toNat_add]
      show (start.toNat + 1) % 4294967296 = _
      omega
    obtain ⟨n, hn⟩ := Nat.exists_eq_add_of_lt hlt
    have hlength : stop.toNat - start.toNat = n + 1 := by omega
    have hrest : stop.toNat - (start.toNat + 1) = n := by omega
    rw [ih, hnext, hlength, hrest, List.range'_succ, List.map_cons, UInt32.ofNat_toNat]
  | case2 start h =>
    have hle := Nat.le_of_not_lt fun hlt => h (UInt32.lt_iff_toNat_lt.mpr hlt)
    rw [Nat.sub_eq_zero_of_le hle]
    rfl

/-- A word of instruction memory is fetched as it is stored. -/
lemma instruction_word (cpu : CPU) {a : ℕ} (ha : a < 1024) :
    (cpu.memory (memoryIndex (UInt32.ofNat a).toInt32)).toUInt32 =
      memoryFetchInstruction cpu (UInt32.ofNat a) := by
  have haddress : (UInt32.ofNat a).toNat = a := by
    apply UInt32.toNat_ofNat_of_lt'
    show a < 4294967296
    omega
  obtain ⟨hinstruction, -⟩ := isInstructionAddress_toInt32 (a := UInt32.ofNat a) (by omega)
  rw [memoryFetchInstruction, hinstruction]
  rfl

/-- A word of data memory is read as it is stored. -/
lemma data_word (cpu : CPU) {a : ℕ} (hlow : 1024 ≤ a) (hhigh : a < 2048) :
    cpu.memory (memoryIndex (UInt32.ofNat a).toInt32) =
      (readMemory cpu (UInt32.ofNat a).toInt32).1 := by
  have haddress : (UInt32.ofNat a).toNat = a := by
    apply UInt32.toNat_ofNat_of_lt'
    show a < 4294967296
    omega
  have hdata := (isDataAddress_toInt32 (UInt32.ofNat a)).mpr (by omega)
  rw [readMemory, hdata]
  rfl

lemma dump_instructions_exact (cpu : CPU) (count : UInt32) :
    memoryDumpInstructions cpu count =
      .instructionWords (UInt32.ofNat (min count.toNat 1024)) ::
        (List.range (min count.toNat 1024)).map fun a =>
          .instructionWord (UInt32.ofNat a) (memoryFetchInstruction cpu (UInt32.ofNat a)) := by
  have hlimit : (if count > 1024 then 1024 else count).toNat = min count.toNat 1024 := by
    have h1024 : (1024 : UInt32).toNat = 1024 := rfl
    split_ifs with h
    · have hlt := UInt32.lt_iff_toNat_lt.mp h
      omega
    · have hle := Nat.le_of_not_lt fun hlt => h (UInt32.lt_iff_toNat_lt.mpr hlt)
      omega
  have hword : ∀ a ∈ List.range (min count.toNat 1024),
      DumpMessage.instructionWord (UInt32.ofNat a)
          (cpu.memory (memoryIndex (UInt32.ofNat a).toInt32)).toUInt32 =
        .instructionWord (UInt32.ofNat a) (memoryFetchInstruction cpu (UInt32.ofNat a)) :=
    fun a ha => by
      have hlt := List.mem_range.mp ha
      rw [instruction_word cpu (by omega)]
  simp only [memoryDumpInstructions]
  rw [dumpLoop_eq, hlimit, ← List.map_congr_left hword, ← hlimit, UInt32.ofNat_toNat,
    List.range_eq_range']
  rfl

lemma sub_one_eq_ofNat {a : UInt32} (h : 0 < a.toNat) : a - 1 = UInt32.ofNat (a.toNat - 1) := by
  have hone : (1 : UInt32) ≤ a := UInt32.le_iff_toNat_le.mpr h
  have hpred : (a - 1).toNat = a.toNat - 1 := UInt32.toNat_sub_of_le a 1 hone
  rw [← hpred, UInt32.ofNat_toNat]

/-- The end of a dump of data memory, which does not overflow. -/
lemma toNat_endAddress {startAddress : UInt32} (hstart : startAddress.toNat < 2048)
    (count : UInt32) :
    (if startAddress + count > 2048 ∨ startAddress + count < startAddress then 2048
      else startAddress + count).toNat = min (startAddress.toNat + count.toNat) 2048 := by
  have h2048 : (2048 : UInt32).toNat = 2048 := rfl
  have hcount := count.toNat_lt
  have hsum : (startAddress + count).toNat =
      (startAddress.toNat + count.toNat) % 4294967296 := UInt32.toNat_add ..
  simp only [gt_iff_lt, UInt32.lt_iff_toNat_lt, h2048, hsum]
  split_ifs with h
  · rw [h2048]
    omega
  · rw [hsum]
    omega

/-- From a start inside the segment the words up to its end are shown. -/
lemma dump_data_exact (cpu : CPU) {startAddress count : UInt32} (hcount : count ≠ 0)
    (hlow : 1024 ≤ startAddress.toNat) (hhigh : startAddress.toNat < 2048) :
    let stop := min (startAddress.toNat + count.toNat) 2048
    memoryDumpData cpu startAddress count =
      .dataWords startAddress (UInt32.ofNat (stop - 1)) ::
        (List.range' startAddress.toNat (stop - startAddress.toNat)).map fun a =>
          .dataWord (UInt32.ofNat a) (readMemory cpu (UInt32.ofNat a).toInt32).1 := by
  intro stop
  have hend := toNat_endAddress hhigh count
  have hpos : 0 < count.toNat := Nat.pos_of_ne_zero fun h => hcount (UInt32.toNat_inj.mp h)
  have hread : ∀ a ∈ List.range' startAddress.toNat (stop - startAddress.toNat),
      DumpMessage.dataWord (UInt32.ofNat a) (cpu.memory (memoryIndex (UInt32.ofNat a).toInt32)) =
        .dataWord (UInt32.ofNat a) (readMemory cpu (UInt32.ofNat a).toInt32).1 := by
    intro a ha
    obtain ⟨hfrom, hto⟩ := List.mem_range'_1.mp ha
    rw [data_word cpu (by omega) (by omega)]
  have hinside := (isDataAddress_toInt32 startAddress).mpr ⟨hlow, Nat.le_of_lt_succ hhigh⟩
  simp only [memoryDumpData]
  rw [if_neg hcount, hinside, dumpLoop_eq, hend, List.map_congr_left hread]
  rw [sub_one_eq_ofNat (by rw [hend]; omega), hend]
  rfl

/-- The dump of instruction memory shows what is fetched from its addresses, and the dump of data
memory what is read from the data addresses from its start on, as many as there are; the end of the
segment bounds both, whatever the 32-bit sum of start and count is. -/
theorem partial_dumps_exact (cpu : CPU) (startAddress count : UInt32) :
    memoryDumpInstructions cpu count =
      .instructionWords (UInt32.ofNat (min count.toNat 1024)) ::
        (List.range (min count.toNat 1024)).map (fun a =>
          .instructionWord (UInt32.ofNat a) (memoryFetchInstruction cpu (UInt32.ofNat a))) ∧
    memoryDumpData cpu startAddress count =
      if count = 0 then [.noDataWords]
      else if 1024 ≤ startAddress.toNat ∧ startAddress.toNat < 2048 then
        let stop := min (startAddress.toNat + count.toNat) 2048
        .dataWords startAddress (UInt32.ofNat (stop - 1)) ::
          (List.range' startAddress.toNat (stop - startAddress.toNat)).map fun a =>
            .dataWord (UInt32.ofNat a) (readMemory cpu (UInt32.ofNat a).toInt32).1
      else [.startOutside startAddress] := by
  refine ⟨dump_instructions_exact cpu count, ?_⟩
  by_cases hzero : count = 0
  · rw [memoryDumpData, if_pos hzero, if_pos hzero]
  · rw [if_neg hzero]
    by_cases hstart : 1024 ≤ startAddress.toNat ∧ startAddress.toNat < 2048
    · rw [if_pos hstart]
      exact dump_data_exact cpu hzero hstart.1 hstart.2
    · have hout : isDataAddress startAddress.toInt32 = false :=
        Bool.eq_false_iff.mpr fun h => hstart
          (((isDataAddress_toInt32 startAddress).mp h).imp_right Nat.lt_succ_of_le)
      rw [memoryDumpData, if_neg hzero, hout, if_neg hstart]
      rfl

end Fillet
