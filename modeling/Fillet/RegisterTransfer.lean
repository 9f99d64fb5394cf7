import Fillet.Library.BitField
import Fillet.Model.Memory

/-!
# Register transfers

`memory_load_to_register` and `memory_store_from_register` move a word between the data segment and
the register file of the global CPU. A load checks both of its arguments. A store leaves the check
of its register to `cpu_read_register`, which answers an unknown register with 0.
-/

namespace Fillet

open BitField

variable {cpu : CPU} {index : UInt8} {address : UInt32}

/-- An address from 2^31 on is negative after the cast and rejected with the rest. -/
lemma isDataAddress_toInt32 (address : UInt32) :
    isDataAddress address.toInt32 = true ↔ 1024 ≤ address.toNat ∧ address.toNat ≤ 2047 := by
  have hlt := address.toNat_lt
  rw [isDataAddress_iff, toInt_toInt32]
  split_ifs <;> omega

/-- What a load promises. The cell of R0, which is never read, is 0 after a load into R0. -/
structure LoadAtomic (cpu : CPU) (index : UInt8) (address : UInt32) : Prop where
  accepted : (memoryLoadToRegister cpu index address).1 = true ↔
    index.toNat < 32 ∧ 1024 ≤ address.toNat ∧ address.toNat ≤ 2047
  rejected : (memoryLoadToRegister cpu index address).1 = false →
    (memoryLoadToRegister cpu index address).2.registers = cpu.registers ∧
      (memoryLoadToRegister cpu index address).2.memory = cpu.memory
  named : (memoryLoadToRegister cpu index address).1 = true → ∀ r : Int,
    readRegister (memoryLoadToRegister cpu index address).2 r =
      if r = index.toNat ∧ r ≠ 0 then cpu.memory (memoryIndex address.toInt32)
      else readRegister cpu r
  cell : (memoryLoadToRegister cpu index address).1 = true →
    ∀ i : Fin registerCount, i.val = index.toNat →
      (memoryLoadToRegister cpu index address).2.registers i =
        if i.val = 0 then 0 else cpu.memory (memoryIndex address.toInt32)
  others : (memoryLoadToRegister cpu index address).1 = true →
    (∀ i : Fin registerCount, i.val ≠ index.toNat →
      (memoryLoadToRegister cpu index address).2.registers i = cpu.registers i) ∧
      (memoryLoadToRegister cpu index address).2.memory = cpu.memory

/-- What a store promises. -/
structure StoreAtomic (cpu : CPU) (index : UInt8) (address : UInt32) : Prop where
  accepted : (memoryStoreFromRegister cpu index address).1 = true ↔
    index.toNat < 32 ∧ 1024 ≤ address.toNat ∧ address.toNat ≤ 2047
  rejected : (memoryStoreFromRegister cpu index address).1 = false →
    (memoryStoreFromRegister cpu index address).2.registers = cpu.registers ∧
      (memoryStoreFromRegister cpu index address).2.memory = cpu.memory
  stored : (memoryStoreFromRegister cpu index address).1 = true →
    (memoryStoreFromRegister cpu index address).2.registers = cpu.registers ∧
      (memoryStoreFromRegister cpu index address).2.memory =
        Function.update cpu.memory (memoryIndex address.toInt32) (readRegister cpu index.toNat)

/-! ### Loads -/

/-- A load outside the data segment touches nothing. -/
lemma memoryLoadToRegister_of_not_data (cpu : CPU) (index : UInt8)
    (h : isDataAddress address.toInt32 = false) :
    memoryLoadToRegister cpu index address = (false, cpu) := by
  simp [memoryLoadToRegister, memoryReadData, h]

/-- A load into an unknown register only reads. -/
lemma memoryLoadToRegister_of_not_register (cpu : CPU)
    (h : isDataAddress address.toInt32 = true)
    (hindex : ¬ index.toNat < 32) :
    memoryLoadToRegister cpu index address = (false, (readMemory cpu address.toInt32).2) := by
  simp only [memoryLoadToRegister, memoryReadData, h, Bool.not_true, Bool.false_eq_true, if_false]
  rw [cpuWriteRegister, if_pos (Nat.not_lt.mp hindex)]

lemma memoryLoadToRegister_of_accepted (cpu : CPU)
    (h : isDataAddress address.toInt32 = true)
    (hindex : index.toNat < 32) :
    memoryLoadToRegister cpu index address =
      (true, writeRegister (readMemory cpu address.toInt32).2 index.toNat
        (cpu.memory (memoryIndex address.toInt32))) := by
  have hread : (readMemory cpu address.toInt32).1 = cpu.memory (memoryIndex address.toInt32) := by
    simp [readMemory, h]
  simp only [memoryLoadToRegister, memoryReadData, h, Bool.not_true, Bool.false_eq_true, if_false]
  rw [cpuWriteRegister, if_neg (Nat.not_le.mpr hindex), hread]

/-- A register write changes the cell of its register only. -/
lemma writeRegister_other (cpu : CPU) {r : Int} (hr : 0 ≤ r ∧ r < 32) (v : Int32)
    {i : Fin registerCount} (hi : (i.val : Int) ≠ r) :
    (writeRegister cpu r v).registers i = cpu.registers i := by
  have hne : i ≠ registerIndex r := by
    rintro rfl
    apply hi
    show ((r.toNat % 32 : ℕ) : Int) = r
    omega
  by_cases hzero : r = 0
  · subst hzero
    exact Function.update_of_ne hne ..
  · rw [writeRegister_of_range cpu v ⟨by omega, hr.2⟩]
    exact Function.update_of_ne hne ..

/-- The cell of the register itself; R0 is written as 0. -/
lemma writeRegister_cell (cpu : CPU) (i : Fin registerCount) (v : Int32) :
    (writeRegister cpu i.val v).registers i = if i.val = 0 then 0 else v := by
  have hlt : i.val < 32 := i.isLt
  split_ifs with hzero
  · obtain rfl : i = registerIndex 0 := Fin.ext hzero
    exact Function.update_self (registerIndex 0) 0 cpu.registers
  · have hindex : registerIndex i.val = i := by
      apply Fin.ext
      show ((i.val : Int).toNat % 32 : ℕ) = i.val
      omega
    rw [writeRegister_of_range cpu v (by omega), hindex]
    exact Function.update_self ..

lemma readRegister_writeRegister (cpu : CPU) {r : Int} (hr : 0 ≤ r ∧ r < 32) (v : Int32)
    (r' : Int) :
    readRegister (writeRegister cpu r v) r' =
      if r' = r ∧ r' ≠ 0 then v else readRegister cpu r' := by
  split_ifs with hsame
  · obtain ⟨rfl, hzero⟩ := hsame
    exact readRegister_writeRegister_self cpu v ⟨by omega, hr.2⟩
  · by_cases hzero : r' = 0
    · rw [hzero, readRegister_zero, readRegister_zero]
    · apply readRegister_writeRegister_ne
      intro heq
      exact hsame ⟨heq.symm, hzero⟩

lemma load_atomic (cpu : CPU) (index : UInt8) (address : UInt32) :
    LoadAtomic cpu index address := by
  have hiff := isDataAddress_toInt32 address
  by_cases hdata : isDataAddress address.toInt32 = true
  · by_cases hindex : index.toNat < 32
    · have hload := memoryLoadToRegister_of_accepted cpu hdata hindex
      have hrange : (0 : Int) ≤ index.toNat ∧ (index.toNat : Int) < 32 := by omega
      constructor
      case accepted => simp [hload, hindex, hiff.mp hdata]
      case rejected => simp [hload]
      case named =>
        intro _ r
        rw [hload, readRegister_writeRegister _ hrange,
          readRegister_congr (readMemory_registers cpu _)]
      case cell =>
        intro _ i hi
        rw [hload, ← hi, writeRegister_cell]
      case others =>
        intro _
        rw [hload]
        constructor
        · intro i hi
          rw [writeRegister_other _ hrange _ (Int.ofNat_inj.not.mpr hi), readMemory_registers]
        · simp
    · have hload := memoryLoadToRegister_of_not_register cpu hdata hindex
      constructor
      case accepted => simp [hload, hindex]
      case rejected => simp [hload]
      case named => simp [hload]
      case cell => simp [hload]
      case others => simp [hload]
  · have hload := memoryLoadToRegister_of_not_data cpu index (by simpa using hdata)
    rw [hiff] at hdata
    constructor
    case accepted =>
      rw [hload]
      exact ⟨fun h => Bool.noConfusion h, fun h => absurd h.2 hdata⟩
    case rejected => simp [hload]
    case named => simp [hload]
    case cell => simp [hload]
    case others => simp [hload]

/-! ### Stores -/

/-- A store does all that it promises unless its register is unknown and its address is not. -/
lemma storeAtomic_iff (cpu : CPU) (index : UInt8) (address : UInt32) :
    StoreAtomic cpu index address ↔
      (index.toNat < 32 ∨ ¬ (1024 ≤ address.toNat ∧ address.toNat ≤ 2047)) := by
  have hiff := isDataAddress_toInt32 address
  by_cases hdata : isDataAddress address.toInt32 = true
  · have hstore : memoryStoreFromRegister cpu index address =
        (true, writeMemory cpu address.toInt32 (readRegister cpu index.toNat)) := by
      simp [memoryStoreFromRegister, memoryWriteData, hdata, cpuReadRegister]
    have hrange := hiff.mp hdata
    constructor
    · intro h
      exact Or.inl (h.accepted.mp (by rw [hstore])).1
    · intro h
      have hindex : index.toNat < 32 := h.resolve_right (not_not.mpr hrange)
      constructor
      case accepted => simp [hstore, hindex, hrange]
      case rejected => simp [hstore]
      case stored =>
        intro _
        rw [hstore]
        refine ⟨writeMemory_registers cpu _ _, ?_⟩
        simp [writeMemory, hdata]
  · have hstore : memoryStoreFromRegister cpu index address = (false, cpu) := by
      simp [memoryStoreFromRegister, memoryWriteData, hdata]
    rw [hiff] at hdata
    simp only [hdata, not_false_eq_true, or_true, iff_true]
    constructor
    case accepted =>
      rw [hstore]
      exact ⟨fun h => Bool.noConfusion h, fun h => absurd h.2 hdata⟩
    case rejected => simp [hstore]
    case stored => simp [hstore]

/-- The wrappers fail atomically and transfer exactly one word, except that a store from an unknown
register to a data address succeeds. -/
theorem transfer_wrappers_atomic_iff (cpu : CPU) (index : UInt8) (address : UInt32) :
    LoadAtomic cpu index address ∧ StoreAtomic cpu index address ↔
      (index.toNat < 32 ∨ ¬ (1024 ≤ address.toNat ∧ address.toNat ≤ 2047)) := by
  rw [← storeAtomic_iff cpu]
  exact and_iff_right (load_atomic cpu index address)

/-- A store from R32 to address 1024 reports success. -/
theorem unknown_register_is_stored :
    ¬ (LoadAtomic cpuReset 32 1024 ∧ StoreAtomic cpuReset 32 1024) := by
  rintro ⟨-, h⟩
  have haccepted : (memoryStoreFromRegister cpuReset 32 1024).1 = true := by decide
  exact absurd (h.accepted.mp haccepted).1 (by decide)

end Fillet
