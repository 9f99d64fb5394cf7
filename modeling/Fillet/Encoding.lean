import Mathlib.Data.Nat.Bitwise
import Fillet.Library.BitField
import Fillet.Model.Pipeline

/-!
# The instruction word

The encoders of `opcodes.c` and the decoder of `pipeline_sim.c` are inverse to each other: as a
number a word is the sum of its fields, and decoding takes that sum apart.
-/

namespace Fillet

open BitField

/-! ### Words as sums -/

lemma Opcode.toNat_shifted (opcode : Opcode) : opcode.shifted.toNat = opcode.code * 2 ^ 28 := by
  have hcode := opcode.code_lt
  have hword : (UInt32.ofNat opcode.code).toNat = opcode.code := by
    rw [UInt32.toNat_ofNat', Nat.mod_eq_of_lt (by omega)]
  rw [Opcode.shifted, toNat_shiftLeft (k := 4)]
  · rw [hword]
    rfl
  · rw [hword]
    omega
  · decide
  · decide

/-- The part of a word that the R and the I format share. -/
lemma toNat_registers (opcode : Opcode) {r1 r2 : UInt32} (h1 : r1.toNat < 32) (h2 : r2.toNat < 32) :
    (opcode.shifted ||| (r1 <<< 23) ||| (r2 <<< 18)).toNat =
      opcode.code * 2 ^ 28 + r1.toNat * 2 ^ 23 + r2.toNat * 2 ^ 18 := by
  have hfirst : (opcode.shifted ||| (r1 <<< 23)).toNat =
      opcode.code * 2 ^ 28 + r1.toNat * 2 ^ 23 := by
    rw [toNat_or_shiftLeft (k := 5), opcode.toNat_shifted]
    · rfl
    · rw [opcode.toNat_shifted]
      exact Dvd.intro_left _ rfl
    · exact h1
    · decide
    · decide
  rw [toNat_or_shiftLeft (k := 5), hfirst]
  · rfl
  · rw [hfirst]
    show 2 ^ 23 ∣ _
    omega
  · exact h2
  · decide
  · decide

lemma toNat_encodeRType (opcode : Opcode) {r1 r2 r3 : UInt32} (shamt : UInt32)
    (h1 : r1.toNat < 32) (h2 : r2.toNat < 32) (h3 : r3.toNat < 32) :
    (encodeRType opcode r1 r2 r3 shamt).toNat =
      opcode.code * 2 ^ 28 + r1.toNat * 2 ^ 23 + r2.toNat * 2 ^ 18 + r3.toNat * 2 ^ 13 +
        shamt.toNat % 2 ^ 13 := by
  have hregisters := toNat_registers opcode h1 h2
  have hshamt : (shamt &&& 0x1FFF).toNat = shamt.toNat % 2 ^ 13 := toNat_and_mask shamt _ rfl
  have hthird : (opcode.shifted ||| (r1 <<< 23) ||| (r2 <<< 18) ||| (r3 <<< 13)).toNat =
      opcode.code * 2 ^ 28 + r1.toNat * 2 ^ 23 + r2.toNat * 2 ^ 18 + r3.toNat * 2 ^ 13 := by
    rw [toNat_or_shiftLeft (k := 5), hregisters]
    · rfl
    · rw [hregisters]
      show 2 ^ 18 ∣ _
      omega
    · exact h3
    · decide
    · decide
  rw [encodeRType, toNat_or_low (k := 13), hthird, hshamt]
  · rw [hthird]
    omega
  · rw [hshamt]
    exact Nat.mod_lt _ (by decide)

lemma toNat_encodeIType (opcode : Opcode) {r1 r2 : UInt32} (immediate : Int32)
    (h1 : r1.toNat < 32) (h2 : r2.toNat < 32) :
    (encodeIType opcode r1 r2 immediate).toNat =
      opcode.code * 2 ^ 28 + r1.toNat * 2 ^ 23 + r2.toNat * 2 ^ 18 +
        immediate.toUInt32.toNat % 2 ^ 18 := by
  have hregisters := toNat_registers opcode h1 h2
  have himmediate : (immediate.toUInt32 &&& 0x3FFFF).toNat = immediate.toUInt32.toNat % 2 ^ 18 :=
    toNat_and_mask _ _ rfl
  rw [encodeIType, toNat_or_low (k := 18), hregisters, himmediate]
  · rw [hregisters]
    omega
  · rw [himmediate]
    exact Nat.mod_lt _ (by decide)

lemma toNat_encodeJType (opcode : Opcode) (address : UInt32) :
    (encodeJType opcode address).toNat = opcode.code * 2 ^ 28 + address.toNat % 2 ^ 28 := by
  have haddress : (address &&& 0x0FFFFFFF).toNat = address.toNat % 2 ^ 28 :=
    toNat_and_mask _ _ rfl
  rw [encodeJType, toNat_or_low (k := 28), opcode.toNat_shifted, haddress]
  · rw [opcode.toNat_shifted]
    exact Dvd.intro_left _ rfl
  · rw [haddress]
    exact Nat.mod_lt _ (by decide)

/-! ### What the decoder reads -/

lemma code_rawOpcode (raw : UInt32) : (rawOpcode raw).code = raw.toNat / 2 ^ 28 := by
  have hfield : ((raw >>> 28) &&& 0xF).toNat = raw.toNat / 2 ^ 28 % 2 ^ 4 :=
    toNat_field raw 28 0xF (by decide) rfl
  have hlt := raw.toNat_lt
  rw [rawOpcode, Opcode.code_ofCode (by omega), hfield]
  omega

/-- The opcode is determined by its code. -/
lemma rawOpcode_eq {raw : UInt32} {opcode : Opcode} (h : raw.toNat / 2 ^ 28 = opcode.code) :
    rawOpcode raw = opcode := by
  rw [← code_rawOpcode] at h
  rw [← Opcode.ofCode_code (rawOpcode raw), h, Opcode.ofCode_code]

/-- Bit 17 of an 18-bit field is its sign. -/
lemma and_signBit_ne_zero (w : UInt32) (hw : w.toNat < 2 ^ 18) :
    w &&& 0x20000 ≠ 0 ↔ 2 ^ 17 ≤ w.toNat := by
  have hbit : (w &&& 0x20000).toNat = (w.toNat / 2 ^ 17 % 2) * 2 ^ 17 := by
    rw [UInt32.toNat_and]
    show w.toNat &&& 2 ^ 17 = _
    rw [Nat.and_two_pow, Nat.testBit_eq_decide_div_mod_eq]
    rcases Nat.mod_two_eq_zero_or_one (w.toNat / 2 ^ 17) with h | h <;> rw [h] <;> rfl
  rw [← UInt32.toNat_inj.ne, hbit]
  show _ ≠ 0 ↔ _
  omega

lemma toInt_signExtend (raw : UInt32) :
    (signExtend (raw &&& 0x3FFFF) 18).toInt =
      if raw.toNat % 2 ^ 18 < 2 ^ 17 then ((raw.toNat % 2 ^ 18 : ℕ) : Int)
      else ((raw.toNat % 2 ^ 18 : ℕ) : Int) - 2 ^ 18 := by
  have hfield : (raw &&& 0x3FFFF &&& 0x3FFFF).toNat = raw.toNat % 2 ^ 18 := by
    rw [toNat_and_mask _ _ rfl (k := 18), toNat_and_mask _ _ rfl (k := 18), Nat.mod_mod]
  have hlt : (raw &&& 0x3FFFF &&& 0x3FFFF).toNat < 2 ^ 18 := by
    rw [hfield]
    exact Nat.mod_lt _ (by decide)
  have hsign := and_signBit_ne_zero _ hlt
  have hextended : (raw &&& 0x3FFFF &&& 0x3FFFF ||| ~~~0x3FFFF).toNat =
      2 ^ 32 - 2 ^ 18 + raw.toNat % 2 ^ 18 := by
    rw [UInt32.or_comm, toNat_or_low (k := 18), hfield]
    · rfl
    · decide
    · exact hlt
  rw [hfield] at hsign
  show (if raw &&& 0x3FFFF &&& 0x3FFFF &&& 0x20000 ≠ 0 then
    (raw &&& 0x3FFFF &&& 0x3FFFF ||| ~~~0x3FFFF).toInt32
    else (raw &&& 0x3FFFF &&& 0x3FFFF).toInt32).toInt = _
  split_ifs with hnegative hsmall hsmall
  · exact absurd (hsign.mp hnegative) (by omega)
  · rw [toInt_toInt32, hextended]
    split_ifs <;> omega
  · rw [toInt_toInt32, hfield]
    split_ifs <;> omega
  · exact absurd (hsign.mpr (by omega)) hnegative

/-! ### The fields of a decoded word -/

variable {reg : PipelineRegister}

/-- The three register fields, where the format has them. -/
lemma toNat_registerFields (raw : UInt32) :
    ((raw >>> 23) &&& 0x1F).toNat = raw.toNat / 2 ^ 23 % 32 ∧
    ((raw >>> 18) &&& 0x1F).toNat = raw.toNat / 2 ^ 18 % 32 ∧
    ((raw >>> 13) &&& 0x1F).toNat = raw.toNat / 2 ^ 13 % 32 :=
  ⟨toNat_field (k := 5) raw 23 0x1F (by decide) rfl,
    toNat_field (k := 5) raw 18 0x1F (by decide) rfl,
    toNat_field (k := 5) raw 13 0x1F (by decide) rfl⟩

@[simp] lemma decodeRawInstruction_format (reg : PipelineRegister) :
    (decodeRawInstruction reg).format =
      opcodeInstructionFormat (rawOpcode reg.rawInstruction) := by
  simp only [decodeRawInstruction]
  split <;> rfl

lemma decode_r (reg : PipelineRegister)
    (h : opcodeInstructionFormat (rawOpcode reg.rawInstruction) = .r) :
    (decodeRawInstruction reg).r1 = (reg.rawInstruction.toNat / 2 ^ 23 % 32 : ℕ) ∧
    (decodeRawInstruction reg).r2 = (reg.rawInstruction.toNat / 2 ^ 18 % 32 : ℕ) ∧
    (decodeRawInstruction reg).r3 = (reg.rawInstruction.toNat / 2 ^ 13 % 32 : ℕ) ∧
    (decodeRawInstruction reg).shamt = (reg.rawInstruction.toNat % 2 ^ 13 : ℕ) := by
  obtain ⟨h1, h2, h3⟩ := toNat_registerFields reg.rawInstruction
  have hshamt : (reg.rawInstruction &&& 0x1FFF).toNat = reg.rawInstruction.toNat % 2 ^ 13 :=
    toNat_and_mask _ _ rfl
  simp only [decodeRawInstruction, h, h1, h2, h3, hshamt, and_self]

lemma decode_i (reg : PipelineRegister)
    (h : opcodeInstructionFormat (rawOpcode reg.rawInstruction) = .i) :
    (decodeRawInstruction reg).r1 = (reg.rawInstruction.toNat / 2 ^ 23 % 32 : ℕ) ∧
    (decodeRawInstruction reg).r2 =
      (if rawOpcode reg.rawInstruction = .movi then 0
      else (reg.rawInstruction.toNat / 2 ^ 18 % 32 : ℕ) : Int) ∧
    (decodeRawInstruction reg).immediate.toInt =
      if reg.rawInstruction.toNat % 2 ^ 18 < 2 ^ 17 then
        ((reg.rawInstruction.toNat % 2 ^ 18 : ℕ) : Int)
      else ((reg.rawInstruction.toNat % 2 ^ 18 : ℕ) : Int) - 2 ^ 18 := by
  obtain ⟨h1, h2, -⟩ := toNat_registerFields reg.rawInstruction
  rw [← toInt_signExtend]
  simp only [decodeRawInstruction, h, h1, h2, and_self]

lemma decode_j (h : opcodeInstructionFormat (rawOpcode reg.rawInstruction) = .j) :
    (decodeRawInstruction reg).address = (reg.rawInstruction &&& 0x0FFFFFFF).toInt32 := by
  simp only [decodeRawInstruction, h]

/-! ### Decoding an encoded word -/

/-- The word built by the encoder that belongs to the opcode. -/
def encodeFields (opcode : Opcode) (r1 r2 r3 shamt : UInt32) (immediate : Int32)
    (address : UInt32) : UInt32 :=
  match opcodeInstructionFormat opcode with
  | .r => encodeRType opcode r1 r2 r3 shamt
  | .i => encodeIType opcode r1 r2 immediate
  | .j => encodeJType opcode address
  | .invalid => 0

lemma rawOpcode_encodeRType (opcode : Opcode) {r1 r2 r3 : UInt32} (shamt : UInt32)
    (h1 : r1.toNat < 32) (h2 : r2.toNat < 32) (h3 : r3.toNat < 32) :
    rawOpcode (encodeRType opcode r1 r2 r3 shamt) = opcode := by
  apply rawOpcode_eq
  rw [toNat_encodeRType opcode shamt h1 h2 h3]
  omega

lemma rawOpcode_encodeIType (opcode : Opcode) {r1 r2 : UInt32} (immediate : Int32)
    (h1 : r1.toNat < 32) (h2 : r2.toNat < 32) :
    rawOpcode (encodeIType opcode r1 r2 immediate) = opcode := by
  apply rawOpcode_eq
  rw [toNat_encodeIType opcode immediate h1 h2]
  omega

lemma rawOpcode_encodeJType (opcode : Opcode) (address : UInt32) :
    rawOpcode (encodeJType opcode address) = opcode := by
  apply rawOpcode_eq
  rw [toNat_encodeJType]
  omega

/-- Decoding gives back what an R-format word was built from. -/
lemma decode_encodeRType (reg : PipelineRegister) {opcode : Opcode}
    (hformat : opcodeInstructionFormat opcode = .r)
    {r1 r2 r3 shamt : UInt32} (h1 : r1.toNat < 32) (h2 : r2.toNat < 32) (h3 : r3.toNat < 32)
    (hshamt : shamt.toNat < 2 ^ 13)
    (hraw : reg.rawInstruction = encodeRType opcode r1 r2 r3 shamt) :
    (decodeRawInstruction reg).r1 = r1.toNat ∧ (decodeRawInstruction reg).r2 = r2.toNat ∧
      (decodeRawInstruction reg).r3 = r3.toNat ∧
      (decodeRawInstruction reg).shamt = shamt.toNat := by
  have hopcode := rawOpcode_encodeRType opcode shamt h1 h2 h3
  have hword := toNat_encodeRType opcode shamt h1 h2 h3
  have hcode := opcode.code_lt
  rw [← hraw] at hopcode hword
  obtain ⟨d1, d2, d3, d4⟩ := decode_r reg (by rw [hopcode, hformat])
  rw [d1, d2, d3, d4, hword]
  omega

/-- Decoding gives back what an I-format word was built from. -/
lemma decode_encodeIType (reg : PipelineRegister) {opcode : Opcode}
    (hformat : opcodeInstructionFormat opcode = .i)
    {r1 r2 : UInt32} {immediate : Int32} (h1 : r1.toNat < 32) (h2 : r2.toNat < 32)
    (himmediate : -131072 ≤ immediate.toInt ∧ immediate.toInt ≤ 131071)
    (hraw : reg.rawInstruction = encodeIType opcode r1 r2 immediate) :
    (decodeRawInstruction reg).r1 = r1.toNat ∧
      (decodeRawInstruction reg).r2 = (if opcode = .movi then 0 else r2.toNat : Int) ∧
      (decodeRawInstruction reg).immediate = immediate := by
  have hopcode := rawOpcode_encodeIType opcode immediate h1 h2
  have hword := toNat_encodeIType opcode immediate h1 h2
  have hcode := opcode.code_lt
  have hsigned := toNat_toUInt32 immediate
  rw [← hraw] at hopcode hword
  obtain ⟨d1, d2, d3⟩ := decode_i reg (by rw [hopcode, hformat])
  rw [hopcode] at d2
  refine ⟨?_, ?_, ?_⟩
  · rw [d1, hword]
    omega
  · rw [d2, hword]
    split_ifs
    · rfl
    · omega
  · rw [← Int32.toInt_inj, d3, hword]
    split_ifs <;> omega

/-- Decoding gives back the address a J-format word was built from. -/
lemma decode_encodeJType (reg : PipelineRegister) {opcode : Opcode}
    (hformat : opcodeInstructionFormat opcode = .j)
    {address : UInt32} (haddress : address.toNat < 2 ^ 28)
    (hraw : reg.rawInstruction = encodeJType opcode address) :
    (decodeRawInstruction reg).address = address.toInt32 := by
  have hopcode := rawOpcode_encodeJType opcode address
  have hword := toNat_encodeJType opcode address
  rw [← hraw] at hopcode hword
  have hfield : reg.rawInstruction &&& 0x0FFFFFFF = address := by
    rw [← UInt32.toNat_inj, toNat_and_mask (k := 28) _ _ rfl, hword]
    omega
  rw [decode_j (by rw [hopcode, hformat]), hfield]

/-! ### Encoding a decoded word -/

/-- The word built from the fields of a decoded register. -/
def reencode (reg : PipelineRegister) : UInt32 :=
  encodeFields reg.opcode (UInt32.ofNat reg.r1.toNat) (UInt32.ofNat reg.r2.toNat)
    (UInt32.ofNat reg.r3.toNat) (UInt32.ofNat reg.shamt.toNat) reg.immediate reg.address.toUInt32

/-- A word as its MOVI decoder sees it: bits 22 to 18 cleared. -/
def clearR2 (raw : UInt32) : UInt32 :=
  raw &&& 0xFF83FFFF

lemma toNat_clearR2 (raw : UInt32) :
    (clearR2 raw).toNat = raw.toNat / 2 ^ 23 * 2 ^ 23 + raw.toNat % 2 ^ 18 := by
  have hlt := raw.toNat_lt
  have hlow : raw.toNat % 2 ^ 18 < 2 ^ 23 :=
    (Nat.mod_lt _ (Nat.two_pow_pos 18)).trans (by decide)
  have hmask : (0xFF83FFFF : ℕ) = (2 ^ 9 - 1) <<< 23 ||| (2 ^ 18 - 1) := by decide
  rw [← Nat.shiftLeft_eq, Nat.shiftLeft_add_eq_or_of_lt hlow, clearR2, UInt32.toNat_and]
  show raw.toNat &&& 0xFF83FFFF = _
  rw [hmask]
  apply Nat.eq_of_testBit_eq
  intro i
  have hhigh : 32 ≤ i → raw.toNat.testBit i = false := fun hi =>
    Nat.testBit_lt_two_pow (hlt.trans_le (Nat.pow_le_pow_right (by decide) hi))
  simp only [Nat.testBit_and, Nat.testBit_or, Nat.testBit_shiftLeft, Nat.testBit_two_pow_sub_one,
    Nat.testBit_mod_two_pow, Nat.testBit_div_two_pow]
  by_cases h23 : 23 ≤ i
  · have hi : i - 23 + 23 = i := Nat.sub_add_cancel h23
    have h18 : ¬ i < 18 := by omega
    by_cases h32 : 32 ≤ i
    · simp [hi, h18, hhigh h32]
    · have h9 : i - 23 < 9 := by omega
      simp [h23, hi, h18, h9]
  · simp [h23, Bool.and_comm]

lemma toNat_ofNat_toNat {n : ℕ} (hn : n < 2 ^ 32) :
    (UInt32.ofNat (n : Int).toNat).toNat = n := by
  rw [Int.toNat_natCast, UInt32.toNat_ofNat', Nat.mod_eq_of_lt hn]

lemma reencode_r (h : opcodeInstructionFormat (rawOpcode reg.rawInstruction) = .r) :
    reencode (decodeRawInstruction reg) = reg.rawInstruction := by
  obtain ⟨d1, d2, d3, d4⟩ := decode_r _ h
  have hlt := reg.rawInstruction.toNat_lt
  have hcode := code_rawOpcode reg.rawInstruction
  have h1 := toNat_ofNat_toNat (n := reg.rawInstruction.toNat / 2 ^ 23 % 32) (by omega)
  have h2 := toNat_ofNat_toNat (n := reg.rawInstruction.toNat / 2 ^ 18 % 32) (by omega)
  have h3 := toNat_ofNat_toNat (n := reg.rawInstruction.toNat / 2 ^ 13 % 32) (by omega)
  have h4 := toNat_ofNat_toNat (n := reg.rawInstruction.toNat % 2 ^ 13) (by omega)
  rw [reencode, decodeRawInstruction_opcode, d1, d2, d3, d4, encodeFields, h]
  dsimp only
  rw [← UInt32.toNat_inj, toNat_encodeRType _ _ (by omega) (by omega) (by omega), h1, h2, h3, h4,
    hcode]
  omega

lemma reencode_i (h : opcodeInstructionFormat (rawOpcode reg.rawInstruction) = .i) :
    reencode (decodeRawInstruction reg) =
      if rawOpcode reg.rawInstruction = .movi then clearR2 reg.rawInstruction
      else reg.rawInstruction := by
  obtain ⟨d1, d2, d3⟩ := decode_i _ h
  have hlt := reg.rawInstruction.toNat_lt
  have hcode := code_rawOpcode reg.rawInstruction
  have h1 := toNat_ofNat_toNat (n := reg.rawInstruction.toNat / 2 ^ 23 % 32) (by omega)
  have h2 := toNat_ofNat_toNat (n := reg.rawInstruction.toNat / 2 ^ 18 % 32) (by omega)
  have himmediate : (decodeRawInstruction reg).immediate.toUInt32.toNat % 2 ^ 18 =
      reg.rawInstruction.toNat % 2 ^ 18 := by
    have hsigned := toNat_toUInt32 (decodeRawInstruction reg).immediate
    rw [d3] at hsigned
    split_ifs at hsigned <;> omega
  rw [reencode, decodeRawInstruction_opcode, d1, d2, encodeFields, h]
  dsimp only
  split_ifs
  · rw [← UInt32.toNat_inj, toNat_encodeIType _ _ (by omega) (by decide), h1, hcode, himmediate,
      toNat_clearR2]
    show _ + _ + 0 * 2 ^ 18 + _ = _
    omega
  · rw [← UInt32.toNat_inj, toNat_encodeIType _ _ (by omega) (by omega), h1, h2, hcode, himmediate]
    omega

lemma reencode_j (h : opcodeInstructionFormat (rawOpcode reg.rawInstruction) = .j) :
    reencode (decodeRawInstruction reg) = reg.rawInstruction := by
  have hcode := code_rawOpcode reg.rawInstruction
  have haddress : (reg.rawInstruction &&& 0x0FFFFFFF).toNat = reg.rawInstruction.toNat % 2 ^ 28 :=
    toNat_and_mask _ _ rfl
  rw [reencode, decodeRawInstruction_opcode, decode_j h, encodeFields, h]
  dsimp only
  rw [← UInt32.toNat_inj, toNat_encodeJType, UInt32.toUInt32_toInt32, haddress, hcode]
  omega

/-! ### The two directions together -/

/-- The fields of a register that its opcode's format uses. -/
def HasFields (reg : PipelineRegister) (r1 r2 r3 shamt : UInt32) (immediate : Int32)
    (address : UInt32) : Prop :=
  match opcodeInstructionFormat reg.opcode with
  | .r => reg.r1 = r1.toNat ∧ reg.r2 = r2.toNat ∧ reg.r3 = r3.toNat ∧ reg.shamt = shamt.toNat
  | .i =>
    reg.r1 = r1.toNat ∧ reg.r2 = (if reg.opcode = .movi then 0 else r2.toNat : Int) ∧
      reg.immediate = immediate
  | .j => reg.address = address.toInt32
  | .invalid => False

lemma rawOpcode_encodeFields {opcode : Opcode} (hcode : opcode.code < 12) {r1 r2 r3 : UInt32}
    (h1 : r1.toNat < 32) (h2 : r2.toNat < 32) (h3 : r3.toNat < 32) (shamt : UInt32)
    (immediate : Int32) (address : UInt32) :
    rawOpcode (encodeFields opcode r1 r2 r3 shamt immediate address) = opcode := by
  have hvalid := (opcodeInstructionFormat_eq_invalid_iff opcode).not.mpr (not_le.mpr hcode)
  cases hformat : opcodeInstructionFormat opcode with
  | invalid => exact absurd hformat hvalid
  | r => simp only [encodeFields, hformat, rawOpcode_encodeRType opcode shamt h1 h2 h3]
  | i => simp only [encodeFields, hformat, rawOpcode_encodeIType opcode immediate h1 h2]
  | j => simp only [encodeFields, hformat, rawOpcode_encodeJType]

lemma decode_encodeFields {opcode : Opcode} (hcode : opcode.code < 12)
    {r1 r2 r3 shamt address : UInt32} {immediate : Int32} (h1 : r1.toNat < 32)
    (h2 : r2.toNat < 32) (h3 : r3.toNat < 32) (hshamt : shamt.toNat < 2 ^ 13)
    (himmediate : -131072 ≤ immediate.toInt ∧ immediate.toInt ≤ 131071)
    (haddress : address.toNat < 2 ^ 28)
    (hraw : reg.rawInstruction = encodeFields opcode r1 r2 r3 shamt immediate address) :
    HasFields (decodeRawInstruction reg) r1 r2 r3 shamt immediate address := by
  have hvalid := (opcodeInstructionFormat_eq_invalid_iff opcode).not.mpr (not_le.mpr hcode)
  have hopcode : (decodeRawInstruction reg).opcode = opcode := by
    rw [decodeRawInstruction_opcode, hraw,
      rawOpcode_encodeFields hcode h1 h2 h3 shamt immediate address]
  rw [HasFields, hopcode]
  cases hformat : opcodeInstructionFormat opcode with
  | invalid => exact absurd hformat hvalid
  | r => exact decode_encodeRType _ hformat h1 h2 h3 hshamt (by rw [hraw, encodeFields, hformat])
  | i => exact decode_encodeIType _ hformat h1 h2 himmediate (by rw [hraw, encodeFields, hformat])
  | j => exact decode_encodeJType _ hformat haddress (by rw [hraw, encodeFields, hformat])

/-- Encoding the fields of a decoded word gives the word back, up to the field that MOVI ignores. -/
lemma reencode_decode (hvalid : (decodeRawInstruction reg).valid = true) :
    reencode (decodeRawInstruction reg) =
      if (decodeRawInstruction reg).opcode = .movi then clearR2 reg.rawInstruction
      else reg.rawInstruction := by
  rw [decodeRawInstruction_valid, Bool.and_eq_true, decide_eq_true_iff] at hvalid
  have hformat := (opcodeInstructionFormat_eq_invalid_iff _).not.mpr (not_le.mpr hvalid.2)
  have hmovi : opcodeInstructionFormat (rawOpcode reg.rawInstruction) ≠ .i →
      rawOpcode reg.rawInstruction ≠ .movi := by
    intro hne heq
    exact hne (by rw [heq]; rfl)
  rw [decodeRawInstruction_opcode]
  cases h : opcodeInstructionFormat (rawOpcode reg.rawInstruction) with
  | invalid => exact absurd h hformat
  | r => rw [reencode_r h, if_neg (hmovi (by simp [h]))]
  | i => exact reencode_i h
  | j => rw [reencode_j h, if_neg (hmovi (by simp [h]))]

/-- Encoding and decoding are inverse over the whole instruction format. -/
theorem encode_decode_inverse (pc : UInt32) :
    (∀ (opcode : Opcode) (r1 r2 r3 shamt address : UInt32) (immediate : Int32),
      opcode.code < 12 → r1.toNat < 32 → r2.toNat < 32 → r3.toNat < 32 →
      shamt.toNat < 2 ^ 13 → address.toNat < 2 ^ 28 →
      -131072 ≤ immediate.toInt ∧ immediate.toInt ≤ 131071 →
      let word := encodeFields opcode r1 r2 r3 shamt immediate address
      let reg := decodeRawInstruction (fetchedRegister pc word)
      reg.valid = true ∧ reg.opcode = opcode ∧
        HasFields reg r1 r2 r3 shamt immediate address) ∧
    (∀ word : UInt32,
      let reg := decodeRawInstruction (fetchedRegister pc word)
      (reg.valid = false ↔ 12 ≤ (word >>> 28).toNat) ∧
        (reg.valid = true →
          reencode reg = if reg.opcode = .movi then clearR2 word else word)) := by
  constructor
  · intro opcode r1 r2 r3 shamt address immediate hcode h1 h2 h3 hshamt haddress himmediate
    have hopcode := rawOpcode_encodeFields hcode h1 h2 h3 shamt immediate address
    refine ⟨?_, ?_, decode_encodeFields hcode h1 h2 h3 hshamt himmediate haddress rfl⟩
    · rw [decodeRawInstruction_valid]
      simp only [fetchedRegister, hopcode, hcode, decide_true, Bool.and_true]
    · rw [decodeRawInstruction_opcode]
      exact hopcode
  · intro word
    have htop : (word >>> 28).toNat = (rawOpcode word).code := by
      rw [code_rawOpcode, toNat_shiftRight _ _ (by decide)]
      rfl
    refine ⟨?_, reencode_decode⟩
    rw [decodeRawInstruction_valid, htop]
    simp only [fetchedRegister, Bool.true_and]
    exact decide_eq_false_iff_not.trans not_lt

end Fillet
