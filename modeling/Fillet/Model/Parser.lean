import Fillet.Library.CString
import Fillet.Library.Strtol
import Fillet.Model.Memory

/-!
# The assembler

`parser.c`. A nullable token is an `Option`, a check that prints and returns false is an error, and
`continue` ends the treatment of a buffer without a word. The file is the list of its characters.
-/

namespace Fillet

open CString

/-- The delimiters of every `strtok` of the parser. -/
def delimiter (c : Char) : Bool :=
  c = ' ' || c = '\t' || c = ',' || c = '\n'

/-- `LINE_BUFFER_SIZE` without the terminating NUL. -/
def lineCapacity : ℕ := 127

/-- The errors of the parser, with what their messages quote. -/
inductive ParserError where
  | expectedRegister (token : Option (List Char))
  | invalidRegister (token : List Char)
  | expectedImmediate
  | invalidImmediate (token : List Char)
  | immediateOutOfRange (opcodeName : List Char) (value : Int32)
  | shiftOutOfRange (opcodeName : List Char) (amount : Int32)
  | malformed (opcodeToken : List Char) (operands : ℕ)
  | unknownOpcode (opcodeToken : List Char)
  | negativeAddress (immediate : Int32)
  | unsupportedOpcode (opcode : Opcode)
  deriving DecidableEq

/-- The texts after `PARSER ERROR: `. -/
def ParserError.text : ParserError → List Char
  | .expectedRegister token =>
    "expected register token like R0 but got '".toList ++ token.getD "(null)".toList ++ ['\'']
  | .invalidRegister token =>
    "invalid register '".toList ++ token ++ "', use R0..R31".toList
  | .expectedImmediate => "expected immediate token but got null".toList
  | .invalidImmediate token => "invalid immediate '".toList ++ token ++ ['\'']
  | .immediateOutOfRange opcodeName value =>
    opcodeName ++ " immediate ".toList ++ decimal value.toInt ++
      " is outside 18-bit signed range [-131072..131071]".toList
  | .shiftOutOfRange opcodeName amount =>
    opcodeName ++ " shift amount ".toList ++ decimal amount.toInt ++
      " is outside allowed range [0..31]".toList
  | .malformed opcodeToken operands =>
    "malformed ".toList ++ opcodeToken ++ " instruction, expected exactly ".toList ++
      decimal operands ++ (if operands = 1 then " operand" else " operands").toList
  | .unknownOpcode opcodeToken => "unknown opcode '".toList ++ opcodeToken ++ ['\'']
  | .negativeAddress immediate =>
    "JMP address ".toList ++ decimal immediate.toInt ++ " must be non-negative".toList
  | .unsupportedOpcode opcode => "unsupported opcode ".toList ++ decimal opcode.code

/-! ### Operands -/

/-- `parse_register`. -/
def parseRegister (token : Option (List Char)) : Except ParserError UInt32 :=
  match token with
  | none => .error (.expectedRegister none)
  | some text =>
    if text.head? ≠ some 'R' then .error (.expectedRegister text)
    else
      match strtol text.tail 10 with
      | none => .error (.invalidRegister text)
      | some (reg, rest) =>
        if rest ≠ [] ∨ reg < 0 ∨ reg > 31 then .error (.invalidRegister text)
        else .ok (UInt32.ofNat reg.toNat)

/-- `parse_immediate`: the cast to `int32_t` keeps the low 32 bits of the `long`. -/
def parseImmediate (token : Option (List Char)) : Except ParserError Int32 :=
  match token with
  | none => .error .expectedImmediate
  | some text =>
    match strtol text 0 with
    | none => .error (.invalidImmediate text)
    | some (parsedValue, rest) =>
      if rest ≠ [] then .error (.invalidImmediate text)
      else .ok (Int32.ofInt parsedValue)

/-- `validate_i_type_immediate`. -/
def validateITypeImmediate (value : Int32) (opcodeName : List Char) : Except ParserError Unit :=
  if value.toInt < -131072 ∨ value.toInt > 131071 then
    .error (.immediateOutOfRange opcodeName value)
  else .ok ()

/-- `validate_shift_amount`. -/
def validateShiftAmount (amount : Int32) (opcodeName : List Char) : Except ParserError Unit :=
  if amount.toInt < 0 ∨ amount.toInt > 31 then .error (.shiftOutOfRange opcodeName amount)
  else .ok ()

section Arguments

variable (opcodeToken : List Char) (arg1 arg2 arg3 arg4 : Option (List Char))

/-- `ensure_exact_arg_count`. -/
def ensureExactArgCount : Except ParserError Unit :=
  if arg1.isNone || arg2.isNone || arg3.isNone || arg4.isSome then
    .error (.malformed opcodeToken 3)
  else .ok ()

/-- `ensure_two_operand_form`. -/
def ensureTwoOperandForm : Except ParserError Unit :=
  if arg1.isNone || arg2.isNone || arg3.isSome then .error (.malformed opcodeToken 2)
  else .ok ()

/-- `ensure_one_operand_form`. -/
def ensureOneOperandForm : Except ParserError Unit :=
  if arg1.isNone || arg2.isSome then .error (.malformed opcodeToken 1)
  else .ok ()

/-- The `switch` of `parse_assembly_file`: the checks of each opcode and the encoder call. -/
def encodeInstruction (opcode : Opcode) : Except ParserError UInt32 :=
  match opcode with
  | .add | .sub | .mul | .and => do
    ensureExactArgCount opcodeToken arg1 arg2 arg3 arg4
    let r1 ← parseRegister arg1
    let r2 ← parseRegister arg2
    let r3 ← parseRegister arg3
    return encodeRType opcode r1 r2 r3 0
  | .movr | .ori | .jeq | .movm => do
    ensureExactArgCount opcodeToken arg1 arg2 arg3 arg4
    let r1 ← parseRegister arg1
    let r2 ← parseRegister arg2
    let immediate ← parseImmediate arg3
    validateITypeImmediate immediate opcodeToken
    return encodeIType opcode r1 r2 immediate
  | .movi => do
    ensureTwoOperandForm opcodeToken arg1 arg2 arg3
    let r1 ← parseRegister arg1
    let immediate ← parseImmediate arg2
    validateITypeImmediate immediate opcodeToken
    return encodeIType opcode r1 0 immediate
  | .lsl | .lsr => do
    ensureExactArgCount opcodeToken arg1 arg2 arg3 arg4
    let r1 ← parseRegister arg1
    let r2 ← parseRegister arg2
    let amount ← parseImmediate arg3
    validateShiftAmount amount opcodeToken
    return encodeRType opcode r1 r2 0 amount.toUInt32
  | .jmp => do
    ensureOneOperandForm opcodeToken arg1 arg2
    let immediate ← parseImmediate arg1
    if immediate.toInt < 0 then .error (.negativeAddress immediate)
    else return encodeJType opcode immediate.toUInt32
  | .reserved _ => .error (.unsupportedOpcode opcode)

end Arguments

/-! ### Lines -/

/-- What one turn of the reading loop does with its buffer. -/
inductive LineOutcome where
  | skipped
  | rejected (error : ParserError)
  | assembled (encoded : UInt32)
  deriving DecidableEq

/-- The tokens of a line. -/
structure LineTokens where
  opcodeToken : List Char
  arg1 : Option (List Char)
  arg2 : Option (List Char)
  arg3 : Option (List Char)
  arg4 : Option (List Char)
  deriving DecidableEq

/-- The five calls of `strtok`; `none` when the first one finds nothing. -/
def tokenizeLine (cursor : List Char) : Option LineTokens :=
  match strtok delimiter cursor with
  | (none, _) => none
  | (some opcodeToken, rest) =>
    let (arg1, rest) := strtok delimiter rest
    let (arg2, rest) := strtok delimiter rest
    let (arg3, rest) := strtok delimiter rest
    let (arg4, _) := strtok delimiter rest
    some { opcodeToken, arg1, arg2, arg3, arg4 }

/-- The tokens of an instruction line; `none` for a blank line, a comment and a line of
delimiters. -/
def instructionTokens (line : List Char) : Option LineTokens :=
  let cursor := line.dropWhile isSpace
  if cursor = [] ∨ cursor.head? = some '\n' ∨ cursor.head? = some '#' ∨ cursor.head? = some ';' then
    none
  else tokenizeLine cursor

/-- The body of the reading loop up to the store. -/
def assembleLine (line : List Char) : LineOutcome :=
  match instructionTokens line with
  | none => .skipped
  | some tokens =>
    match opcodeFromString tokens.opcodeToken with
    | none => .rejected (.unknownOpcode tokens.opcodeToken)
    | some opcode =>
      match encodeInstruction tokens.opcodeToken tokens.arg1 tokens.arg2 tokens.arg3 tokens.arg4
          opcode with
      | .error error => .rejected error
      | .ok encoded => .assembled encoded

/-! ### Files -/

/-- What the parser prints. -/
inductive ParserMessage where
  | couldNotOpen (filepath : List Char)
  | error (e : ParserError)
  | reachedMaximum (instructionAddress : UInt32)
  deriving DecidableEq

def ParserMessage.text : ParserMessage → List Char
  | .couldNotOpen filepath => "PARSER ERROR: could not open ".toList ++ filepath ++ ['\n']
  | .error e => "PARSER ERROR: ".toList ++ e.text ++ ['\n']
  | .reachedMaximum instructionAddress =>
    "PARSER WARNING: reached maximum instruction memory at ".toList ++
      decimal instructionAddress.toNat ++ ['\n']

/-- The variables of the reading loop, and what it has printed. -/
structure AssemblyState where
  cpu : CPU
  instructionAddress : UInt32
  messages : List ParserMessage

/-- One message more. -/
def AssemblyState.print (state : AssemblyState) (message : ParserMessage) : AssemblyState :=
  { state with messages := state.messages ++ [message] }

/-- The store at the end of the loop body. -/
def AssemblyState.store (state : AssemblyState) (encoded : UInt32) : AssemblyState :=
  { state with
    cpu := memoryStoreInstruction state.cpu state.instructionAddress encoded
    instructionAddress := state.instructionAddress + 1 }

/-- The reading loop over the buffers that `fgets` delivers; it breaks when instruction memory is
full. -/
def assembleLines : List (List Char) → AssemblyState → AssemblyState
  | [], state => state
  | line :: rest, state =>
    match assembleLine line with
    | .skipped => assembleLines rest state
    | .rejected error => assembleLines rest (state.print (.error error))
    | .assembled encoded =>
      let state := state.store encoded
      if state.instructionAddress.toNat ≥ instructionMemorySize then
        state.print (.reachedMaximum state.instructionAddress)
      else assembleLines rest state

/-- `parse_assembly_file` on the global CPU: the CPU afterwards and the output. `content` is `none`
when the file cannot be opened. -/
def parseAssemblyFile (cpu : CPU) (filepath : List Char) (content : Option (List Char)) :
    CPU × List ParserMessage :=
  match content with
  | none => (cpu, [.couldNotOpen filepath])
  | some text =>
    let state := assembleLines (buffers lineCapacity text)
      { cpu := cpu, instructionAddress := 0, messages := [] }
    (state.cpu.setInstructionCount state.instructionAddress.toInt32, state.messages)

end Fillet
