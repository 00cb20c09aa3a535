/-
The operation codes of protocol frames.
-/

namespace CqlDriver

inductive Opcode where
  | error
  | startup
  | ready
  | authenticate
  | options
  | supported
  | query
  | result
  | prepare
  | execute
  | register
  | event
  | batch
  | authChallenge
  | authResponse
  | authSuccess
  | unknown (code : UInt8)
  deriving DecidableEq, Repr, Inhabited

namespace Opcode

def table : List (UInt8 × Opcode × String) :=
  [(0x00, .error, "Error"), (0x01, .startup, "Startup"), (0x02, .ready, "Ready"),
   (0x03, .authenticate, "Authenticate"), (0x05, .options, "Options"),
   (0x06, .supported, "Supported"), (0x07, .query, "Query"), (0x08, .result, "Result"),
   (0x09, .prepare, "Prepare"), (0x0A, .execute, "Execute"), (0x0B, .register, "Register"),
   (0x0C, .event, "Event"), (0x0D, .batch, "Batch"), (0x0E, .authChallenge, "AuthChallenge"),
   (0x0F, .authResponse, "AuthResponse"), (0x10, .authSuccess, "AuthSuccess")]

def ofCode (code : UInt8) : Opcode :=
  match code with
  | 0x00 => .error
  | 0x01 => .startup
  | 0x02 => .ready
  | 0x03 => .authenticate
  | 0x05 => .options
  | 0x06 => .supported
  | 0x07 => .query
  | 0x08 => .result
  | 0x09 => .prepare
  | 0x0A => .execute
  | 0x0B => .register
  | 0x0C => .event
  | 0x0D => .batch
  | 0x0E => .authChallenge
  | 0x0F => .authResponse
  | 0x10 => .authSuccess
  | other => .unknown other

def code : Opcode → UInt8
  | .error => 0x00
  | .startup => 0x01
  | .ready => 0x02
  | .authenticate => 0x03
  | .options => 0x05
  | .supported => 0x06
  | .query => 0x07
  | .result => 0x08
  | .prepare => 0x09
  | .execute => 0x0A
  | .register => 0x0B
  | .event => 0x0C
  | .batch => 0x0D
  | .authChallenge => 0x0E
  | .authResponse => 0x0F
  | .authSuccess => 0x10
  | .unknown code => code

def isKnown : Opcode → Bool
  | .unknown _ => false
  | _ => true

def name (opcode : Opcode) : String :=
  match opcode with
  | .unknown code => s!"Unknown({code.toNat})"
  | known =>
      match table.find? fun entry => entry.2.1 == known with
      | some entry => entry.2.2
      | none => ""

theorem code_ofCode (value : UInt8) : (ofCode value).code = value := by
  unfold ofCode
  split <;> rfl

/-- An unknown operation may hold any code, also one that has a meaning; every other
operation is the one that its code stands for. -/
theorem ofCode_code {opcode : Opcode} (known : opcode.isKnown = true) :
    ofCode opcode.code = opcode := by
  cases opcode with
  | unknown code => cases known
  | _ => rfl

end Opcode

end CqlDriver
