import NameOutputs.Opcode

/-!
# Scripts

A script is given decoded, as a list of instructions. An output is spent by two scripts together:
the unlocking script of the input and the locking script of the output. Only the locking script can
carry a name operation.
-/

namespace NameOutputs

/-- One instruction: an opcode, and the data that stand beside it if any do. -/
structure Instruction where
  /-- The opcode, an integer of any size. -/
  opcode : Int
  /-- The data. Empty data are data all the same. -/
  data : Option Bytes
deriving DecidableEq

namespace Instruction

/-- Whether the instruction only pushes the data beside it. -/
def pushesData (i : Instruction) : Bool :=
  i.opcode ≤ Opcode.pushData4

/-- Whether the instruction can push an argument of a name operation. -/
def isArgument (i : Instruction) : Bool :=
  0 ≤ i.opcode && i.opcode ≤ Opcode.pushData4

/-- The delimiters of name operations and the stack items that each takes away. -/
def delimiters : List (Int × Nat) :=
  [(Opcode.nop, 0), (Opcode.drop, 1), (Opcode.twoDrop, 2)]

/-- The stack items that a delimiter takes away. -/
def dropCount? (i : Instruction) : Option Nat :=
  delimiters.lookup i.opcode

/-- Whether the instruction is a delimiter. -/
def isDelimiter (i : Instruction) : Bool :=
  i.dropCount?.isSome

end Instruction

/-- A decoded script. -/
abbrev Script := List Instruction

/-- The two scripts that spend an output. -/
structure ScriptPair where
  /-- The script of the input. -/
  unlocking : Script := []
  /-- The script of the output. -/
  locking : Script := []
deriving DecidableEq

/-- The pair of a locking script on its own. -/
def ScriptPair.ofLocking (locking : Script) : ScriptPair :=
  { locking }

/-- A pair counts as many instructions as its locking script. -/
def ScriptPair.length (pair : ScriptPair) : Nat :=
  pair.locking.length

end NameOutputs
