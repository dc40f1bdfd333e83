import NameOutputs.Script.Basic

/-!
# Templates

A template lists the opcodes of a script. An entry that is `Opcode.pushData4` stands for every
opcode that pushes the data beside it, since those are all alike; any other entry stands for itself.
-/

namespace NameOutputs

/-- The opcodes of a script, one entry for each. -/
abbrev Template := List Int

namespace Template

/-- Whether the entry stands for the opcode. -/
def admits (entry opcode : Int) : Bool :=
  entry = opcode || (entry = Opcode.pushData4 && opcode ≤ Opcode.pushData4)

/-- Whether the script has the opcodes of the template. -/
def fits : Template → Script → Bool
  | [], [] => true
  | entry :: template, i :: script => admits entry i.opcode && fits template script
  | _, _ => false

/-- A payment to whoever shows a key with the given hash. -/
def keyHash : Template :=
  [Opcode.dup, Opcode.hash160, Opcode.pushData4, Opcode.equalVerify, Opcode.checkSig]

/-- A payment to the holder of a key. -/
def publicKey : Template :=
  [Opcode.pushData4, Opcode.checkSig]

/-- A payment to whoever shows a script with the given hash, which twenty bytes hold. -/
def scriptHash : Template :=
  [Opcode.hash160, 20, Opcode.equal]

/-- A payment that nobody can spend. -/
def burn : Template :=
  [Opcode.ret]

end Template

end NameOutputs
