import NameOutputs.Script.Basic
import NameOutputs.Text.Numeral
import NameOutputs.Text.Quoted

/-!
# Scripts as text

A script is shown as its instructions with spaces between them. An instruction that pushes the data
beside it is shown as its opcode and those data, abbreviated; any other is shown by name.
-/

namespace NameOutputs

/-- An instruction as text. -/
def Instruction.render (i : Instruction) : Text :=
  match i.data with
  | some data =>
    if i.pushesData then Text.decimal i.opcode ++ Text.ofString ":" ++ Bytes.shortHex data
    else Opcode.shown i.opcode
  | none => Opcode.shown i.opcode

/-- A script as text. -/
def Script.render (script : Script) : Text :=
  (Text.ofString " ").intercalate (script.map Instruction.render)

/-- A pair as text, which shows the locking script. -/
def ScriptPair.render (pair : ScriptPair) : Text :=
  Text.ofString "Script(" ++ (Script.render pair.locking).quoted ++ Text.ofString ")"

end NameOutputs
