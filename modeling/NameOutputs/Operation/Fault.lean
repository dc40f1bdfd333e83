import NameOutputs.Operation.Basic
import NameOutputs.Text.Encoding
import NameOutputs.Text.Numeral

/-!
# What goes wrong with name operations

A script is *rejected* when it carries no name operation. An operation is *misused* when it is asked
for a part that its kind does not have, which is a mistake of the caller and not of the script.
-/

namespace NameOutputs

/-- Why a script carries no name operation. -/
inductive Rejection
  /-- The script has no instructions. -/
  | emptyScript
  /-- The instruction at this position is neither an argument nor a delimiter. -/
  | opcodeOutOfRange (opcode position : Int)
  /-- No delimiters stand between the arguments and a payment. -/
  | noDelimiter
  /-- The operation takes another number of arguments. -/
  | wrongArgCount (opcode count expected : Int)
  /-- The opcode is not that of a name operation. -/
  | unknownOp (opcode : Int)
deriving DecidableEq

/-- The wording that names no cause, with which that of every cause but one begins. -/
def Rejection.generalMessage : Text :=
  Text.ofString "pk script is not a valid name script"

/-- The wording of a rejection. -/
def Rejection.message : Rejection → Text
  | emptyScript =>
    Text.ofString "pk script contains no opcodes and thus cannot be a valid name script"
  | opcodeOutOfRange opcode position =>
    generalMessage ++ Text.ofString " because it contains an out-of-range opcode ("
      ++ Text.hexadecimal opcode ++ Text.ofString " at " ++ Text.decimal position
      ++ Text.ofString ")"
  | noDelimiter =>
    generalMessage ++ Text.ofString " because it does not contain a DROP/2DROP/NOP delimiter"
  | wrongArgCount _ count expected =>
    generalMessage ++ Text.ofString
        " because it does not have the correct number of arguments for the given op type (got "
      ++ Text.decimal count ++ Text.ofString ", expected " ++ Text.decimal expected
      ++ Text.ofString ")"
  | unknownOp opcode =>
    generalMessage ++ Text.ofString " because it has an unknown name op type ("
      ++ Text.hexadecimal opcode ++ Text.ofString ")"

/-- The wording of a request for a part that the operation does not have. -/
def Operation.Part.misuseMessage : Operation.Part → Text
  | name => Text.ofString "name requested from a non-update name script"
  | value => Text.ofString "value requested from a non-update name script"
  | salt => Text.ofString "salt requested from a non-firstupdate name script"
  | hash => Text.ofString "name hash requested from a non-new name script"

/-- Why something that concerns a name operation fails. -/
inductive Fault
  /-- The script or the arguments make no operation. -/
  | rejected (cause : Rejection)
  /-- The operation does not have the part. -/
  | misused (part : Operation.Part)
  /-- Data and text do not turn into each other. -/
  | encoding (fault : EncodingFault)
deriving DecidableEq

/-- The wording of a fault. -/
def Fault.message : Fault → Text
  | rejected cause => cause.message
  | misused part => part.misuseMessage
  | encoding fault => fault.message

namespace Operation

/-- A part of the operation, which the caller holds that its kind has. -/
def part (operation : Operation) (p : Part) : Except Fault Text :=
  match operation.part? p with
  | some t => .ok t
  | none => .error (.misused p)

/-- The operation of the opcode on the arguments. -/
def ofArgs (opcode : Int) (args : List Text) : Except Rejection Operation :=
  match Kind.ofOpcode? opcode, args with
  | none, _ => .error (.unknownOp opcode)
  | some .new, [hash] => .ok (.new hash)
  | some .firstUpdate, [name, salt, value] => .ok (.firstUpdate name salt value)
  | some .update, [name, value] => .ok (.update name value)
  | some kind, args => .error (.wrongArgCount opcode args.length kind.arity)

/-- An operation is made again from its opcode and its arguments. -/
theorem ofArgs_opcode_args (operation : Operation) :
    ofArgs operation.opcode operation.args = .ok operation := by
  cases operation <;> rfl

end Operation

end NameOutputs
