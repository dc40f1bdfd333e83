import NameOutputs.Operation.Fault
import NameOutputs.Script.Basic

/-!
# Name operations in scripts

A locking script that carries a name operation is laid out as the instruction that tells the
operation, its arguments, delimiters, and the payment that the delimiters make room for. The layout
of a script is found without regard to what the operation is; a script is accepted when its layout
has delimiters and a payment and the arguments suit the operation.
-/

namespace NameOutputs

/-- The four parts of a script that has any instruction. -/
structure Layout where
  /-- The instruction that tells the operation. -/
  head : Instruction
  /-- The longest run of arguments after it. -/
  arguments : Script
  /-- The longest run of delimiters after the arguments. -/
  delimiters : Script
  /-- All that follows the delimiters. -/
  payment : Script

namespace Layout

/-- The layout of a script with a first instruction. -/
def ofCons (head : Instruction) (rest : Script) : Layout where
  head
  arguments := rest.takeWhile Instruction.isArgument
  delimiters := (rest.dropWhile Instruction.isArgument).takeWhile Instruction.isDelimiter
  payment := (rest.dropWhile Instruction.isArgument).dropWhile Instruction.isDelimiter

/-- The script of the layout. -/
def script (layout : Layout) : Script :=
  layout.head :: (layout.arguments ++ layout.delimiters ++ layout.payment)

/-- Laying out a script loses nothing of it. -/
theorem script_ofCons (head : Instruction) (rest : Script) :
    (ofCons head rest).script = head :: rest := by
  simp only [script, ofCons, List.append_assoc, List.takeWhile_append_dropWhile]

/-- The texts of the arguments. -/
def readArguments (layout : Layout) (encoding : Encoding) : Except EncodingFault (List Text) :=
  layout.arguments.mapM fun i => encoding.read i.data

/-- Why a layout cannot be that of a name operation, whatever its arguments say. The position counts
the head as zero. -/
def misfit? (layout : Layout) : Option Rejection :=
  match layout.delimiters, layout.payment with
  -- With no delimiters, what comes after the arguments is what ended their run.
  | [], i :: _ => some (.opcodeOutOfRange i.opcode (layout.arguments.length + 1))
  | _, [] => some .noDelimiter
  | _ :: _, _ :: _ => none

end Layout

namespace Operation

/-- The operation of a script laid out. The arguments are read first, then the layout is judged, and
the operation last. -/
def ofLayout (encoding : Encoding) (layout : Layout) : Except Fault Operation := do
  let args ← (layout.readArguments encoding).mapError .encoding
  match layout.misfit? with
  | some cause => throw (.rejected cause)
  | none => (ofArgs layout.head.opcode args).mapError .rejected

/-- The name operation that a locking script carries. -/
def parse (encoding : Encoding) : Script → Except Fault Operation
  | [] => .error (.rejected .emptyScript)
  | head :: rest => ofLayout encoding (.ofCons head rest)

end Operation

end NameOutputs
