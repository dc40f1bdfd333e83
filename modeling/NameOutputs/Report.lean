import NameOutputs.Operation.Fault

/-!
# Reports

A report is a failure as it is raised: its cause, and for some causes a wording that whoever raises
it may give in place of the usual one. An empty wording is none where there is a usual one.
-/

namespace NameOutputs

/-- A failure as it is raised. -/
inductive Report
  /-- The script carries no name operation, for no cause that is named. -/
  | invalid (wording : Option Text)
  /-- The script has no instructions. -/
  | emptyScript (wording : Option Text)
  /-- No delimiters stand between the arguments and a payment. -/
  | noDelimiter (wording : Option Text)
  /-- An instruction is neither an argument nor a delimiter. -/
  | opcodeOutOfRange (opcode position : Int)
  /-- The operation takes another number of arguments. -/
  | wrongArgCount (opcode count expected : Int)
  /-- The opcode is not that of a name operation. -/
  | unknownOp (opcode : Int)
  /-- An operation was asked for a part that it does not have. -/
  | misuse (wording : Text)
  /-- An enumeration was given a duplicate. -/
  | duplicate (wording : Text)

namespace Report

/-- The report of a rejection in its usual wording. -/
def ofRejection : Rejection → Report
  | .emptyScript => emptyScript none
  | .opcodeOutOfRange opcode position => opcodeOutOfRange opcode position
  | .noDelimiter => noDelimiter none
  | .wrongArgCount opcode count expected => wrongArgCount opcode count expected
  | .unknownOp opcode => unknownOp opcode

/-- The wording given, or the usual one where none or an empty one is given. -/
def wordingOr (usual : Text) : Option Text → Text
  | none | some [] => usual
  | some wording => wording

/-- The wording of a report. -/
def message : Report → Text
  | invalid wording => wordingOr Rejection.generalMessage wording
  | emptyScript wording => wordingOr Rejection.emptyScript.message wording
  | noDelimiter wording => wordingOr Rejection.noDelimiter.message wording
  | opcodeOutOfRange opcode position => (Rejection.opcodeOutOfRange opcode position).message
  | wrongArgCount opcode count expected => (Rejection.wrongArgCount opcode count expected).message
  | unknownOp opcode => (Rejection.unknownOp opcode).message
  | misuse wording | duplicate wording => wording

/-- Whether the report is about a script that carries no name operation. -/
def isRejection : Report → Bool
  | misuse _ | duplicate _ => false
  | _ => true

/-- Whether the report is about a mistake of the caller. -/
def isMisuse : Report → Bool
  | misuse _ => true
  | _ => false

/-- A rejection is reported in its own words. -/
theorem message_ofRejection (cause : Rejection) : (ofRejection cause).message = cause.message := by
  cases cause <;> rfl

end Report

end NameOutputs
