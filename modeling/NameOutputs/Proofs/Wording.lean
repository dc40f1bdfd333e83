import NameOutputs.Operation.Fault
import NameOutputs.Proofs.Text.Numeral

/-!
# Wordings tell the opcode

Two rejections show an opcode: that of an unknown operation, and that of an opcode out of range,
which shows its position as well. `message_tells_opcode` shows that the wording determines them:
whatever rejection is worded like one of these is that very rejection.

The wordings of different causes part at one code point (`turningPoint`). What is left to compare
are two wordings of one cause, in which the numerals stand between the same words. A hexadecimal
numeral has no space in it, so the space behind it tells where it ends and where the position
begins (`hexadecimal_at_decimal_inj`).
-/

namespace NameOutputs

namespace Text

/-- No space stands in a hexadecimal numeral. -/
theorem space_not_mem_hexadecimal (n : Int) : CodePoint.ofChar ' ' ∉ hexadecimal n := by
  intro h
  have hnot : ¬ ((CodePoint.ofChar ' ').IsDigit ∨ CodePoint.ofChar ' ' = .ofChar '-' ∨
      CodePoint.ofChar ' ' = .ofChar 'x') := by decide
  exact hnot (isDigit_of_mem_hexadecimal h)

/-- A hexadecimal numeral is told apart from a decimal one that follows. -/
theorem hexadecimal_at_decimal_inj {m n p q : Int} :
    hexadecimal m ++ ofString " at " ++ decimal p = hexadecimal n ++ ofString " at " ++ decimal q ↔
      m = n ∧ p = q := by
  constructor
  · intro h
    have hspace : ofString " at " = .ofChar ' ' :: ofString "at " := rfl
    rw [hspace, List.append_assoc, List.append_assoc, List.cons_append, List.cons_append] at h
    -- The first space is the one behind the hexadecimal numeral.
    obtain ⟨hopcode, hbehind⟩ :=
      append_cons_inj (space_not_mem_hexadecimal m) (space_not_mem_hexadecimal n) h
    exact ⟨hexadecimal_injective hopcode, decimal_injective (List.append_cancel_left hbehind)⟩
  · rintro ⟨rfl, rfl⟩
    rfl

end Text

namespace Rejection

/-- The code point at which the wordings of different causes part. -/
def turningPoint : Rejection → Char
  | emptyScript => ' '
  | opcodeOutOfRange .. => 'c'
  | noDelimiter | wrongArgCount .. => 'd'
  | unknownOp _ => 'h'

/-- It stands behind the general wording and ` because it `, which all begin with but one. -/
theorem getElem?_message (cause : Rejection) :
    cause.message[48]? = some (.ofChar cause.turningPoint) := by
  cases cause <;> rfl

/-- Rejections that are worded alike turn from the common wording at the same point. -/
theorem turningPoint_eq_of_message_eq {cause other : Rejection}
    (h : cause.message = other.message) : cause.turningPoint = other.turningPoint := by
  have hpoint : some (CodePoint.ofChar cause.turningPoint) = some (.ofChar other.turningPoint) := by
    rw [← getElem?_message, h, getElem?_message]
  exact CodePoint.ofChar_injective (Option.some.inj hpoint)

/-- Unknown operations are told apart by the wording. -/
theorem message_unknownOp_inj {a b : Int} :
    (unknownOp a).message = (unknownOp b).message ↔ a = b := by
  constructor
  · intro h
    unfold message at h
    exact Text.hexadecimal_injective (List.append_cancel_left (List.append_cancel_right h))
  · rintro rfl
    rfl

/-- Opcodes out of range are told apart by the wording, and so are their positions. -/
theorem message_opcodeOutOfRange_inj {a b p q : Int} :
    (opcodeOutOfRange a p).message = (opcodeOutOfRange b q).message ↔ a = b ∧ p = q := by
  constructor
  · intro h
    unfold message at h
    have hfront := List.append_cancel_right h
    simp only [List.append_assoc] at hfront
    -- Without the general wording and the cause, the numerals are left with ` at ` between them.
    have hnumerals := List.append_cancel_left (List.append_cancel_left hfront)
    rw [← List.append_assoc, ← List.append_assoc] at hnumerals
    exact Text.hexadecimal_at_decimal_inj.mp hnumerals
  · rintro ⟨rfl, rfl⟩
    rfl

/-- Only the rejection of an unknown operation is worded like one. -/
theorem message_eq_unknownOp_iff {cause : Rejection} {opcode : Int} :
    cause.message = (unknownOp opcode).message ↔ cause = unknownOp opcode := by
  constructor
  · intro h
    have hpoint : cause.turningPoint = 'h' := turningPoint_eq_of_message_eq h
    cases cause with
    | unknownOp other => rw [message_unknownOp_inj.mp h]
    | _ => simp [turningPoint] at hpoint
  · rintro rfl
    rfl

/-- Only the rejection of an opcode out of range is worded like one. -/
theorem message_eq_opcodeOutOfRange_iff {cause : Rejection} {opcode position : Int} :
    cause.message = (opcodeOutOfRange opcode position).message ↔
      cause = opcodeOutOfRange opcode position := by
  constructor
  · intro h
    have hpoint : cause.turningPoint = 'c' := turningPoint_eq_of_message_eq h
    cases cause with
    | opcodeOutOfRange other place =>
      obtain ⟨rfl, rfl⟩ := message_opcodeOutOfRange_inj.mp h
      rfl
    | _ => simp [turningPoint] at hpoint
  · rintro rfl
    rfl

/-- A rejection is worded like that of an unknown operation exactly if it is that of the same
opcode, and like that of an opcode out of range exactly if it is that of the same opcode at the same
position. The opcode is shown as the sign, the mark and the digits, with zeros before the digits up
to four code points in all. It is read back from that, differs from every other, and is told apart
from a decimal numeral, also from one that follows. -/
theorem message_tells_opcode :
    (∀ (cause : Rejection) (opcode : Int),
      cause.message = (unknownOp opcode).message ↔ cause = unknownOp opcode) ∧
    (∀ (cause : Rejection) (opcode position : Int),
      cause.message = (opcodeOutOfRange opcode position).message ↔
        cause = opcodeOutOfRange opcode position) ∧
    (∀ n : Int, Text.hexadecimal n =
      Text.sign n ++ Text.ofString "0x" ++
        List.replicate (4 - ((Text.sign n).length + 2 + (Text.digits 0x10 n.natAbs).length))
          (.ofChar '0') ++
        Text.digits 0x10 n.natAbs) ∧
    (∀ n : Int, Text.integerOf? (Text.hexadecimal n) = some n) ∧
    (∀ m n : Int, Text.hexadecimal m = Text.hexadecimal n ↔ m = n) ∧
    (∀ m n : Int, Text.hexadecimal m ≠ Text.decimal n) ∧
    ∀ m n p q : Int,
      Text.hexadecimal m ++ Text.ofString " at " ++ Text.decimal p =
          Text.hexadecimal n ++ Text.ofString " at " ++ Text.decimal q ↔
        m = n ∧ p = q :=
  ⟨fun _ _ => message_eq_unknownOp_iff, fun _ _ _ => message_eq_opcodeOutOfRange_iff,
    Text.hexadecimal_eq, Text.integerOf?_hexadecimal,
    fun _ _ => ⟨Text.hexadecimal_injective, congrArg _⟩, Text.hexadecimal_ne_decimal,
    fun _ _ _ _ => Text.hexadecimal_at_decimal_inj⟩

end Rejection

end NameOutputs
