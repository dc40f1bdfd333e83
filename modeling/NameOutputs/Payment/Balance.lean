import NameOutputs.Payment.Basic

/-!
# Payments behind name operations

What a name operation pushes is taken from the stack again before the payment begins. The payment is
found by keeping the balance: instructions push an item or drop some, and the first that does
neither belongs to the payment, which begins after the last drop before it. A drop of more items
than were pushed spoils the script, and a script of nothing but pushes and drops holds no payment.
-/

namespace NameOutputs

/-- What an instruction does to the balance. -/
inductive StackEffect
  /-- Pushes one item. -/
  | push
  /-- Takes away some items, which may be none. -/
  | drop (count : Nat)
  /-- Belongs to the payment. -/
  | other
deriving DecidableEq

/-- Whether the opcode pushes a number. -/
def Opcode.pushesNumber (opcode : Int) : Bool :=
  opcode = oneNegate || (one ≤ opcode && opcode ≤ sixteen)

/-- What the instruction does to the balance. -/
def Instruction.effect (i : Instruction) : StackEffect :=
  if i.pushesData || Opcode.pushesNumber i.opcode then .push
  else match i.dropCount? with
    | some count => .drop count
    | none => .other

namespace Payment

/-- Where the payment begins: `pushed` items are on the stack, and the payment begins at `start`
unless a drop follows. -/
def startFrom? (pushed : Nat) (start : Script) : Script → Option Script
  | [] => none
  | i :: rest =>
    match i.effect with
    | .push => startFrom? (pushed + 1) start rest
    -- What follows the latest drop is where the payment would begin.
    | .drop count => if pushed < count then none else startFrom? (pushed - count) rest rest
    | .other => some start

/-- The part of the script that is the payment. -/
def start? (script : Script) : Option Script :=
  startFrom? 0 script script

/-- The payment of a script that a name operation may stand in front of. -/
def ofOutput (script : Script) : Payment :=
  match start? script with
  | some payment => ofScript payment
  | none => unknown script

end Payment

end NameOutputs
