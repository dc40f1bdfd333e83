import NameOutputs.Payment.Template

/-!
# Payments

A locking script that has one of five shapes is a payment of a kind that is known, and any other is
unknown. The shapes exclude each other, so it does not matter in which order they are tried.
-/

namespace NameOutputs

/-- What a locking script pays to. -/
inductive Payment
  /-- The script has none of the known shapes. -/
  | unknown (script : Script)
  /-- The holder of the key. -/
  | publicKey (key : Bytes)
  /-- The holder of the key with the hash. -/
  | keyHash (hash : Bytes)
  /-- Nobody. -/
  | burn
  /-- The holders of as many of the keys as are required. -/
  | multisig (required : Nat) (keys : List Bytes)
  /-- Whoever satisfies the script with the hash. -/
  | scriptHash (hash : Bytes)
deriving DecidableEq

namespace Payment

/-- The number of the kind of payment. -/
def code : Payment → Nat
  | unknown _ => 1
  | publicKey _ => 2
  | keyHash _ => 3
  | burn => 4
  | multisig .. => 5
  | scriptHash _ => 6

/-- The bytes of a hash of a key or of a script. -/
def hashLength : Nat := 20

/-- The most keys that a multisig payment has. -/
def maxKeys : Nat := 3

/-- The data beside the instruction at a position. -/
def dataAt? (script : Script) (position : Nat) : Option Bytes :=
  script[position]?.bind Instruction.data

/-- The hash beside the instruction at a position: data of the length of one. -/
def hashAt? (script : Script) (position : Nat) : Option Bytes :=
  (dataAt? script position).filter fun hash => hash.length = hashLength

/-- The number that an opcode pushes, for those of one to sixteen. -/
def smallNumber? (opcode : Int) : Option Nat :=
  if Opcode.one ≤ opcode ∧ opcode ≤ Opcode.sixteen then some (opcode - Opcode.one + 1).toNat
  else none

/-- The payment to the holder of a key with a hash. -/
def keyHash? (script : Script) : Option Payment :=
  if Template.keyHash.fits script then (hashAt? script 2).map keyHash else none

/-- The payment to the holder of a key. -/
def publicKey? (script : Script) : Option Payment :=
  if Template.publicKey.fits script then (dataAt? script 0).map publicKey else none

/-- The payment to whoever satisfies a script with a hash. -/
def scriptHash? (script : Script) : Option Payment :=
  if Template.scriptHash.fits script then (hashAt? script 1).map scriptHash else none

/-- The payment to nobody. -/
def burn? (script : Script) : Option Payment :=
  if Template.burn.fits script then some burn else none

/-- The payment to the holders of several keys: the number required, the keys, their number, and the
check of the signatures. A key whose instruction has no data is empty. -/
def multisig? : Script → Option Payment
  | [] => none
  | head :: rest =>
    -- The script ends in the number of keys and the check, and the keys stand before them.
    match rest.reverse with
    | check :: count :: reversedKeys => do
      let required ← smallNumber? head.opcode
      let number ← smallNumber? count.opcode
      if check.opcode = Opcode.checkMultisig ∧ required ≤ number ∧ number ≤ maxKeys ∧
          reversedKeys.length = number ∧ reversedKeys.all Instruction.pushesData then
        some (multisig required (reversedKeys.reverse.map fun i => i.data.getD []))
      else none
    | _ => none

/-- The payment of a script that has a known shape. -/
def known? (script : Script) : Option Payment :=
  (keyHash? script).or <| (publicKey? script).or <| (scriptHash? script).or <|
    (burn? script).or <| multisig? script

/-- The payment of a script. -/
def ofScript (script : Script) : Payment :=
  (known? script).getD (unknown script)

end Payment

end NameOutputs
