import NameOutputs.Descriptor

/-!
# Attributes of descriptors

What a descriptor can be asked for by name, and how it refuses to be changed.
-/

namespace NameOutputs

/-- What can be read from a descriptor. -/
inductive Attribute
  /-- The opcode. -/
  | opcode
  /-- The arguments. -/
  | args
  /-- Whether it gives a name a value. -/
  | isUpdate
  /-- A part of the operation. -/
  | part (part : Operation.Part)
  /-- The source. -/
  | source
deriving DecidableEq

/-- The attribute of a name. -/
def Attribute.ofName? : String → Option Attribute
  | "op" => some opcode
  | "args" => some args
  | "is_any_update" => some isUpdate
  | "name" => some (part .name)
  | "value" => some (part .value)
  | "salt" => some (part .salt)
  | "name_hash" => some (part .hash)
  | "script" => some source
  | _ => none

/-- Names that a descriptor knows besides those of its attributes. -/
def Attribute.otherNames : List String :=
  ["matches_commitment", "_op", "_script", "_args", "_encoding"]

/-- How a descriptor refuses to be changed. -/
inductive Refusal
  /-- The operation does not have the part. -/
  | misused (part : Operation.Part)
  /-- The descriptor knows the name, and cannot be changed. -/
  | readOnly (name : String)
  /-- The descriptor does not know the name. -/
  | noAttribute (name : String)
deriving DecidableEq

/-- The wording of a refusal. -/
def Refusal.message : Refusal → Text
  | misused part => part.misuseMessage
  | readOnly name => Text.ofString ("NameScript." ++ name ++ " is read-only")
  | noAttribute name => Text.ofString ("'NameScript' object has no attribute '" ++ name ++ "'")

/-- The refusal to change what stands under a name. It is read first, and a part that the operation
does not have fails there. -/
def Operation.refusal (operation : Operation) (name : String) : Refusal :=
  match Attribute.ofName? name with
  | some (.part p) => if (operation.part? p).isSome then .readOnly name else .misused p
  | some _ => .readOnly name
  | none => if name ∈ Attribute.otherNames then .readOnly name else .noAttribute name

end NameOutputs
