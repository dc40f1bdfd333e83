import NameOutputs.Enumeration
import NameOutputs.Text.Quoted

/-!
# Name operations

An output may carry an operation on names. A new name is first committed to by a hash, then revealed
together with the salt that went into the hash, and its value may be updated from then on. An
operation is told by its opcode and holds as many arguments as its kind has parts.
-/

namespace NameOutputs

/-- The kinds of name operations. -/
inductive Operation.Kind
  /-- Commits to a name. -/
  | new
  /-- Reveals a name and gives it its first value. -/
  | firstUpdate
  /-- Gives a name another value. -/
  | update
deriving DecidableEq

namespace Operation.Kind

/-- The opcode of the kind. It is that of a small number, which the operation pushes. -/
def opcode : Kind → Int
  | new => 81
  | firstUpdate => 82
  | update => 83

/-- The number of arguments. -/
def arity : Kind → Nat
  | new => 1
  | firstUpdate => 3
  | update => 2

/-- What the kind is called. -/
def label : Kind → Text
  | new => Text.ofString "NAME_NEW"
  | firstUpdate => Text.ofString "NAME_FIRSTUPDATE"
  | update => Text.ofString "NAME_UPDATE"

/-- All kinds, by ascending opcode. -/
def all : List Kind := [new, firstUpdate, update]

/-- The kind of an opcode. -/
def ofOpcode? (opcode : Int) : Option Kind :=
  all.find? fun kind => kind.opcode = opcode

/-- The kinds and their opcodes as an enumeration. -/
def table : Enumeration where
  title := Text.ofString "NameOps"
  entries := all.map fun kind => (kind.label, kind.opcode)
  names_nodup := by decide
  values_nodup := by decide

/-- An opcode is of the kind that has it. -/
theorem ofOpcode?_eq_some_iff {opcode : Int} {kind : Kind} :
    ofOpcode? opcode = some kind ↔ kind.opcode = opcode := by
  constructor
  · intro h
    simpa using List.find?_some h
  · rintro rfl
    cases kind <;> rfl

/-- Kinds are told apart by their opcodes. -/
theorem opcode_injective {kind other : Kind} (h : kind.opcode = other.opcode) : kind = other := by
  have hkind : ofOpcode? other.opcode = some kind := ofOpcode?_eq_some_iff.mpr h
  have hother : ofOpcode? other.opcode = some other := ofOpcode?_eq_some_iff.mpr rfl
  exact Option.some.inj (hkind.symm.trans hother)

end Operation.Kind

/-- An operation on names, with its arguments as texts. -/
inductive Operation
  /-- Commits to a name by a hash. -/
  | new (hash : Text)
  /-- Reveals the name and the salt of a commitment and gives the name a value. -/
  | firstUpdate (name salt value : Text)
  /-- Gives the name a value. -/
  | update (name value : Text)
deriving DecidableEq

/-- What an operation may be asked for. -/
inductive Operation.Part
  /-- The name that is registered or updated. -/
  | name
  /-- The value that the name is given. -/
  | value
  /-- The salt that the commitment was made with. -/
  | salt
  /-- The hash that commits to a name. -/
  | hash
deriving DecidableEq

namespace Operation

/-- The kind of the operation. -/
def kind : Operation → Kind
  | new _ => .new
  | firstUpdate .. => .firstUpdate
  | update .. => .update

/-- The opcode of the operation. -/
def opcode (operation : Operation) : Int :=
  operation.kind.opcode

/-- The arguments in the order in which a script pushes them. -/
def args : Operation → List Text
  | new hash => [hash]
  | firstUpdate name salt value => [name, salt, value]
  | update name value => [name, value]

/-- Whether the operation gives a name a value. -/
def isUpdate : Operation → Bool
  | new _ => false
  | firstUpdate .. | update .. => true

/-- A part of the operation, if its kind has it. -/
def part? : Operation → Part → Option Text
  | new hash, .hash => some hash
  | firstUpdate name _ _, .name | update name _, .name => some name
  | firstUpdate _ salt _, .salt => some salt
  | firstUpdate _ _ value, .value | update _ value, .value => some value
  | _, _ => none

/-- The operation as text. -/
def render (operation : Operation) : Text :=
  Text.ofString "NameScript(" ++ operation.kind.label ++ Text.ofString ", "
    ++ Text.quotedList operation.args ++ Text.ofString ")"

/-- An operation has as many arguments as its kind. -/
@[simp] theorem length_args (operation : Operation) :
    operation.args.length = operation.kind.arity := by
  cases operation <;> rfl

/-- Opcode and arguments determine the operation. -/
theorem ext_args {a b : Operation} (hopcode : a.opcode = b.opcode) (hargs : a.args = b.args) :
    a = b := by
  cases a <;> cases b <;> simp_all [opcode, kind, Kind.opcode, args]

end Operation

end NameOutputs
