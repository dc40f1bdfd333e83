import NameOutputs.Descriptor
import NameOutputs.Session.Store

/-!
# Sessions

A session holds script pairs and descriptors in named slots. A descriptor never changes; it refers
to its source pair by key, so a later change of the pair shows through it while its arguments stay.
-/

namespace NameOutputs

/-- What a slot holds. -/
inductive Value
  /-- A reference to a pair. -/
  | pair (key : Key)
  /-- A descriptor that refers to its source. -/
  | descriptor (descriptor : Descriptor Key)

/-- The key of a pair. -/
def Value.key? : Value → Option Key
  | pair key => some key
  | descriptor _ => none

/-- The descriptor that the value is. -/
def Value.descriptor? : Value → Option (Descriptor Key)
  | pair _ => none
  | descriptor d => some d

/-- What comparisons see of a value. -/
inductive Observed
  /-- Both scripts of a pair. -/
  | pair (pair : ScriptPair)
  /-- The operation of a descriptor, and neither its encoding nor its source. -/
  | operation (operation : Operation)
deriving DecidableEq

/-- Pairs, and the values in the slots. -/
structure Session where
  /-- The pairs. -/
  store : Store := {}
  /-- The value of each slot that has one. -/
  slots : String → Option Value := fun _ => none

namespace Session

/-- The session with another value in a slot. -/
def put (session : Session) (slot : String) (value : Value) : Session :=
  { session with slots := fun s => if s = slot then some value else session.slots s }

/-- The session with another pair, which no slot refers to. -/
def addPair (session : Session) (pair : ScriptPair) : Session :=
  { session with store := session.store.add pair }

/-- What comparisons see of a value. -/
def observe (session : Session) : Value → Observed
  | .pair key => .pair (session.store.read key)
  | .descriptor d => .operation d.operation

/-- A value as text. -/
def render (session : Session) : Value → Text
  | .pair key => (session.store.read key).render
  | .descriptor d => d.operation.render

end Session

end NameOutputs
