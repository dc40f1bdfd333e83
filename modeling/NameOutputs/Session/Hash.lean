import NameOutputs.Session.Basic

/-!
# Sets of values

A set keeps each value once. It tells by their hashes which of its members are to be compared with a
value, and a member that has another hash is never compared. The hash of a value is made from what
the value is now, so a set is made anew whenever values are counted.
-/

namespace NameOutputs

/-- How hashes are made of what values consist of. -/
structure Hashing (Code : Type) where
  /-- The hash of an unlocking and a locking script. -/
  scripts : Script × Script → Code
  /-- The hash of an opcode and arguments. -/
  operation : Int × List Text → Code
  /-- The hash where there is no value. -/
  nothing : Code

namespace Session

variable {Code : Type}

/-- The hash of a value, or of none. -/
def hash (session : Session) (hashing : Hashing Code) : Option Value → Code
  | some (.pair key) =>
    let pair := session.store.read key
    hashing.scripts (pair.unlocking, pair.locking)
  | some (.descriptor d) => hashing.operation (d.operation.opcode, d.operation.args)
  | none => hashing.nothing

variable [DecidableEq Code]

/-- Whether a set takes a member for the value. -/
def takesFor (session : Session) (hashing : Hashing Code) (value member : Value) : Bool :=
  session.hash hashing (some member) == session.hash hashing (some value) &&
    session.observe member == session.observe value

/-- The members of a set after a value is put into it. -/
def insert (session : Session) (hashing : Hashing Code) (members : List Value) (value : Value) :
    List Value :=
  if members.any (session.takesFor hashing value) then members else members ++ [value]

/-- The members of the set of the values, in the order in which they get into it. -/
def collect (session : Session) (hashing : Hashing Code) (values : List Value) : List Value :=
  values.foldl (session.insert hashing) []

end Session

end NameOutputs
