import NameOutputs.Commitment
import NameOutputs.Session.Attribute
import NameOutputs.Session.Basic

/-!
# Steps of a session

A step answers or fails. One that answers may change the session; one that fails leaves it as it
was.
-/

namespace NameOutputs

/-- Where a script to be parsed comes from. -/
inductive Origin
  /-- The pair in a slot. -/
  | slot (slot : String)
  /-- A locking script on its own. -/
  | bare (locking : Script)

/-- A step of a session. -/
inductive Step
  /-- Makes a pair. -/
  | makePair (slot : String) (pair : ScriptPair)
  /-- Makes the descriptor of the operation that a script carries. -/
  | parse (slot : String) (origin : Origin) (encoding : Encoding)
  /-- Makes the descriptor of the operation on some arguments, with the pair in a slot or else a new
  empty pair as its source. -/
  | construct (slot : String) (opcode : Int) (args : List Text) (source? : Option String)
      (encoding : Encoding)
  /-- Reads from the descriptor in a slot. -/
  | get (slot : String) (asked : Attribute)
  /-- Attempts to change the descriptor in a slot. -/
  | set (slot : String) (name : String)
  /-- Changes a half of the pair in a slot. -/
  | assign (slot : String) (half : Half) (script : Script)
  /-- Asks whether one descriptor reveals what another commits to. -/
  | reveals (revealing committing : String)
  /-- Compares the values of two slots, or that of one slot to no value. -/
  | compare (slot : String) (other : Option String)
  /-- Counts the values of the slots, those that are alike once. -/
  | distinct (slots : List String)
  /-- Asks whether the source of a descriptor is the pair in a slot, and not only like it. -/
  | sameSource (slot pairSlot : String)
  /-- Counts the instructions of the pair in a slot. -/
  | length (slot : String)
  /-- Shows the value of a slot. -/
  | render (slot : String)

/-- What a step answers. -/
inductive Answer
  /-- A text. -/
  | text (text : Text)
  /-- Several texts. -/
  | texts (texts : List Text)
  /-- An integer. -/
  | integer (n : Int)
  /-- A yes or no. -/
  | flag (flag : Bool)
  /-- Whether two values are equal, and whether they are unequal. -/
  | comparison (equal unequal : Bool)
deriving DecidableEq

/-- Why a step fails. -/
inductive StepFault
  /-- The operation fails. -/
  | operation (fault : Fault)
  /-- A descriptor refuses to be changed. -/
  | refused (refusal : Refusal)
  /-- A slot does not hold what the step needs. -/
  | unsuited (slot : String)
deriving DecidableEq

/-- The wording of a fault. -/
def StepFault.message : StepFault → Text
  | operation fault => fault.message
  | refused refusal => refusal.message
  | unsuited slot => Text.ofString ("slot " ++ slot ++ " does not hold what the step needs")

namespace Session

/-- What an attribute of a descriptor is. -/
def read (session : Session) (d : Descriptor Key) : Attribute → Except Fault Answer
  | .opcode => .ok (.integer d.operation.opcode)
  | .args => .ok (.texts d.operation.args)
  | .isUpdate => .ok (.flag d.operation.isUpdate)
  | .part p => do return .text (← d.operation.part p)
  | .source => .ok (.text (session.store.read d.source).render)

/-- What a slot holds, seen as what a step needs. -/
def find (session : Session) {Needed : Type} (slot : String) (view : Value → Option Needed) :
    Except StepFault Needed :=
  match (session.slots slot).bind view with
  | some needed => .ok needed
  | none => .error (.unsuited slot)

/-- The value of a slot. -/
def valueAt (session : Session) (slot : String) : Except StepFault Value :=
  session.find slot some

/-- The key of the pair in a slot. -/
def pairAt (session : Session) (slot : String) : Except StepFault Key :=
  session.find slot Value.key?

/-- The descriptor in a slot. -/
def descriptorAt (session : Session) (slot : String) : Except StepFault (Descriptor Key) :=
  session.find slot Value.descriptor?

/-- A new value in a slot, answered by its text. -/
def made (session : Session) (slot : String) (value : Value) : Answer × Session :=
  (.text (session.render value), session.put slot value)

/-- The answer to a step, and the session after it. -/
def step (session : Session) : Step → Except StepFault (Answer × Session)
  | .makePair slot pair =>
    return (session.addPair pair).made slot (.pair session.store.fresh)
  | .parse slot (.slot origin) encoding => do
    let key ← session.pairAt origin
    let d ← (Descriptor.parse encoding (session.store.read key) key).mapError .operation
    return session.made slot (.descriptor d)
  | .parse slot (.bare locking) encoding => do
    -- The pair is made for the descriptor alone, and no slot gets its key.
    let pair := ScriptPair.ofLocking locking
    let d ← (Descriptor.parse encoding pair session.store.fresh).mapError .operation
    return (session.addPair pair).made slot (.descriptor d)
  | .construct slot opcode args (some source) encoding => do
    let key ← session.pairAt source
    let d ← (Descriptor.ofArgs opcode args encoding key).mapError .operation
    return session.made slot (.descriptor d)
  | .construct slot opcode args none encoding => do
    let d ← (Descriptor.ofArgs opcode args encoding session.store.fresh).mapError .operation
    return (session.addPair {}).made slot (.descriptor d)
  | .get slot asked => do
    let d ← session.descriptorAt slot
    let answer ← (session.read d asked).mapError .operation
    return (answer, session)
  | .set slot name => do
    let d ← session.descriptorAt slot
    throw (.refused (d.operation.refusal name))
  | .assign slot half script => do
    let key ← session.pairAt slot
    let next := { session with store := session.store.assign key half script }
    return (.text (next.store.read key).render, next)
  | .reveals revealing committing => do
    let a ← session.descriptorAt revealing
    let b ← session.descriptorAt committing
    let answer ← (a.matchesCommitment Digest.hash160 b).mapError .operation
    return (.flag answer, session)
  | .compare slot other => do
    let a := session.observe (← session.valueAt slot)
    let b ← other.mapM fun other => session.observe <$> session.valueAt other
    return (.comparison (some a == b) (some a != b), session)
  | .distinct slots => do
    let values ← slots.mapM session.valueAt
    return (.integer (values.map session.observe).eraseDups.length, session)
  | .sameSource slot pairSlot => do
    let d ← session.descriptorAt slot
    let key ← session.pairAt pairSlot
    return (.flag (d.source = key), session)
  | .length slot => do
    let key ← session.pairAt slot
    return (.integer (session.store.read key).length, session)
  | .render slot => do
    return (.text (session.render (← session.valueAt slot)), session)

/-- The session after a step, which is the session before it if the step fails. -/
def after (session : Session) (s : Step) : Session :=
  match session.step s with
  | .ok (_, next) => next
  | .error _ => session

/-- What each of the steps answers, one after the other. -/
def answers (session : Session) : List Step → List (Except StepFault Answer)
  | [] => []
  | s :: rest => (session.step s).map Prod.fst :: (session.after s).answers rest

end Session

end NameOutputs
