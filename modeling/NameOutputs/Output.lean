import NameOutputs.Descriptor
import NameOutputs.Payment.Balance

/-!
# Outputs

An output is read for the name operation that it may carry and for its payment. A script that is
rejected carries no operation, which is no failure here: it is noted in a log, with the cause.
-/

namespace NameOutputs

/-- Who writes to the log. -/
inductive Channel
  /-- The test whether a script carries a name operation. -/
  | nameScripts
  /-- The reading of outputs. -/
  | outputs
deriving DecidableEq

/-- A note that a script was rejected. -/
structure LogRecord where
  /-- Who noted it. -/
  channel : Channel
  /-- Why it was rejected. -/
  cause : Rejection
deriving DecidableEq

/-- What the records of a channel are labelled with. -/
def Channel.label : Channel → Text
  | nameScripts => Text.ofString "Nmc.namescript"
  | outputs => Text.ofString "Nmc.chains"

/-- How the messages of a channel begin. -/
def Channel.opening : Channel → Text
  | nameScripts => Text.ofString "not a name script: "
  | outputs => Text.ofString "txout carries no name operation: "

/-- A record as a line of the log. -/
def LogRecord.render (r : LogRecord) : Text :=
  Text.ofString "DEBUG " ++ r.channel.label ++ Text.ofString ": " ++ r.channel.opening
    ++ r.cause.message

/-- An answer, and what was logged on the way to it. -/
structure Logged (Answer : Type) where
  /-- The answer. -/
  answer : Answer
  /-- The records, the first first. -/
  log : List LogRecord

/-- The descriptor that the script carries under the standard encoding. A rejection is logged, and
any other fault is raised. -/
def Descriptor.search (channel : Channel) (script : Script) :
    Except Fault (Logged (Option (Descriptor ScriptPair))) :=
  let pair := ScriptPair.ofLocking script
  match Descriptor.parse .standard pair pair with
  | .ok descriptor => .ok { answer := some descriptor, log := [] }
  | .error (.rejected cause) => .ok { answer := none, log := [{ channel, cause }] }
  | .error fault => .error fault

/-- Whether the script carries a name operation. -/
def Script.carriesOperation (script : Script) : Except Fault (Logged Bool) := do
  let found ← Descriptor.search .nameScripts script
  return { answer := found.answer.isSome, log := found.log }

/-- What an output holds. -/
structure Output where
  /-- The name operation, if it carries one. -/
  descriptor? : Option (Descriptor ScriptPair)
  /-- What it pays to. -/
  payment : Payment

/-- The output with the locking script. -/
def Output.ofScript (script : Script) : Except Fault (Logged Output) := do
  let found ← Descriptor.search .outputs script
  return {
    answer := { descriptor? := found.answer, payment := Payment.ofOutput script }
    log := found.log }

end NameOutputs
