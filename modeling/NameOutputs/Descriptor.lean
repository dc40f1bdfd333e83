import NameOutputs.Operation.Parse
import NameOutputs.Script.Render

/-!
# Descriptors

A descriptor is a name operation together with the encoding that its arguments were read in and the
script that it comes from. Two descriptors are alike when their operations are: neither encoding nor
source makes a difference.
-/

namespace NameOutputs

/-- A name operation and where it comes from. -/
structure Descriptor (Source : Type) where
  /-- The operation. -/
  operation : Operation
  /-- The encoding of its arguments. -/
  encoding : Encoding
  /-- The scripts that it comes from, or a reference to them. -/
  source : Source

namespace Descriptor

variable {Source : Type}

/-- The descriptor of the operation that a pair's locking script carries. -/
def parse (encoding : Encoding) (pair : ScriptPair) (source : Source) :
    Except Fault (Descriptor Source) := do
  let operation ← Operation.parse encoding pair.locking
  return { operation, encoding, source }

/-- The descriptor of the operation with the opcode and the arguments. -/
def ofArgs (opcode : Int) (args : List Text) (encoding : Encoding) (source : Source) :
    Except Fault (Descriptor Source) := do
  let operation ← (Operation.ofArgs opcode args).mapError .rejected
  return { operation, encoding, source }

end Descriptor

end NameOutputs
