import NameOutputs.Enumeration

/-!
# Opcodes

An opcode is an integer of any size, since a script may be decoded from whatever a transaction
holds. The table names the opcodes that are defined. Opcodes up to `pushData4` only push data,
whatever their data; of those, arguments of a name operation admit only the ones from zero up.
-/

namespace NameOutputs.Opcode

open Enumeration (Entry)

/-- The last opcode that pushes the data beside it. -/
abbrev pushData4 : Int := 78

/-- Pushes the number minus one. -/
abbrev oneNegate : Int := 79

/-- Pushes the number one, and the first of the sixteen opcodes that push a small number. -/
abbrev one : Int := 81

/-- Pushes the number sixteen. -/
abbrev sixteen : Int := 96

/-- Does nothing. -/
abbrev nop : Int := 97

/-- Ends the script as failed. -/
abbrev ret : Int := 106

/-- Takes two items from the stack. -/
abbrev twoDrop : Int := 109

/-- Takes an item from the stack. -/
abbrev drop : Int := 117

/-- Pushes the topmost item again. -/
abbrev dup : Int := 118

/-- Compares two items. -/
abbrev equal : Int := 135

/-- Compares two items and fails if they differ. -/
abbrev equalVerify : Int := 136

/-- Replaces an item by its digest. -/
abbrev hash160 : Int := 169

/-- Checks one signature. -/
abbrev checkSig : Int := 172

/-- Checks signatures against several keys. -/
abbrev checkMultisig : Int := 174

/-- The names without `OP_`, in runs of consecutive values, each with its first value. -/
def mnemonics : List (Int × List String) :=
  [(0, ["0"]),
   (76, ["PUSHDATA1", "PUSHDATA2", "PUSHDATA4", "1NEGATE", "RESERVED", "1", "2", "3", "4", "5", "6",
    "7", "8", "9", "10", "11", "12", "13", "14", "15", "16", "NOP", "VER", "IF", "NOTIF", "VERIF",
    "VERNOTIF", "ELSE", "ENDIF", "VERIFY", "RETURN", "TOALTSTACK", "FROMALTSTACK", "2DROP", "2DUP",
    "3DUP", "2OVER", "2ROT", "2SWAP", "IFDUP", "DEPTH", "DROP", "DUP", "NIP", "OVER", "PICK",
    "ROLL", "ROT", "SWAP", "TUCK", "CAT", "SUBSTR", "LEFT", "RIGHT", "SIZE", "INVERT", "AND", "OR",
    "XOR", "EQUAL", "EQUALVERIFY", "RESERVED1", "RESERVED2", "1ADD", "1SUB", "2MUL", "2DIV",
    "NEGATE", "ABS", "NOT", "0NOTEQUAL", "ADD", "SUB", "MUL", "DIV", "MOD", "LSHIFT", "RSHIFT",
    "BOOLAND", "BOOLOR", "NUMEQUAL", "NUMEQUALVERIFY", "NUMNOTEQUAL", "LESSTHAN", "GREATERTHAN",
    "LESSTHANOREQUAL", "GREATERTHANOREQUAL", "MIN", "MAX", "WITHIN", "RIPEMD160", "SHA1", "SHA256",
    "HASH160", "HASH256", "CODESEPARATOR", "CHECKSIG", "CHECKSIGVERIFY", "CHECKMULTISIG",
    "CHECKMULTISIGVERIFY", "NOP1", "CHECKLOCKTIMEVERIFY", "CHECKSEQUENCEVERIFY", "NOP4", "NOP5",
    "NOP6", "NOP7", "NOP8", "NOP9", "NOP10"]),
   (255, ["INVALIDOPCODE"])]

/-- The name that belongs to a mnemonic. -/
def named (mnemonic : String) : Text :=
  Text.ofString "OP_" ++ Text.ofString mnemonic

/-- The entries of a run, of which the first sets its value. -/
def run (first : Int) : List String → List Entry
  | [] => []
  | m :: ms => ⟨named m, some first⟩ :: ms.map fun m => ⟨named m, none⟩

/-- The entries of the table. -/
def entries : List Entry :=
  mnemonics.flatMap fun r => run r.1 r.2

/-- A run defines the names of its mnemonics. -/
theorem map_name_run (first : Int) (ms : List String) :
    (run first ms).map Entry.name = ms.map named := by
  cases ms <;> simp [run]

/-- No name stands twice, since no mnemonic does. -/
theorem nodup_names : ((Enumeration.number 0 entries).map Prod.fst).Nodup := by
  have hm : (mnemonics.flatMap Prod.snd).Nodup := by decide +kernel
  have he : entries.map Entry.name = (mnemonics.flatMap Prod.snd).map named := by
    simp only [entries, List.map_flatMap, map_name_run]
  rw [Enumeration.map_fst_number, he]
  exact List.Pairwise.map named
    (fun _ _ hne h => hne (Text.ofString_injective (List.append_cancel_left h))) hm

/-- The opcodes that have names. -/
def table : Enumeration where
  title := Text.ofString "Opcodes"
  entries := Enumeration.number 0 entries
  names_nodup := nodup_names
  values_nodup := by decide +kernel

/-- The opcodes named above are those of the table. -/
theorem table_value? :
    ∀ p ∈ [("OP_PUSHDATA4", pushData4), ("OP_1NEGATE", oneNegate), ("OP_1", one),
        ("OP_16", sixteen), ("OP_NOP", nop), ("OP_RETURN", ret), ("OP_2DROP", twoDrop),
        ("OP_DROP", drop), ("OP_DUP", dup), ("OP_EQUAL", equal), ("OP_EQUALVERIFY", equalVerify),
        ("OP_HASH160", hash160), ("OP_CHECKSIG", checkSig), ("OP_CHECKMULTISIG", checkMultisig)],
      table.value? (Text.ofString p.1) = some p.2 := by
  decide +kernel

/-- How an opcode is shown: by its name in the table without `OP_`, or by its number if it has
none. -/
def shown (opcode : Int) : Text :=
  match table.name? opcode with
  | some name => name.drop 3
  | none => Text.ofString "InvalidOp_" ++ Text.decimal opcode

end NameOutputs.Opcode
