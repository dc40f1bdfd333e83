import NameOutputs.Proofs.Commitment
import NameOutputs.Proofs.Rejection

/-!
# The charset decides no verdict

A script is read under a charset that the caller chooses, and the arguments of its operation are
texts in that charset. `verdict_of_charset` compares two readings of one script. Either both are
rejected for the same cause, since no objection that can be held against a script under a charset
is about the charset (`Objection.of_known`), or both are accepted as the same kind of operation. The
texts of an argument may then differ, but each is written as the data that the script pushes for it.
-/

namespace NameOutputs

namespace Operation

variable {charset : Charset} {script : Script} {fault : Fault}

/-- What can be held against a script under a charset can be held against it under any. -/
theorem Objection.of_known (other : Charset) (h : Objection (.known charset) script fault) :
    Objection (.known other) script fault := by
  cases h with
  | emptyScript hnil => exact .emptyScript hnil
  | unknownEncoding hlabel => cases hlabel
  | unreadable hcodec => cases hcodec
  | opcodeOutOfRange hi hdrop => exact .opcodeOutOfRange hi hdrop
  | noDelimiter hdrops => exact .noDelimiter hdrops
  | unknownOp hhead hkind => exact .unknownOp hhead hkind
  | wrongArgCount hhead hkind hcount => exact .wrongArgCount hhead hkind hcount

/-- A script is rejected under any charset for the cause for which it is under one. -/
theorem parse_known_eq_error (other : Charset)
    (h : parse (.known charset) script = .error fault) :
    parse (.known other) script = .error fault := by
  have hfirst := parse_eq_error_iff.mp h
  refine parse_eq_error_iff.mpr ⟨hfirst.objection.of_known other, fun found hfound => ?_⟩
  exact hfirst.clear found (hfound.of_known charset)

end Operation

namespace Descriptor

variable {Source : Type} {charset : Charset} {pair : ScriptPair} {source : Source}
  {d : Descriptor Source}

/-- An argument is written as the data of the instruction that pushes it, which stands behind the
head. -/
theorem exists_instruction_of_parse (h : parse (.known charset) pair source = .ok d)
    {position : Nat} (hlt : position < d.operation.args.length) :
    ∃ i text, pair.locking[position + 1]? = some i ∧ d.operation.args[position]? = some text ∧
      (Encoding.known charset).write text = .ok (i.data.getD []) := by
  obtain ⟨operation, head, arguments, rest, rfl, hlocking, -, hargs⟩ := exists_arguments_of_parse h
  have hlt' : position < arguments.length := by
    rwa [hargs, List.length_map] at hlt
  refine ⟨arguments[position], charset.decode (arguments[position].data.getD []), ?_, ?_,
    Encoding.write_known_decode charset _⟩
  · rw [hlocking, List.getElem?_cons_succ, List.getElem?_append_left hlt',
      List.getElem?_eq_getElem hlt']
  · rw [hargs, List.getElem?_map, List.getElem?_eq_getElem hlt']
    rfl

/-- Two readings of one script under two charsets are rejected for the same cause, or else both are
accepted, with the same opcode and the same number of arguments. Each argument is then written,
under the charset that it was read in, as the data that the script pushes for it. -/
theorem verdict_of_charset (charset other : Charset) (pair : ScriptPair) (source : Source) :
    (∃ fault, parse (.known charset) pair source = .error fault ∧
        parse (.known other) pair source = .error fault) ∨
      ∃ d d' : Descriptor Source, parse (.known charset) pair source = .ok d ∧
        parse (.known other) pair source = .ok d' ∧ d.operation.opcode = d'.operation.opcode ∧
        d.operation.args.length = d'.operation.args.length ∧
        ∀ position < d.operation.args.length, ∃ i text text',
          pair.locking[position + 1]? = some i ∧
            d.operation.args[position]? = some text ∧ d'.operation.args[position]? = some text' ∧
            (Encoding.known charset).write text = .ok (i.data.getD []) ∧
            (Encoding.known other).write text' = .ok (i.data.getD []) := by
  cases h : parse (.known charset) pair source with
  | error fault =>
    have hother := Operation.parse_known_eq_error other (parse_eq_error_iff.mp h)
    exact .inl ⟨fault, rfl, parse_eq_error_iff.mpr hother⟩
  | ok d =>
    obtain ⟨d', h', hkind⟩ := exists_parse_of_parse other h
    have hopcode : d.operation.opcode = d'.operation.opcode :=
      congrArg Operation.Kind.opcode hkind.symm
    have hlength : d.operation.args.length = d'.operation.args.length := by
      rw [Operation.length_args, Operation.length_args, hkind]
    refine .inr ⟨d, d', rfl, h', hopcode, hlength, fun position hlt => ?_⟩
    obtain ⟨i, text, hi, htext, hwrite⟩ := exists_instruction_of_parse h hlt
    obtain ⟨i', text', hi', htext', hwrite'⟩ := exists_instruction_of_parse h' (hlength ▸ hlt)
    -- Both texts are those of the instruction at the one position.
    obtain rfl := Option.some.inj (hi.symm.trans hi')
    exact ⟨i, text, text', hi, htext, htext', hwrite, hwrite'⟩

end Descriptor

end NameOutputs
