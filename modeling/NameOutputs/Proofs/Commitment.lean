import NameOutputs.Commitment
import NameOutputs.Proofs.Grammar
import NameOutputs.Proofs.Text.RoundTrip

/-!
# Commitments are checked on bytes

Whether an operation reveals what another one commits to is asked of two operations that hold texts,
each under an encoding of its own. `matchesCommitment_decides_on_chain` shows that for operations
read from scripts the answer is decided by the bytes that the scripts push, and that there always is
an answer. Each text in the question is read from bytes under the encoding that it is written in
again, the digest included, and a text lost nothing of its bytes when it was read
(`Encoding.write_known_decode`). So the encodings drop out, whatever the bytes are.
-/

namespace NameOutputs

/-- What commits to texts of bytes is the text of the digest of these bytes. -/
theorem commitment_known_decode (digest : Bytes → Bytes) (charset : Charset)
    (salt name : Bytes) :
    commitment digest (.known charset) (charset.decode salt) (charset.decode name) =
      .ok (charset.decode (digest (salt ++ name))) := by
  unfold commitment
  rw [Encoding.write_known_decode, Encoding.write_known_decode]
  exact Encoding.read_known charset (some (digest (salt ++ name)))

namespace Descriptor

variable {Source Other : Type}

/-- Texts of bytes match when the committed bytes are the digest of the revealed ones. -/
theorem matchesCommitment_known_decode (digest : Bytes → Bytes) (charset other : Charset)
    (name salt hash : Bytes) (value : Text) (source : Source) (source' : Other) :
    matchesCommitment digest
        ⟨.firstUpdate (charset.decode name) (charset.decode salt) value, .known charset, source⟩
        ⟨.new (other.decode hash), .known other, source'⟩ =
      .ok (decide (hash = digest (salt ++ name))) := by
  have hrevealed := commitment_known_decode digest charset salt name
  have hdigest := Encoding.write_known_decode charset (digest (salt ++ name))
  have hhash := Encoding.write_known_decode other hash
  unfold matchesCommitment
  simp only [Operation.part, Operation.part?, bind, Except.bind, hrevealed, hdigest, hhash,
    Except.mapError, pure, Except.pure]
  rw [decide_eq_decide.mpr eq_comm]

/-- An operation read from a script has the opcode of the head and the texts of the data behind it,
in order. -/
theorem exists_arguments_of_parse {charset : Charset} {pair : ScriptPair} {source : Source}
    {d : Descriptor Source} (h : parse (.known charset) pair source = .ok d) :
    ∃ (operation : Operation) (head : Instruction) (arguments rest : Script),
      d = ⟨operation, .known charset, source⟩ ∧ pair.locking = head :: (arguments ++ rest) ∧
        operation.opcode = head.opcode ∧
        operation.args = arguments.map fun i => charset.decode (i.data.getD []) := by
  obtain ⟨operation, encoding, source⟩ := d
  obtain ⟨hparse, rfl, rfl⟩ := parse_eq_ok_iff.mp h
  obtain ⟨layout, hscript, -, hopcode, hargs⟩ := Operation.parse_known_eq_ok_iff.mp hparse
  refine ⟨operation, layout.head, layout.arguments, layout.delimiters ++ layout.payment, rfl, ?_,
    hopcode, hargs⟩
  rw [← hscript, Layout.script, List.append_assoc]

/-- An operation that reveals a name holds the text of the name's data and then that of the
salt's. -/
theorem exists_firstUpdate_of_parse {charset : Charset} {pair : ScriptPair} {source : Source}
    {d : Descriptor Source} (h : parse (.known charset) pair source = .ok d)
    (hkind : d.operation.kind = .firstUpdate) :
    ∃ (name salt : Instruction) (value : Text),
      pair.locking[1]? = some name ∧ pair.locking[2]? = some salt ∧
        d = ⟨.firstUpdate (charset.decode (name.data.getD [])) (charset.decode (salt.data.getD []))
          value, .known charset, source⟩ := by
  obtain ⟨operation, head, arguments, rest, rfl, hlocking, -, hargs⟩ := exists_arguments_of_parse h
  cases operation with
  | new | update => cases hkind
  | firstUpdate nameText saltText value =>
    obtain ⟨name, _, rfl, rfl, hbehind⟩ := List.map_eq_cons_iff.mp hargs.symm
    obtain ⟨salt, _, rfl, rfl, -⟩ := List.map_eq_cons_iff.mp hbehind
    exact ⟨name, salt, value, by rw [hlocking]; rfl, by rw [hlocking]; rfl, rfl⟩

/-- An operation that commits to a name holds the text of the data behind the head. -/
theorem exists_new_of_parse {charset : Charset} {pair : ScriptPair} {source : Source}
    {d : Descriptor Source} (h : parse (.known charset) pair source = .ok d)
    (hkind : d.operation.kind = .new) :
    ∃ hash : Instruction, pair.locking[1]? = some hash ∧
      d = ⟨.new (charset.decode (hash.data.getD [])), .known charset, source⟩ := by
  obtain ⟨operation, head, arguments, rest, rfl, hlocking, -, hargs⟩ := exists_arguments_of_parse h
  cases operation with
  | firstUpdate | update => cases hkind
  | new text =>
    obtain ⟨hash, _, rfl, rfl, -⟩ := List.map_eq_cons_iff.mp hargs.symm
    exact ⟨hash, by rw [hlocking]; rfl, rfl⟩

/-- The kind of operation that a script carries is the same under all charsets. -/
theorem kind_eq_of_parse {charset other : Charset} {pair : ScriptPair} {source : Source}
    {d d' : Descriptor Source} (h : parse (.known charset) pair source = .ok d)
    (h' : parse (.known other) pair source = .ok d') : d'.operation.kind = d.operation.kind := by
  obtain ⟨operation, head, _, _, rfl, hlocking, hopcode, -⟩ := exists_arguments_of_parse h
  obtain ⟨operation', head', _, _, rfl, hlocking', hopcode', -⟩ := exists_arguments_of_parse h'
  obtain ⟨rfl, -⟩ := List.cons.inj (hlocking.symm.trans hlocking')
  exact Operation.Kind.opcode_injective (hopcode'.trans hopcode.symm)

/-- A script that is accepted under a charset is accepted under any, as the same kind of
operation. -/
theorem exists_parse_of_parse {charset : Charset} (other : Charset) {pair : ScriptPair}
    {source : Source} {d : Descriptor Source} (h : parse (.known charset) pair source = .ok d) :
    ∃ d', parse (.known other) pair source = .ok d' ∧ d'.operation.kind = d.operation.kind := by
  obtain ⟨layout, hscript, hlayout, -⟩ := exists_layout_of_parse h
  obtain ⟨operation, hparse⟩ := Operation.exists_parse_of_wellFormed other hlayout
  rw [hscript] at hparse
  obtain ⟨d', h', -⟩ := exists_parse_of_operation_parse source hparse
  exact ⟨d', h', kind_eq_of_parse h h'⟩

/-- An operation that reveals a name and one that commits to a name, read from scripts under any two
charsets, match exactly if the committed data are the digest of the salt's data and the name's. The
scripts are accepted under any other two charsets, and then give the same answer. -/
theorem matchesCommitment_decides_on_chain (digest : Bytes → Bytes) {charset other : Charset}
    {revealing committing : ScriptPair} {source : Source} {source' : Other}
    {d : Descriptor Source} {d' : Descriptor Other}
    (h : parse (.known charset) revealing source = .ok d)
    (hkind : d.operation.kind = .firstUpdate)
    (h' : parse (.known other) committing source' = .ok d') (hkind' : d'.operation.kind = .new) :
    ∃ name salt hash : Instruction,
      revealing.locking[1]? = some name ∧ revealing.locking[2]? = some salt ∧
        committing.locking[1]? = some hash ∧
        d.matchesCommitment digest d' =
          .ok (decide (hash.data.getD [] = digest (salt.data.getD [] ++ name.data.getD []))) ∧
        ∀ charset₂ other₂ : Charset, ∃ (d₂ : Descriptor Source) (d₂' : Descriptor Other),
          parse (.known charset₂) revealing source = .ok d₂ ∧
            parse (.known other₂) committing source' = .ok d₂' ∧
            d₂.matchesCommitment digest d₂' = d.matchesCommitment digest d' := by
  obtain ⟨name, salt, value, hname, hsalt, rfl⟩ := exists_firstUpdate_of_parse h hkind
  obtain ⟨hash, hhash, rfl⟩ := exists_new_of_parse h' hkind'
  have hmatches := matchesCommitment_known_decode digest charset other (name.data.getD [])
    (salt.data.getD []) (hash.data.getD []) value source source'
  refine ⟨name, salt, hash, hname, hsalt, hhash, hmatches, fun charset₂ other₂ => ?_⟩
  obtain ⟨d₂, h₂, hkind₂⟩ := exists_parse_of_parse charset₂ h
  obtain ⟨d₂', h₂', hkind₂'⟩ := exists_parse_of_parse other₂ h'
  refine ⟨d₂, d₂', h₂, h₂', ?_⟩
  -- The other reading has the same data at the same positions.
  obtain ⟨name₂, salt₂, value₂, hname₂, hsalt₂, rfl⟩ := exists_firstUpdate_of_parse h₂ hkind₂
  obtain ⟨hash₂, hhash₂, rfl⟩ := exists_new_of_parse h₂' hkind₂'
  obtain rfl := Option.some.inj (hname.symm.trans hname₂)
  obtain rfl := Option.some.inj (hsalt.symm.trans hsalt₂)
  obtain rfl := Option.some.inj (hhash.symm.trans hhash₂)
  rw [hmatches, matchesCommitment_known_decode]

/-- The name's data break off inside a character and the salt has none, and the two scripts are read
under different charsets. -/
theorem matchesCommitment_of_malformed_name :
    let revealing : ScriptPair := .ofLocking
      [⟨82, none⟩, ⟨4, some [0x64, 0x2F, 0xE2, 0x82]⟩, ⟨0, none⟩, ⟨1, some [0x80]⟩, ⟨109, none⟩,
        ⟨109, none⟩, ⟨106, none⟩]
    let committing : ScriptPair := .ofLocking
      [⟨81, none⟩, ⟨4, some [0x82, 0xE2, 0x2F, 0x64]⟩, ⟨109, none⟩, ⟨106, none⟩]
    let d : Descriptor Unit :=
      ⟨.firstUpdate (Charset.utf8.decode [0x64, 0x2F, 0xE2, 0x82]) [] (Charset.utf8.decode [0x80]),
        .known .utf8, ()⟩
    let d' : Descriptor Unit :=
      ⟨.new (Charset.latin1.decode [0x82, 0xE2, 0x2F, 0x64]), .known .latin1, ()⟩
    parse (.known .utf8) revealing () = .ok d ∧ d.operation.kind = .firstUpdate ∧
      parse (.known .latin1) committing () = .ok d' ∧ d'.operation.kind = .new ∧
      ∃ name salt hash : Instruction,
        revealing.locking[1]? = some name ∧ revealing.locking[2]? = some salt ∧
          committing.locking[1]? = some hash ∧
          d.matchesCommitment List.reverse d' =
            .ok (decide (hash.data.getD [] = (salt.data.getD [] ++ name.data.getD []).reverse)) ∧
          ∀ charset₂ other₂ : Charset, ∃ d₂ d₂' : Descriptor Unit,
            parse (.known charset₂) revealing () = .ok d₂ ∧
              parse (.known other₂) committing () = .ok d₂' ∧
              d₂.matchesCommitment List.reverse d₂' = d.matchesCommitment List.reverse d' :=
  ⟨rfl, rfl, rfl, rfl, matchesCommitment_decides_on_chain List.reverse rfl rfl rfl rfl⟩

end Descriptor

end NameOutputs
