import NameOutputs.Proofs.Session.Run
import NameOutputs.Proofs.Grammar
import NameOutputs.Proofs.Text.RoundTrip

/-!
# Descriptors compare as what their scripts push

Two descriptors in a session are compared by their operations, which hold texts.
`compare_of_parse` shows that for descriptors that were parsed under one charset the answer is
decided by the scripts: they have to tell operations by the same opcode, and push the same data for
the arguments. Nothing is confused on the way from data to texts, since data are told apart by their
texts (`Charset.decode_injective`) also where they are not well-formed. Nothing else is seen
either: opcode and texts are all that there is of an operation.
-/

namespace NameOutputs

/-- The data of the arguments in order. An argument without data has empty ones. -/
def Layout.argumentData (layout : Layout) : List Bytes :=
  layout.arguments.map fun i => i.data.getD []

/-- Texts of arguments are the same exactly if their data are. -/
theorem Layout.texts_eq_iff (charset : Charset) {layout other : Layout} :
    layout.texts charset = other.texts charset ↔ layout.argumentData = other.argumentData := by
  have htexts (layout : Layout) :
      layout.texts charset = layout.argumentData.map charset.decode := by
    rw [texts, argumentData, List.map_map]
    rfl
  rw [htexts, htexts]
  exact List.map_inj_right fun _ _ => charset.decode_injective

/-- Operations are the same exactly if their opcodes and their arguments are. -/
theorem Operation.eq_iff_opcode_args {a b : Operation} :
    a = b ↔ a.opcode = b.opcode ∧ a.args = b.args := by
  constructor
  · rintro rfl
    exact ⟨rfl, rfl⟩
  · rintro ⟨hopcode, hargs⟩
    exact ext_args hopcode hargs

namespace Descriptor

variable {Source Other : Type} {charset : Charset} {pair pair' : ScriptPair} {source : Source}
  {source' : Other} {d : Descriptor Source} {d' : Descriptor Other}

/-- Operations that were parsed are the same exactly if the scripts have the same first opcode and
the same data in their arguments. -/
theorem operation_eq_iff_of_parse {layout layout' : Layout}
    (h : parse (.known charset) pair source = .ok d) (hscript : layout.script = pair.locking)
    (hlayout : layout.WellFormed) (h' : parse (.known charset) pair' source' = .ok d')
    (hscript' : layout'.script = pair'.locking) (hlayout' : layout'.WellFormed) :
    d.operation = d'.operation ↔
      layout.head.opcode = layout'.head.opcode ∧ layout.argumentData = layout'.argumentData := by
  obtain ⟨found, hfound, hwell, hopcode, hargs⟩ := exists_layout_of_parse h
  obtain ⟨found', hfound', hwell', hopcode', hargs'⟩ := exists_layout_of_parse h'
  -- A script has one well-formed layout only.
  obtain rfl := hwell.eq_of_script_eq hlayout (hfound.trans hscript.symm)
  obtain rfl := hwell'.eq_of_script_eq hlayout' (hfound'.trans hscript'.symm)
  rw [Operation.eq_iff_opcode_args, hopcode, hopcode', hargs, hargs', Layout.texts_eq_iff]

end Descriptor

namespace Session

variable {session : Session}

/-- A step that compares two slots answers whether their values look the same, and its opposite. -/
theorem step_compare {slot other : String} {value value' : Value}
    (h : session.slots slot = some value) (h' : session.slots other = some value') :
    ∃ same, session.step (.compare slot (some other)) = .ok (.comparison same (!same), session) ∧
      (same = true ↔ session.observe value = session.observe value') := by
  have hvalue : session.valueAt slot = .ok value := valueAt_eq_ok_iff.mpr h
  have hvalue' : session.valueAt other = .ok value' := valueAt_eq_ok_iff.mpr h'
  refine ⟨some (session.observe value) == some (session.observe value'), ?_, ?_⟩
  · simp only [step, hvalue, bind, Except.bind, Option.mapM_some, hvalue']
    rfl
  · rw [beq_iff_eq, Option.some.injEq]

/-- Descriptors look the same when their operations are the same. -/
theorem observe_descriptor_eq_iff {d d' : Descriptor Key} :
    session.observe (.descriptor d) = session.observe (.descriptor d') ↔
      d.operation = d'.operation := by
  show Observed.operation d.operation = Observed.operation d'.operation ↔ _
  rw [Observed.operation.injEq]

/-- Two descriptors that were parsed under one charset compare as equal, wherever they are held,
exactly if the first instructions of their scripts have the same opcode and the arguments push the
same data. The other half of a pair makes no difference, nor do the opcodes that push the
arguments, the delimiters or the payment. -/
theorem compare_of_parse {charset : Charset} {pair pair' : ScriptPair} {key key' : Key}
    {d d' : Descriptor Key} (h : Descriptor.parse (.known charset) pair key = .ok d)
    (h' : Descriptor.parse (.known charset) pair' key' = .ok d') :
    ∃ layout layout' : Layout,
      layout.script = pair.locking ∧ layout.WellFormed ∧
        layout'.script = pair'.locking ∧ layout'.WellFormed ∧
        ∀ (session : Session) (slot other : String),
          session.slots slot = some (.descriptor d) →
          session.slots other = some (.descriptor d') →
          ∃ same,
            session.step (.compare slot (some other)) = .ok (.comparison same (!same), session) ∧
              (same = true ↔ layout.head.opcode = layout'.head.opcode ∧
                layout.argumentData = layout'.argumentData) := by
  obtain ⟨layout, hscript, hlayout, -⟩ := Descriptor.exists_layout_of_parse h
  obtain ⟨layout', hscript', hlayout', -⟩ := Descriptor.exists_layout_of_parse h'
  refine ⟨layout, layout', hscript, hlayout, hscript', hlayout',
    fun session slot other hd hd' => ?_⟩
  obtain ⟨same, hstep, hsame⟩ := step_compare hd hd'
  refine ⟨same, hstep, ?_⟩
  calc same = true
      ↔ session.observe (.descriptor d) = session.observe (.descriptor d') := hsame
    _ ↔ d.operation = d'.operation := observe_descriptor_eq_iff
    _ ↔ _ := Descriptor.operation_eq_iff_of_parse h hscript hlayout h' hscript' hlayout'

/-- Two scripts that differ in all but the opcode in front and the data, which are not
well-formed. -/
theorem compare_of_parse_malformed :
    let pair : ScriptPair := .ofLocking
      [⟨83, none⟩, ⟨2, some [0xE2, 0x82]⟩, ⟨0, none⟩, ⟨117, none⟩, ⟨106, none⟩]
    let pair' : ScriptPair :=
      { unlocking := [⟨-1, none⟩]
        locking := [⟨83, some [0x01]⟩, ⟨76, some [0xE2, 0x82]⟩, ⟨5, some []⟩, ⟨97, none⟩,
          ⟨109, none⟩, ⟨82, none⟩] }
    let operation : Operation := .update (Charset.utf8.decode [0xE2, 0x82]) []
    let d : Descriptor Key := ⟨operation, .known .utf8, ⟨0⟩⟩
    let d' : Descriptor Key := ⟨operation, .known .utf8, ⟨1⟩⟩
    Descriptor.parse (.known .utf8) pair ⟨0⟩ = .ok d ∧
      Descriptor.parse (.known .utf8) pair' ⟨1⟩ = .ok d' ∧
      ∃ layout layout' : Layout,
        layout.script = pair.locking ∧ layout.WellFormed ∧
          layout'.script = pair'.locking ∧ layout'.WellFormed ∧
          ∀ (session : Session) (slot other : String),
            session.slots slot = some (.descriptor d) →
            session.slots other = some (.descriptor d') →
            ∃ same,
              session.step (.compare slot (some other)) = .ok (.comparison same (!same), session) ∧
                (same = true ↔ layout.head.opcode = layout'.head.opcode ∧
                  layout.argumentData = layout'.argumentData) :=
  ⟨rfl, rfl, compare_of_parse rfl rfl⟩

end Session

end NameOutputs
