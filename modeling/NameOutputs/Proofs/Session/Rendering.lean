import NameOutputs.Proofs.Session.Comparison
import NameOutputs.Proofs.Text.Quoted

/-!
# Descriptors are told apart by their texts

A descriptor is shown by the name of its kind and its arguments in quotation marks.
`render_identifies_descriptor` shows that two descriptors are shown alike exactly if they compare as
equal, which is when opcode and arguments agree. Whatever the arguments hold, be it quotation marks,
commas or what looks like an escape, the text can be taken apart again: the name of the kind ends at
the first comma, and the arguments are read by `Text.quotedList_injective`.
-/

namespace NameOutputs

namespace Operation

/-- Kinds are told apart by what they are called. -/
theorem Kind.label_injective {kind other : Kind} (h : kind.label = other.label) : kind = other := by
  revert h
  cases kind <;> cases other <;> decide

/-- No comma stands in the label of a kind. -/
theorem Kind.comma_not_mem_label (kind : Kind) : CodePoint.ofChar ',' ∉ kind.label := by
  cases kind <;> decide

/-- Operations are told apart by how they are shown. -/
theorem render_injective {a b : Operation} (h : a.render = b.render) : a = b := by
  have hshown : a.kind.label ++ (Text.ofString ", " ++ Text.quotedList a.args) =
      b.kind.label ++ (Text.ofString ", " ++ Text.quotedList b.args) := by
    have hinner := List.append_cancel_right h
    simp only [List.append_assoc] at hinner
    exact List.append_cancel_left hinner
  obtain ⟨hlabel, hbehind⟩ := Text.append_cons_inj a.kind.comma_not_mem_label
    b.kind.comma_not_mem_label hshown
  have hkind : a.kind = b.kind := Kind.label_injective hlabel
  have hargs : a.args = b.args := Text.quotedList_injective (List.cons.inj hbehind).2
  exact ext_args (congrArg Kind.opcode hkind) hargs

end Operation

namespace Session

/-- A step that shows a slot answers with the text of its value. -/
theorem step_render {session : Session} {slot : String} {value : Value}
    (h : session.slots slot = some value) :
    session.step (.render slot) = .ok (.text (session.render value), session) := by
  have hvalue : session.valueAt slot = .ok value := valueAt_eq_ok_iff.mpr h
  simp only [step, hvalue, bind, Except.bind]
  rfl

/-- Two descriptors are shown alike exactly if they have the same opcode and the same arguments. In
a session that holds both, that is when comparing them answers that they are equal. -/
theorem render_identifies_descriptor (d d' : Descriptor Key) :
    (d.operation.render = d'.operation.render ↔
      d.operation.opcode = d'.operation.opcode ∧ d.operation.args = d'.operation.args) ∧
    ∀ (session : Session) (slot other : String),
      session.slots slot = some (.descriptor d) → session.slots other = some (.descriptor d') →
      ∃ same,
        session.step (.compare slot (some other)) = .ok (.comparison same (!same), session) ∧
        session.step (.render slot) = .ok (.text d.operation.render, session) ∧
        session.step (.render other) = .ok (.text d'.operation.render, session) ∧
        (d.operation.render = d'.operation.render ↔ same = true) := by
  have hrender : d.operation.render = d'.operation.render ↔ d.operation = d'.operation :=
    ⟨Operation.render_injective, congrArg Operation.render⟩
  refine ⟨hrender.trans Operation.eq_iff_opcode_args, fun session slot other hd hd' => ?_⟩
  obtain ⟨same, hcompare, hsame⟩ := step_compare hd hd'
  refine ⟨same, hcompare, step_render hd, step_render hd', ?_⟩
  rw [hrender, hsame, observe_descriptor_eq_iff]

/-- A name that looks like two. -/
example : (Operation.update (Text.ofString "d/a', 'b") []).render =
    Text.ofString "NameScript(NAME_UPDATE, [\"d/a', 'b\", ''])" := by decide +kernel

end Session

end NameOutputs
