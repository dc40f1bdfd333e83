import NameOutputs.Proofs.Payment.Preamble

/-!
# Searching again finds the same

The search for a payment hands on a part of the script, or gives the script up as a whole.
`ofOutput_unknown_is_final` shows that neither is changed by another search. A part that is handed
on starts with pushes up to an instruction that is other (`start?_eq_some_iff`), so a search that
begins with it drops nothing more. A script that is given up has none of the known shapes, since
each of these starts in the same way and would have been handed on.
-/

namespace NameOutputs.Payment

variable {script part : Script}

/-- What the search hands on is handed on as it is. -/
theorem start?_of_start? (h : start? script = some part) : start? part = some part := by
  obtain ⟨_, -, -, hpart⟩ := start?_eq_some_iff.mp h
  exact start?_append preamble_nil hpart

/-- The search hands on an end of the script. -/
theorem isSuffix_of_start? (h : start? script = some part) : part <:+ script := by
  obtain ⟨front, rfl, -, -⟩ := start?_eq_some_iff.mp h
  exact List.suffix_append front part

/-- An output with a preamble pays as the part behind it. -/
theorem ofOutput_of_start? (h : start? script = some part) : ofOutput script = ofScript part := by
  rw [ofOutput, h]

/-- A script that the search gives up is no known payment on its own. -/
theorem ofScript_of_start?_eq_none (h : start? script = none) :
    ofScript script = unknown script := by
  refine ofScript_of_not_isKnown fun hknown => ?_
  have hstart : start? script = some script :=
    start?_append preamble_nil (pushesUpToOther_of_isKnown hknown)
  rw [h] at hstart
  cases hstart

/-- If a script pays to nobody known, the script that is left is an end of it, and is left again as
it is, whether it is taken on its own or searched. And whatever part of a script the search hands
on, searching that part gives what searching the script does. -/
theorem ofOutput_unknown_is_final (script : Script) :
    (∀ left, ofOutput script = unknown left →
        left <:+ script ∧ ofScript left = unknown left ∧ ofOutput left = unknown left) ∧
      ∀ part, start? script = some part →
        part <:+ script ∧ ofOutput script = ofScript part ∧ start? part = some part ∧
          ofOutput part = ofOutput script := by
  have hhanded : ∀ part, start? script = some part →
      part <:+ script ∧ ofOutput script = ofScript part ∧ start? part = some part ∧
        ofOutput part = ofOutput script := by
    intro part hpart
    have hagain : start? part = some part := start?_of_start? hpart
    have hscript : ofOutput script = ofScript part := ofOutput_of_start? hpart
    refine ⟨isSuffix_of_start? hpart, hscript, hagain, ?_⟩
    calc ofOutput part = ofScript part := ofOutput_of_start? hagain
      _ = ofOutput script := hscript.symm
  refine ⟨fun left hleft => ?_, hhanded⟩
  cases hstart : start? script with
  | none =>
    obtain rfl : script = left := by
      rw [ofOutput_of_start?_eq_none hstart] at hleft
      exact unknown.inj hleft
    exact ⟨List.suffix_rfl, ofScript_of_start?_eq_none hstart, hleft⟩
  | some part =>
    obtain ⟨hsuffix, hscript, -, hpart⟩ := hhanded part hstart
    rw [hleft] at hscript hpart
    -- What the shapes leave of a script is the script itself.
    obtain rfl : left = part := (ofScript_eq_unknown_iff.mp hscript.symm).1
    exact ⟨hsuffix, hscript.symm, hpart⟩

/-- The drop behind the first other instruction stays. -/
example : ofOutput [⟨0, none⟩, ⟨117, none⟩, ⟨118, none⟩, ⟨117, none⟩] =
    unknown [⟨118, none⟩, ⟨117, none⟩] := rfl

end NameOutputs.Payment
