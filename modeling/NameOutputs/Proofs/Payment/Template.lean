import Mathlib.Data.List.Forall2
import NameOutputs.Payment.Template

/-!
# What templates fit

A template fits a script entry by entry, and by the opcodes alone (`fits_iff_forall₂`). From this
`common_script_iff_entries_meet` tells when two templates fit a script in common: they have one
length, and at each position the entries are equal or one stands for pushes of data and the other is
such a push.

Where entries meet there is an opcode that both stand for (`admits_meetingOpcode`), and these
opcodes make up a script that both templates fit (`fits_meetingScript`). The templates of payments
do not overlap, so a script fits one of them at most (`eq_of_fits_of_fits`).
-/

namespace NameOutputs.Template

/-- What an entry stands for. -/
theorem admits_iff {entry opcode : Int} :
    admits entry opcode = true ↔
      entry = opcode ∨ entry = Opcode.pushData4 ∧ opcode ≤ Opcode.pushData4 := by
  unfold admits
  rw [Bool.or_eq_true, Bool.and_eq_true, decide_eq_true_eq, decide_eq_true_eq, decide_eq_true_eq]

/-- The entry for pushes of data stands for each of them. -/
theorem admits_pushData4_iff {opcode : Int} :
    admits Opcode.pushData4 opcode = true ↔ opcode ≤ Opcode.pushData4 := by
  rw [admits_iff]
  omega

/-- Any other entry stands for itself. -/
theorem admits_iff_of_ne {entry opcode : Int} (h : entry ≠ Opcode.pushData4) :
    admits entry opcode = true ↔ entry = opcode := by
  rw [admits_iff]
  exact or_iff_left fun hpush => h hpush.1

/-- The scripts that have the opcodes of a template with a first entry. -/
theorem fits_cons_iff {entry : Int} {template : Template} {script : Script} :
    fits (entry :: template) script = true ↔
      ∃ i rest, script = i :: rest ∧ admits entry i.opcode = true ∧ fits template rest = true := by
  cases script with
  | nil => simp [fits]
  | cons i rest =>
    simp only [fits, Bool.and_eq_true, List.cons.injEq]
    constructor
    · rintro ⟨hi, hrest⟩
      exact ⟨i, rest, ⟨rfl, rfl⟩, hi, hrest⟩
    · rintro ⟨_, _, ⟨rfl, rfl⟩, hi, hrest⟩
      exact ⟨hi, hrest⟩

/-- The empty template fits the empty script alone. -/
theorem fits_nil_iff {script : Script} : fits [] script = true ↔ script = [] := by
  cases script <;> simp [fits]

/-- The scripts that have the opcodes of a template from an entry that stands for itself. -/
theorem fits_cons_iff_of_ne {entry : Int} {template : Template} {script : Script}
    (h : entry ≠ Opcode.pushData4) :
    fits (entry :: template) script = true ↔
      ∃ i rest, script = i :: rest ∧ i.opcode = entry ∧ fits template rest = true := by
  simp only [fits_cons_iff, admits_iff_of_ne h, eq_comm (a := entry)]

/-- The scripts that have the opcodes of a template from a push of any data. -/
theorem fits_pushData4_cons_iff {template : Template} {script : Script} :
    fits (Opcode.pushData4 :: template) script = true ↔
      ∃ i rest, script = i :: rest ∧ i.opcode ≤ Opcode.pushData4 ∧ fits template rest = true := by
  simp only [fits_cons_iff, admits_pushData4_iff]

/-- Each entry stands for the opcode at its position. -/
theorem fits_iff_forall₂ {template : Template} {script : Script} :
    template.fits script = true ↔
      List.Forall₂ (fun entry opcode => admits entry opcode = true) template
        (script.map Instruction.opcode) := by
  induction template generalizing script with
  | nil => rw [fits_nil_iff, List.forall₂_nil_left_iff, List.map_eq_nil_iff]
  | cons entry template ih =>
    rw [fits_cons_iff]
    constructor
    · rintro ⟨i, rest, rfl, hi, hrest⟩
      exact .cons hi (ih.mp hrest)
    · intro h
      cases script with
      | nil => cases h
      | cons i rest =>
        obtain ⟨hi, hrest⟩ := List.forall₂_cons.mp h
        exact ⟨i, rest, rfl, hi, ih.mpr hrest⟩

/-- The entries of a template and the opcodes of a script, position by position. -/
theorem fits_iff_getElem {template : Template} {script : Script} :
    template.fits script = true ↔
      template.length = script.length ∧
        ∀ (p : Nat) (h : p < template.length) (h' : p < script.length),
          template[p] = script[p].opcode ∨
            template[p] = Opcode.pushData4 ∧ script[p].opcode ≤ Opcode.pushData4 := by
  rw [fits_iff_forall₂, List.forall₂_map_right_iff, List.forall₂_iff_get]
  simp only [admits_iff, List.get_eq_getElem]

/-- Data do not matter to a template. -/
theorem fits_congr {template : Template} {script other : Script}
    (h : script.map Instruction.opcode = other.map Instruction.opcode) :
    template.fits script = template.fits other := by
  rw [Bool.eq_iff_iff, fits_iff_forall₂, fits_iff_forall₂, h]

/-! ## Templates that overlap -/

/-- The entries are equal, or one stands for pushes of data and the other is such a push. -/
def EntriesMeet (entry other : Int) : Prop :=
  entry = other ∨ entry = Opcode.pushData4 ∧ other ≤ Opcode.pushData4 ∨
    other = Opcode.pushData4 ∧ entry ≤ Opcode.pushData4

instance (entry other : Int) : Decidable (EntriesMeet entry other) :=
  inferInstanceAs (Decidable (_ ∨ _ ∧ _ ∨ _ ∧ _))

/-- Two templates overlap when they have one length and their entries meet one by one. -/
def Overlaps (template other : Template) : Prop :=
  List.Forall₂ EntriesMeet template other

instance (template other : Template) : Decidable (Overlaps template other) :=
  inferInstanceAs (Decidable (List.Forall₂ _ _ _))

/-- The opcode at which two entries meet: the entry for pushes of data gives way to the other. -/
def meetingOpcode (entry other : Int) : Int :=
  if entry = Opcode.pushData4 then other else entry

/-- The opcodes at which the entries of two templates meet, without data. -/
def meetingScript (template other : Template) : Script :=
  List.zipWith (fun entry other => ⟨meetingOpcode entry other, none⟩) template other

/-- Entries that meet both admit the opcode at which they do. -/
theorem admits_meetingOpcode {entry other : Int} (h : EntriesMeet entry other) :
    admits entry (meetingOpcode entry other) = true ∧
      admits other (meetingOpcode entry other) = true := by
  rw [admits_iff, admits_iff]
  unfold EntriesMeet at h
  unfold meetingOpcode
  split <;> omega

/-- Entries that stand for an opcode in common meet. -/
theorem entriesMeet_of_admits {entry other opcode : Int} (h : admits entry opcode = true)
    (h' : admits other opcode = true) : EntriesMeet entry other := by
  rw [admits_iff] at h h'
  unfold EntriesMeet
  omega

/-- Templates that overlap both fit the script in which they do. -/
theorem fits_meetingScript {template other : Template} (h : Overlaps template other) :
    template.fits (meetingScript template other) = true ∧
      other.fits (meetingScript template other) = true := by
  induction h with
  | nil => exact ⟨rfl, rfl⟩
  | cons hmeet _ ih =>
    obtain ⟨hentry, hother⟩ := admits_meetingOpcode hmeet
    exact ⟨fits_cons_iff.mpr ⟨_, _, rfl, hentry, ih.1⟩, fits_cons_iff.mpr ⟨_, _, rfl, hother, ih.2⟩⟩

/-- Templates that fit one script overlap. -/
theorem overlaps_of_fits {template other : Template} {script : Script}
    (h : template.fits script = true) (h' : other.fits script = true) :
    Overlaps template other := by
  rw [fits_iff_forall₂] at h h'
  -- The induction goes by the opcodes, which are all that the templates look at.
  generalize script.map Instruction.opcode = opcodes at h h'
  induction h generalizing other with
  | nil =>
    rw [List.forall₂_nil_right_iff.mp h']
    exact .nil
  | cons hentry _ ih =>
    obtain ⟨entry', other', hentry', hother', rfl⟩ := List.forall₂_cons_right_iff.mp h'
    exact .cons (entriesMeet_of_admits hentry hentry') (ih hother')

/-- Templates overlap exactly if some script fits both. -/
theorem overlaps_iff {template other : Template} :
    Overlaps template other ↔
      ∃ script : Script, template.fits script = true ∧ other.fits script = true := by
  constructor
  · intro h
    exact ⟨meetingScript template other, fits_meetingScript h⟩
  · rintro ⟨script, h, h'⟩
    exact overlaps_of_fits h h'

/-- A template fits a script exactly if it has an entry for each instruction and each entry is the
opcode at its position, or stands for pushes of data and the opcode is one; data do not matter. Two
templates fit a script in common exactly if they have one length and at each position the entries
are equal, or one stands for pushes of data and the other is such a push. -/
theorem common_script_iff_entries_meet (template other : Template) :
    (∀ script : Script, template.fits script = true ↔
      template.length = script.length ∧
        ∀ (p : Nat) (h : p < template.length) (h' : p < script.length),
          template[p] = script[p].opcode ∨
            template[p] = Opcode.pushData4 ∧ script[p].opcode ≤ Opcode.pushData4) ∧
    (∀ script relabelled : Script,
      script.map Instruction.opcode = relabelled.map Instruction.opcode →
        template.fits script = template.fits relabelled) ∧
    ((∃ script : Script, template.fits script = true ∧ other.fits script = true) ↔
      template.length = other.length ∧
        ∀ (p : Nat) (h : p < template.length) (h' : p < other.length),
          template[p] = other[p] ∨
            template[p] = Opcode.pushData4 ∧ other[p] ≤ Opcode.pushData4 ∨
            other[p] = Opcode.pushData4 ∧ template[p] ≤ Opcode.pushData4) := by
  refine ⟨fun script => fits_iff_getElem, fun script relabelled => fits_congr, ?_⟩
  rw [← overlaps_iff, Overlaps, List.forall₂_iff_get]
  rfl

/-- The entry for pushes of data meets itself, and any push, also one with an opcode below zero. -/
example : Overlaps [78, 78, -1] [78, -1, 78] ∧ ¬ Overlaps [-1] [-2] := by decide

/-! ## The templates of payments -/

/-- The templates that payments are recognised by. -/
def payments : List Template :=
  [keyHash, publicKey, scriptHash, burn]

/-- A script fits the template of one kind of payment at most. -/
theorem eq_of_fits_of_fits {template other : Template} {script : Script}
    (htemplate : template ∈ payments) (hother : other ∈ payments)
    (h : template.fits script = true) (h' : other.fits script = true) : template = other := by
  have hapart : ∀ template ∈ payments, ∀ other ∈ payments,
      Overlaps template other → template = other := by decide
  exact hapart template htemplate other hother (overlaps_of_fits h h')

/-- The scripts that pay to the hash of a key are of five instructions, of which only the push is
free. -/
theorem fits_keyHash_iff {script : Script} :
    keyHash.fits script = true ↔
      ∃ copy digest push compare check : Instruction,
        script = [copy, digest, push, compare, check] ∧ copy.opcode = Opcode.dup ∧
          digest.opcode = Opcode.hash160 ∧ push.opcode ≤ Opcode.pushData4 ∧
          compare.opcode = Opcode.equalVerify ∧ check.opcode = Opcode.checkSig := by
  simp (disch := decide) only [keyHash, fits_cons_iff_of_ne, fits_pushData4_cons_iff, fits_nil_iff]
  constructor
  · rintro ⟨copy, _, rfl, hcopy, digest, _, rfl, hdigest, push, _, rfl, hpush, compare, _, rfl,
      hcompare, check, _, rfl, hcheck, rfl⟩
    exact ⟨copy, digest, push, compare, check, rfl, hcopy, hdigest, hpush, hcompare, hcheck⟩
  · rintro ⟨copy, digest, push, compare, check, rfl, hcopy, hdigest, hpush, hcompare, hcheck⟩
    exact ⟨copy, _, rfl, hcopy, digest, _, rfl, hdigest, push, _, rfl, hpush, compare, _, rfl,
      hcompare, check, _, rfl, hcheck, rfl⟩

/-- The scripts that pay to a key are a push and a check of the signature. -/
theorem fits_publicKey_iff {script : Script} :
    publicKey.fits script = true ↔
      ∃ push check : Instruction,
        script = [push, check] ∧ push.opcode ≤ Opcode.pushData4 ∧
          check.opcode = Opcode.checkSig := by
  simp (disch := decide) only [publicKey, fits_cons_iff_of_ne, fits_pushData4_cons_iff,
    fits_nil_iff]
  constructor
  · rintro ⟨push, _, rfl, hpush, check, _, rfl, hcheck, rfl⟩
    exact ⟨push, check, rfl, hpush, hcheck⟩
  · rintro ⟨push, check, rfl, hpush, hcheck⟩
    exact ⟨push, _, rfl, hpush, check, _, rfl, hcheck, rfl⟩

/-- The scripts that pay to the hash of a script compare the digest with a push of twenty bytes. -/
theorem fits_scriptHash_iff {script : Script} :
    scriptHash.fits script = true ↔
      ∃ digest push compare : Instruction,
        script = [digest, push, compare] ∧ digest.opcode = Opcode.hash160 ∧ push.opcode = 20 ∧
          compare.opcode = Opcode.equal := by
  simp (disch := decide) only [scriptHash, fits_cons_iff_of_ne, fits_nil_iff]
  constructor
  · rintro ⟨digest, _, rfl, hdigest, push, _, rfl, hpush, compare, _, rfl, hcompare, rfl⟩
    exact ⟨digest, push, compare, rfl, hdigest, hpush, hcompare⟩
  · rintro ⟨digest, push, compare, rfl, hdigest, hpush, hcompare⟩
    exact ⟨digest, _, rfl, hdigest, push, _, rfl, hpush, compare, _, rfl, hcompare, rfl⟩

/-- The scripts that burn consist of the instruction that ends them. -/
theorem fits_burn_iff {script : Script} :
    burn.fits script = true ↔ ∃ stop : Instruction, script = [stop] ∧ stop.opcode = Opcode.ret := by
  simp (disch := decide) only [burn, fits_cons_iff_of_ne, fits_nil_iff]
  constructor
  · rintro ⟨stop, _, rfl, hstop, rfl⟩
    exact ⟨stop, rfl, hstop⟩
  · rintro ⟨stop, rfl, hstop⟩
    exact ⟨stop, _, rfl, hstop, rfl⟩

end NameOutputs.Template
