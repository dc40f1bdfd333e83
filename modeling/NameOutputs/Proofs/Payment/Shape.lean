import NameOutputs.Proofs.Instruction

/-!
# The shapes of known payments

`HasShape` says of each of the five shapes which scripts have it and what they pay to. It goes by
the instructions of the script and not by how a shape is found. A script has one shape at most
(`HasShape.eq`): the shapes of a fixed number of instructions differ in that number, and the payment
to several keys differs from the long one of them in its first opcode.

Each shape is a run of pushes, which may be empty, up to an instruction that neither pushes nor
drops (`HasShape.pushesUpToOther`), and so is what each but the shortest has behind its first
instruction. So no drop stands before the first such instruction, which is what the search for a
payment behind a name operation goes by.
-/

namespace NameOutputs.Payment

/-- The payment is of a kind that is known. -/
def isKnown : Payment → Bool
  | unknown _ => false
  | _ => true

/-- The known kinds are those of another number than that of the unknown payments. -/
theorem isKnown_iff_code_ne (payment : Payment) :
    payment.isKnown = true ↔ payment.code ≠ (unknown []).code := by
  cases payment <;> simp [isKnown, code]

/-- The script has one of the five shapes, and what it pays to is the payment. -/
inductive HasShape : Script → Payment → Prop
  /-- A push of a hash, between what takes the hash of a key and what compares the two. -/
  | keyHash {copy digest push compare check : Instruction} {hash : Bytes} :
    copy.opcode = Opcode.dup → digest.opcode = Opcode.hash160 →
    push.opcode ≤ Opcode.pushData4 → push.data = some hash → hash.length = hashLength →
    compare.opcode = Opcode.equalVerify → check.opcode = Opcode.checkSig →
    HasShape [copy, digest, push, compare, check] (.keyHash hash)
  /-- A push of a key, and the check of a signature. -/
  | publicKey {push check : Instruction} {key : Bytes} :
    push.opcode ≤ Opcode.pushData4 → push.data = some key → check.opcode = Opcode.checkSig →
    HasShape [push, check] (.publicKey key)
  /-- A hash pushed by the opcode of its length, between what takes the hash of a script and what
  compares the two. -/
  | scriptHash {digest push compare : Instruction} {hash : Bytes} :
    digest.opcode = Opcode.hash160 → push.opcode = 20 → push.data = some hash →
    hash.length = hashLength → compare.opcode = Opcode.equal →
    HasShape [digest, push, compare] (.scriptHash hash)
  /-- The one instruction that fails. -/
  | burn {stop : Instruction} : stop.opcode = Opcode.ret → HasShape [stop] .burn
  /-- The number of keys required, the keys, their number, and the check of the signatures. -/
  | multisig {head count check : Instruction} {keys script : Script} {required : Nat} :
    script = head :: (keys ++ [count, check]) →
    head.opcode = Opcode.one + required - 1 → (∀ key ∈ keys, key.opcode ≤ Opcode.pushData4) →
    count.opcode = Opcode.one + keys.length - 1 → check.opcode = Opcode.checkMultisig →
    1 ≤ required → required ≤ keys.length → keys.length ≤ maxKeys →
    HasShape script (.multisig required (keys.map fun key => key.data.getD []))

/-- A payment with a shape is known. -/
theorem HasShape.isKnown {script : Script} {payment : Payment} (h : HasShape script payment) :
    payment.isKnown = true := by
  cases h <;> rfl

/-- The payment is to the holders of several keys. -/
def isMultisig : Payment → Bool
  | multisig .. => true
  | _ => false

/-- A payment to several keys is told from the other shapes by its length and its first opcode. -/
theorem HasShape.isMultisig_iff {script : Script} {payment : Payment}
    (h : HasShape script payment) :
    payment.isMultisig = true ↔
      4 ≤ script.length ∧ script.head?.map Instruction.opcode ≠ some Opcode.dup := by
  cases h with
  | keyHash hcopy => simp [isMultisig, hcopy]
  | publicKey => simp [isMultisig]
  | scriptHash => simp [isMultisig]
  | burn => simp [isMultisig]
  | @multisig head count check keys _ required hscript hhead _ _ _ hone hle hmax =>
    subst hscript
    have hne : head.opcode ≠ Opcode.dup := by
      simp only [maxKeys, Opcode.one, Opcode.dup] at *
      omega
    have hlength : 4 ≤ (head :: (keys ++ [count, check])).length := by
      simp only [List.length_cons, List.length_append, List.length_nil]
      omega
    exact iff_of_true rfl ⟨hlength, by simpa using hne⟩

/-- A script has one shape at most, and pays to one payment by it. -/
theorem HasShape.eq {script : Script} {payment other : Payment} (h : HasShape script payment)
    (h' : HasShape script other) : payment = other := by
  have hmultisig := h.isMultisig_iff.trans h'.isMultisig_iff.symm
  cases h with
  | keyHash _ _ _ hdata =>
    cases h' with
    | keyHash _ _ _ hdata' => rw [Option.some.inj (hdata.symm.trans hdata')]
    | multisig => cases hmultisig.mpr rfl
  | publicKey _ hdata =>
    cases h' with
    | publicKey _ hdata' => rw [Option.some.inj (hdata.symm.trans hdata')]
    | multisig => cases hmultisig.mpr rfl
  | scriptHash _ _ hdata =>
    cases h' with
    | scriptHash _ _ hdata' => rw [Option.some.inj (hdata.symm.trans hdata')]
    | multisig => cases hmultisig.mpr rfl
  | burn =>
    cases h' with
    | burn => rfl
    | multisig => cases hmultisig.mpr rfl
  | @multisig head _ _ keys _ required hscript hhead =>
    cases h' with
    | @multisig head' _ _ keys' _ required' hscript' hhead' =>
      obtain ⟨rfl, hrest⟩ := List.cons.inj (hscript.symm.trans hscript')
      obtain ⟨rfl, -⟩ := List.append_inj' hrest rfl
      have hrequired : required = required' := by omega
      rw [hrequired]
    | _ => cases hmultisig.mp rfl

/-- A script starts with pushes, which may be none, up to an instruction that is other. -/
def PushesUpToOther (script : Script) : Prop :=
  ∃ (front : Script) (i : Instruction) (rest : Script),
    script = front ++ i :: rest ∧ (∀ j ∈ front, j.IsPush) ∧ i.IsOther

/-- No push need stand before another instruction. -/
theorem pushesUpToOther_of_isOther {i : Instruction} (h : i.IsOther) (rest : Script) :
    PushesUpToOther (i :: rest) :=
  ⟨[], i, rest, rfl, by simp, h⟩

/-- One more push may stand in front. -/
theorem PushesUpToOther.cons {i : Instruction} {script : Script} (h : i.IsPush)
    (hscript : PushesUpToOther script) : PushesUpToOther (i :: script) := by
  obtain ⟨front, j, rest, rfl, hfront, hj⟩ := hscript
  exact ⟨i :: front, j, rest, rfl, List.forall_mem_cons.mpr ⟨h, hfront⟩, hj⟩

/-- Any number of pushes may stand in front. -/
theorem PushesUpToOther.append {front script : Script} (h : ∀ i ∈ front, i.IsPush)
    (hscript : PushesUpToOther script) : PushesUpToOther (front ++ script) := by
  induction front with
  | nil => exact hscript
  | cons i front ih =>
    rw [List.forall_mem_cons] at h
    exact (ih h.2).cons h.1

/-- The opcodes that end the pushes of the known shapes. -/
def endingOpcodes : List Int :=
  [Opcode.ret, Opcode.dup, Opcode.hash160, Opcode.checkSig, Opcode.checkMultisig]

/-- The opcodes that end the shapes neither push nor drop. -/
theorem isOther_of_mem_endingOpcodes {i : Instruction} (h : i.opcode ∈ endingOpcodes) :
    i.IsOther := by
  simp only [endingOpcodes, List.mem_cons, List.not_mem_nil, or_false] at h
  change i.opcode = 106 ∨ i.opcode = 118 ∨ i.opcode = 169 ∨ i.opcode = 172 ∨ i.opcode = 174 at h
  unfold Instruction.IsOther
  rw [Instruction.isPush_iff, Instruction.isDrop_iff]
  omega

/-- Behind the first instruction, each shape but that of a burn has pushes up to an instruction that
is other. -/
theorem HasShape.pushesUpToOther_tail {script : Script} {payment : Payment}
    (h : HasShape script payment) (hburn : payment ≠ .burn) : PushesUpToOther script.tail := by
  cases h with
  | @keyHash _ digest _ _ _ _ _ hdigest =>
    have hother : digest.IsOther := isOther_of_mem_endingOpcodes (by rw [hdigest]; decide)
    exact pushesUpToOther_of_isOther hother _
  | @publicKey _ check _ _ _ hcheck =>
    have hother : check.IsOther := isOther_of_mem_endingOpcodes (by rw [hcheck]; decide)
    exact pushesUpToOther_of_isOther hother _
  | @scriptHash _ push compare _ _ hpush _ _ hcompare =>
    have hother : compare.IsOther := by
      unfold Instruction.IsOther
      rw [Instruction.isPush_iff, Instruction.isDrop_iff, hcompare]
      decide
    have hpush : push.IsPush := .inl (by rw [hpush]; decide)
    exact (pushesUpToOther_of_isOther hother _).cons hpush
  | burn => exact absurd rfl hburn
  | @multisig head count check keys _ required hscript _ hkeys hcount hcheck hone hle hmax =>
    have hother : check.IsOther := isOther_of_mem_endingOpcodes (by rw [hcheck]; decide)
    have hcount : count.IsPush := by
      rw [Instruction.isPush_iff, hcount]
      simp only [maxKeys, Opcode.one] at *
      omega
    subst hscript
    exact ((pushesUpToOther_of_isOther hother []).cons hcount).append fun key hkey =>
      .inl (hkeys key hkey)

/-- A script with a shape has nothing but pushes before the first instruction that is no push or
drop. -/
theorem HasShape.pushesUpToOther {script : Script} {payment : Payment}
    (h : HasShape script payment) : PushesUpToOther script := by
  have htail := h.pushesUpToOther_tail
  cases h with
  | @keyHash copy _ _ _ _ _ hcopy =>
    have hother : copy.IsOther := isOther_of_mem_endingOpcodes (by rw [hcopy]; decide)
    exact pushesUpToOther_of_isOther hother _
  | publicKey hpush => exact (htail (by simp)).cons (.inl hpush)
  | @scriptHash digest _ _ _ hdigest =>
    have hother : digest.IsOther := isOther_of_mem_endingOpcodes (by rw [hdigest]; decide)
    exact pushesUpToOther_of_isOther hother _
  | @burn stop hstop =>
    have hother : stop.IsOther := isOther_of_mem_endingOpcodes (by rw [hstop]; decide)
    exact pushesUpToOther_of_isOther hother _
  | @multisig head _ _ keys _ required hscript hhead _ _ _ hone hle hmax =>
    have hpush : head.IsPush := by
      rw [Instruction.isPush_iff, hhead]
      simp only [maxKeys, Opcode.one] at *
      omega
    subst hscript
    exact (htail (by simp)).cons hpush

end NameOutputs.Payment
