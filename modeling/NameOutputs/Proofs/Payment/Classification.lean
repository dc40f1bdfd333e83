import NameOutputs.Proofs.Payment.Shape
import NameOutputs.Proofs.Payment.Template

/-!
# Payments by their shapes

`ofScript_classifies_by_shape` shows that a script pays as its shape says, and is unknown as a whole
if it has none.

Each test finds the scripts of its own shape and no others, with what they pay to
(`hasShape_of_mem_shapeTests`, `HasShape.exists_test`). A script has one shape at most, so whichever
test is tried first, the answer is the one that the shape gives (`findSome?_eq_some_iff_of_perm`).
-/

namespace NameOutputs.Payment

/-- The number that an opcode pushes is its distance from the opcode before that of one. -/
theorem smallNumber?_eq_some_iff {opcode : Int} {n : Nat} :
    smallNumber? opcode = some n ↔
      Opcode.one ≤ opcode ∧ opcode ≤ Opcode.sixteen ∧ opcode = Opcode.one + n - 1 := by
  unfold smallNumber?
  simp only [Opcode.one, Opcode.sixteen]
  split
  · rw [Option.some.injEq]
    omega
  · simp only [reduceCtorEq, false_iff]
    omega

/-- The scripts that pay to the holders of several keys. -/
theorem multisig?_eq_some_iff {script : Script} {payment : Payment} :
    multisig? script = some payment ↔
      ∃ (head count check : Instruction) (keys : Script) (required : Nat),
        script = head :: (keys ++ [count, check]) ∧
          smallNumber? head.opcode = some required ∧
          smallNumber? count.opcode = some keys.length ∧
          check.opcode = Opcode.checkMultisig ∧
          required ≤ keys.length ∧ keys.length ≤ maxKeys ∧
          (∀ i ∈ keys, i.pushesData = true) ∧
          payment = multisig required (keys.map fun i => i.data.getD []) := by
  constructor
  · intro h
    unfold multisig? at h
    split at h
    · cases h
    · next head rest =>
      -- The last two are read off the reversed rest, so the keys come reversed as well.
      split at h
      · next check count reversedKeys hrest =>
        obtain ⟨required, hrequired, h⟩ := Option.bind_eq_some_iff.mp h
        obtain ⟨number, hnumber, h⟩ := Option.bind_eq_some_iff.mp h
        split at h
        · next hcond =>
          obtain ⟨hcheck, hle, hmax, rfl, hkeys⟩ := hcond
          cases h
          have hrest' : rest = reversedKeys.reverse ++ [count, check] := by
            rw [← List.reverse_reverse rest, hrest]
            simp
          refine ⟨head, count, check, reversedKeys.reverse, required, by rw [hrest'], hrequired, ?_⟩
          simp only [List.length_reverse, List.mem_reverse]
          exact ⟨hnumber, hcheck, hle, hmax, List.all_eq_true.mp hkeys, trivial⟩
        · cases h
      · cases h
  · rintro ⟨head, count, check, keys, required, rfl, hrequired, hnumber, hcheck, hle, hmax, hkeys,
      rfl⟩
    have hrest : (keys ++ [count, check]).reverse = check :: count :: keys.reverse := by simp
    unfold multisig?
    simp only [hrest, hrequired, hnumber, Option.bind_eq_bind, Option.bind_some]
    rw [List.all_reverse, List.reverse_reverse, List.length_reverse]
    exact if_pos ⟨hcheck, hle, hmax, rfl, List.all_eq_true.mpr hkeys⟩

/-- What the test of a shape with a template gives is known of the script by the template. -/
theorem fits_of_ite_eq_some {template : Template} {script : Script} {found : Option Payment}
    {payment : Payment} (h : (if template.fits script then found else none) = some payment) :
    template.fits script = true ∧ found = some payment := by
  split at h
  · next hfits => exact ⟨hfits, h⟩
  · cases h

/-- The tests for the five shapes. -/
def shapeTests : List (Script → Option Payment) :=
  [keyHash?, publicKey?, scriptHash?, burn?, multisig?]

/-- A script is known as the first test says that finds its shape. -/
theorem known?_eq_findSome? (script : Script) :
    known? script = shapeTests.findSome? fun test => test script := by
  simp only [known?, shapeTests, List.findSome?]
  cases keyHash? script <;> cases publicKey? script <;> cases scriptHash? script <;>
    cases burn? script <;> cases multisig? script <;> rfl

/-- The hash at a position is the data there, if these are as long as a hash. -/
theorem hashAt?_eq_some_iff {script : Script} {position : Nat} {hash : Bytes} :
    hashAt? script position = some hash ↔
      dataAt? script position = some hash ∧ hash.length = hashLength := by
  unfold hashAt?
  rw [Option.filter_eq_some_iff, decide_eq_true_eq]

/-- What a test finds is the shape of the script. -/
theorem hasShape_of_mem_shapeTests {test : Script → Option Payment} {script : Script}
    {payment : Payment} (htest : test ∈ shapeTests) (h : test script = some payment) :
    HasShape script payment := by
  simp only [shapeTests, List.mem_cons, List.not_mem_nil, or_false] at htest
  rcases htest with rfl | rfl | rfl | rfl | rfl
  · obtain ⟨hfits, h⟩ := fits_of_ite_eq_some h
    obtain ⟨copy, digest, push, compare, check, rfl, hcopy, hdigest, hpush, hcompare, hcheck⟩ :=
      Template.fits_keyHash_iff.mp hfits
    obtain ⟨hash, hhash, rfl⟩ := Option.map_eq_some_iff.mp h
    obtain ⟨hdata, hlength⟩ := hashAt?_eq_some_iff.mp hhash
    exact .keyHash hcopy hdigest hpush hdata hlength hcompare hcheck
  · obtain ⟨hfits, h⟩ := fits_of_ite_eq_some h
    obtain ⟨push, check, rfl, hpush, hcheck⟩ := Template.fits_publicKey_iff.mp hfits
    obtain ⟨key, hdata, rfl⟩ := Option.map_eq_some_iff.mp h
    exact .publicKey hpush hdata hcheck
  · obtain ⟨hfits, h⟩ := fits_of_ite_eq_some h
    obtain ⟨digest, push, compare, rfl, hdigest, hpush, hcompare⟩ :=
      Template.fits_scriptHash_iff.mp hfits
    obtain ⟨hash, hhash, rfl⟩ := Option.map_eq_some_iff.mp h
    obtain ⟨hdata, hlength⟩ := hashAt?_eq_some_iff.mp hhash
    exact .scriptHash hdigest hpush hdata hlength hcompare
  · obtain ⟨hfits, hburn⟩ := fits_of_ite_eq_some h
    obtain ⟨stop, rfl, hstop⟩ := Template.fits_burn_iff.mp hfits
    obtain rfl := Option.some.inj hburn
    exact .burn hstop
  · obtain ⟨head, count, check, keys, required, rfl, hrequired, hcount, hcheck, hle, hmax, hkeys,
      rfl⟩ := multisig?_eq_some_iff.mp h
    obtain ⟨hone, -, hhead⟩ := smallNumber?_eq_some_iff.mp hrequired
    obtain ⟨-, -, hcount⟩ := smallNumber?_eq_some_iff.mp hcount
    refine .multisig rfl hhead (fun key hkey => decide_eq_true_eq.mp (hkeys key hkey)) hcount hcheck
      ?_ hle hmax
    omega

/-- The shape of a script is found by a test. -/
theorem HasShape.exists_test {script : Script} {payment : Payment} (h : HasShape script payment) :
    ∃ test ∈ shapeTests, test script = some payment := by
  cases h with
  | @keyHash copy digest push compare check hash hcopy hdigest hpush hdata hlength hcompare
      hcheck =>
    have hfits : Template.keyHash.fits [copy, digest, push, compare, check] = true :=
      Template.fits_keyHash_iff.mpr
        ⟨copy, digest, push, compare, check, rfl, hcopy, hdigest, hpush, hcompare, hcheck⟩
    have hhash : hashAt? [copy, digest, push, compare, check] 2 = some hash :=
      hashAt?_eq_some_iff.mpr ⟨hdata, hlength⟩
    exact ⟨keyHash?, by simp [shapeTests], by rw [keyHash?, if_pos hfits, hhash]; rfl⟩
  | @publicKey push check key hpush hdata hcheck =>
    have hfits : Template.publicKey.fits [push, check] = true :=
      Template.fits_publicKey_iff.mpr ⟨push, check, rfl, hpush, hcheck⟩
    have hkey : dataAt? [push, check] 0 = some key := hdata
    exact ⟨publicKey?, by simp [shapeTests], by rw [publicKey?, if_pos hfits, hkey]; rfl⟩
  | @scriptHash digest push compare hash hdigest hpush hdata hlength hcompare =>
    have hfits : Template.scriptHash.fits [digest, push, compare] = true :=
      Template.fits_scriptHash_iff.mpr ⟨digest, push, compare, rfl, hdigest, hpush, hcompare⟩
    have hhash : hashAt? [digest, push, compare] 1 = some hash :=
      hashAt?_eq_some_iff.mpr ⟨hdata, hlength⟩
    exact ⟨scriptHash?, by simp [shapeTests], by rw [scriptHash?, if_pos hfits, hhash]; rfl⟩
  | @burn stop hstop =>
    have hfits : Template.burn.fits [stop] = true :=
      Template.fits_burn_iff.mpr ⟨stop, rfl, hstop⟩
    exact ⟨burn?, by simp [shapeTests], by rw [burn?, if_pos hfits]⟩
  | @multisig head count check keys _ required hscript hhead hkeys hcount hcheck hone hle hmax =>
    have hsmall : Opcode.one + (maxKeys : Int) - 1 ≤ Opcode.sixteen := by decide
    have hrequired : smallNumber? head.opcode = some required :=
      smallNumber?_eq_some_iff.mpr ⟨by omega, by omega, hhead⟩
    have hnumber : smallNumber? count.opcode = some keys.length :=
      smallNumber?_eq_some_iff.mpr ⟨by omega, by omega, hcount⟩
    refine ⟨multisig?, by simp [shapeTests], multisig?_eq_some_iff.mpr ?_⟩
    exact ⟨head, count, check, keys, required, hscript, hrequired, hnumber, hcheck, hle, hmax,
      fun key hkey => decide_eq_true (hkeys key hkey), rfl⟩

/-- In whichever order the tests are tried, they find the shape of the script. -/
theorem findSome?_eq_some_iff_of_perm {tests : List (Script → Option Payment)}
    (htests : tests.Perm shapeTests) {script : Script} {payment : Payment} :
    (tests.findSome? fun test => test script) = some payment ↔ HasShape script payment := by
  have hsound : ∀ found, (tests.findSome? fun test => test script) = some found →
      HasShape script found := by
    intro found hfound
    obtain ⟨test, htest, hfound⟩ := List.exists_of_findSome?_eq_some hfound
    exact hasShape_of_mem_shapeTests (htests.mem_iff.mp htest) hfound
  refine ⟨hsound payment, fun h => ?_⟩
  obtain ⟨test, htest, hpayment⟩ := h.exists_test
  cases hfound : tests.findSome? fun test => test script with
  | none =>
    have hnone := List.findSome?_eq_none_iff.mp hfound test (htests.mem_iff.mpr htest)
    cases hnone.symm.trans hpayment
  | some found => rw [(hsound found hfound).eq h]

/-- A script is known to pay as its shape says. -/
theorem known?_eq_some_iff {script : Script} {payment : Payment} :
    known? script = some payment ↔ HasShape script payment := by
  rw [known?_eq_findSome?]
  exact findSome?_eq_some_iff_of_perm (List.Perm.refl shapeTests)

/-- A script is known exactly when it has a shape. -/
theorem ofScript_eq_iff_of_isKnown {script : Script} {payment : Payment}
    (h : payment.isKnown = true) : ofScript script = payment ↔ HasShape script payment := by
  rw [← known?_eq_some_iff]
  unfold ofScript
  cases hknown : known? script with
  | none =>
    simp only [Option.getD_none, reduceCtorEq, iff_false]
    rintro rfl
    cases h
  | some found => simp

/-- A script that is no known payment is unknown as a whole. -/
theorem ofScript_of_not_isKnown {script : Script} (h : ¬ (ofScript script).isKnown = true) :
    ofScript script = unknown script := by
  unfold ofScript at h ⊢
  cases hknown : known? script with
  | none => rfl
  | some payment =>
    rw [hknown] at h
    exact absurd (known?_eq_some_iff.mp hknown).isKnown h

/-- A script that is a payment of a known kind starts with pushes up to an instruction that is
other. -/
theorem pushesUpToOther_of_isKnown {script : Script} (h : (ofScript script).isKnown = true) :
    PushesUpToOther script :=
  ((ofScript_eq_iff_of_isKnown h).mp rfl).pushesUpToOther

/-- A script without a shape is unknown as a whole. -/
theorem ofScript_of_forall_not_hasShape {script : Script}
    (h : ∀ payment, ¬ HasShape script payment) : ofScript script = unknown script := by
  refine ofScript_of_not_isKnown fun hknown => ?_
  exact h _ ((ofScript_eq_iff_of_isKnown hknown).mp rfl)

/-- The unknown part of a script is all of it, and there is one if the script has no shape. -/
theorem ofScript_eq_unknown_iff {script part : Script} :
    ofScript script = unknown part ↔ part = script ∧ ∀ payment, ¬ HasShape script payment := by
  constructor
  · intro h
    have hshape : ∀ payment, ¬ HasShape script payment := by
      intro payment hpayment
      have hknown := (ofScript_eq_iff_of_isKnown hpayment.isKnown).mpr hpayment
      rw [← hknown, h] at hpayment
      cases hpayment.isKnown
    rw [ofScript_of_forall_not_hasShape hshape] at h
    exact ⟨(unknown.inj h).symm, hshape⟩
  · rintro ⟨rfl, hshape⟩
    exact ofScript_of_forall_not_hasShape hshape

/-- The opcodes of a payment to a hash of a key make no other payment. -/
theorem ofScript_of_fits_keyHash {script : Script} (hfits : Template.keyHash.fits script = true)
    (hhash : hashAt? script 2 = none) : ofScript script = unknown script := by
  obtain ⟨copy, digest, push, compare, check, rfl, hcopy, -⟩ := Template.fits_keyHash_iff.mp hfits
  refine ofScript_of_forall_not_hasShape fun payment hshape => ?_
  have hmultisig := hshape.isMultisig_iff
  cases hshape with
  | keyHash _ _ _ hdata hlength =>
    cases hhash.symm.trans (hashAt?_eq_some_iff.mpr ⟨hdata, hlength⟩)
  | multisig => exact (hmultisig.mp rfl).2 (congrArg some hcopy)

/-- The opcodes of a payment to a key make no other payment. -/
theorem ofScript_of_fits_publicKey {script : Script}
    (hfits : Template.publicKey.fits script = true) (hkey : dataAt? script 0 = none) :
    ofScript script = unknown script := by
  obtain ⟨push, check, rfl, -⟩ := Template.fits_publicKey_iff.mp hfits
  refine ofScript_of_forall_not_hasShape fun payment hshape => ?_
  have hmultisig := hshape.isMultisig_iff
  cases hshape with
  | publicKey _ hdata => cases hkey.symm.trans hdata
  | multisig =>
    have hlength : 4 ≤ 2 := (hmultisig.mp rfl).1
    omega

/-- The opcodes of a payment to a hash of a script make no other payment. -/
theorem ofScript_of_fits_scriptHash {script : Script}
    (hfits : Template.scriptHash.fits script = true) (hhash : hashAt? script 1 = none) :
    ofScript script = unknown script := by
  obtain ⟨digest, push, compare, rfl, -⟩ := Template.fits_scriptHash_iff.mp hfits
  refine ofScript_of_forall_not_hasShape fun payment hshape => ?_
  have hmultisig := hshape.isMultisig_iff
  cases hshape with
  | scriptHash _ _ hdata hlength =>
    cases hhash.symm.trans (hashAt?_eq_some_iff.mpr ⟨hdata, hlength⟩)
  | multisig =>
    have hlength : 4 ≤ 3 := (hmultisig.mp rfl).1
    omega

/-- Every script has a payment: of each known kind exactly if the script has that shape, and else
the script as a whole, unknown. No script has two shapes, so the tests give the same in any order,
and the opcodes of a template whose data cannot be used leave the script unknown. -/
theorem ofScript_classifies_by_shape (script : Script) :
    (∀ payment : Payment, payment.isKnown = true →
      (ofScript script = payment ↔ HasShape script payment)) ∧
      (∀ part : Script, ofScript script = unknown part ↔
        part = script ∧ ∀ payment, ¬ HasShape script payment) ∧
      (∀ payment other : Payment, HasShape script payment → HasShape script other →
        payment = other) ∧
      (∀ tests : List (Script → Option Payment), tests.Perm shapeTests →
        (tests.findSome? fun test => test script).getD (unknown script) = ofScript script) ∧
      (Template.keyHash.fits script = true → hashAt? script 2 = none →
        ofScript script = unknown script) ∧
      (Template.publicKey.fits script = true → dataAt? script 0 = none →
        ofScript script = unknown script) ∧
      (Template.scriptHash.fits script = true → hashAt? script 1 = none →
        ofScript script = unknown script) := by
  refine ⟨fun payment => ofScript_eq_iff_of_isKnown, fun part => ofScript_eq_unknown_iff,
    fun payment other => HasShape.eq, ?_, ofScript_of_fits_keyHash, ofScript_of_fits_publicKey,
    ofScript_of_fits_scriptHash⟩
  intro tests htests
  have hknown : (tests.findSome? fun test => test script) = known? script :=
    Option.ext fun payment =>
      (findSome?_eq_some_iff_of_perm htests).trans known?_eq_some_iff.symm
  rw [hknown]
  rfl

end NameOutputs.Payment
