import NameOutputs.Proofs.Commitment

/-!
# Bytes that are read apart

Where bytes are cut in two, the parts need not be read as they are together: in UTF-8 the cut may go
through a sequence. `reads_apart` says where it does no harm. In the charsets of one byte it never
does. In UTF-8 it does none behind bytes that are well-formed, and none in front of a byte that
continues no sequence, whatever the bytes before it are.

The second is the law for bytes that are not well-formed. What stands behind a cut in front of such
a byte cannot complete a sequence that was broken off (`Utf8.extend?_append`), so the same sequences
start before the cut with and without it, and reading starts afresh at the cut itself. The first
needs no more than that characters are read one by one. Bytes below `0x80` are well-formed, so a
name that is pushed with such bytes in front is read as a text that starts with their characters.
-/

namespace NameOutputs

namespace Utf8

/-- The bytes are those of characters, one after the other. -/
def WellFormed (bs : Bytes) : Prop :=
  ∃ t : Text, (∀ c ∈ t, c.isSurrogate = false) ∧ bs = t.flatMap encode

/-- The bytes continue no sequence that stands before them. -/
def Separate (bs : Bytes) : Prop :=
  ∀ b ∈ bs.head?, isTail b = false

variable {b : UInt8} {bs y : Bytes} {c : CodePoint} {tails : Nat}

/-- Bytes stand apart from what is before them if the first cannot continue a sequence. -/
theorem separate_cons_iff : Separate (b :: bs) ↔ ¬ (0x80 ≤ b.toNat ∧ b.toNat ≤ 0xBF) := by
  simp only [Separate, List.head?_cons, Option.mem_some_iff, forall_eq', isTail,
    Bool.and_eq_false_iff, decide_eq_false_iff_not]
  omega

/-- Bytes that continue no sequence add no continuation bytes to one before them. -/
theorem extend?_append (hy : Separate y) (bits tails : Nat) (bs : Bytes) :
    extend? bits tails (bs ++ y) = extend? bits tails bs := by
  induction tails generalizing bits bs with
  | zero => rfl
  | succ tails ih =>
    cases bs with
    | nil =>
      -- A continuation byte is owed, and neither side has one.
      cases y with
      | nil => rfl
      | cons first rest =>
        have hfirst : isTail first = false := hy first rfl
        show (if isTail first then _ else none) = none
        rw [hfirst, if_neg Bool.false_ne_true]
    | cons b bs =>
      rw [List.cons_append, extend?, extend?, ih]

/-- Whether a well-formed sequence starts the bytes does not depend on bytes behind them that
continue none. -/
theorem sequence?_append (hy : Separate y) (b : UInt8) (bs : Bytes) :
    sequence? (b :: bs ++ y) = sequence? (b :: bs) := by
  simp only [List.cons_append, sequence?, extend?_append hy]

/-- The continuation bytes of a well-formed sequence are all there. -/
theorem le_length_of_sequence? (h : sequence? (b :: bs) = some (c, tails)) :
    tails ≤ bs.length := by
  obtain ⟨bits, -, hextend, -⟩ := sequence?_eq_some_iff.mp h
  have htake : tailBytes tails c.code = bs.take tails := (extend?_eq_some hextend).2
  have hlength := congrArg List.length htake
  rw [length_tailBytes, List.length_take] at hlength
  omega

/-- In front of bytes that continue no sequence any bytes are read as they are alone. -/
theorem decode_append_of_separate (x : Bytes) (hy : Separate y) :
    decode (x ++ y) = decode x ++ decode y := by
  induction x using induction_resync with
  | nil => rfl
  | character b bs c tails hsequence ih =>
    have hsequence' : sequence? (b :: (bs ++ y)) = some (c, tails) :=
      (sequence?_append hy b bs).trans hsequence
    -- The sequence ends before the cut, and reading goes on behind it in both.
    have hdrop : (bs ++ y).drop tails = bs.drop tails ++ y :=
      List.drop_append_of_le_length (le_length_of_sequence? hsequence)
    rw [List.cons_append, decode_of_sequence? hsequence', decode_of_sequence? hsequence, hdrop, ih,
      List.cons_append]
  | raw b bs hsequence ih =>
    have hsequence' : sequence? (b :: (bs ++ y)) = none :=
      (sequence?_append hy b bs).trans hsequence
    rw [List.cons_append, decode_of_sequence?_eq_none hsequence',
      decode_of_sequence?_eq_none hsequence, ih, List.cons_append]

/-- The bytes of characters are read as the characters, whatever follows them. -/
theorem decode_flatMap_encode_append {t : Text} (ht : ∀ c ∈ t, c.isSurrogate = false)
    (y : Bytes) : decode (t.flatMap encode ++ y) = t ++ decode y := by
  induction t with
  | nil => rfl
  | cons c t ih =>
    obtain ⟨hc, ht⟩ := List.forall_mem_cons.mp ht
    rw [List.flatMap_cons, List.append_assoc, decode_encode_append hc, ih ht, List.cons_append]

/-- Behind well-formed bytes any bytes are read as they are alone. -/
theorem decode_append_of_wellFormed {x : Bytes} (hx : WellFormed x) (y : Bytes) :
    decode (x ++ y) = decode x ++ decode y := by
  obtain ⟨t, ht, rfl⟩ := hx
  have halone : decode (t.flatMap encode) = t := by
    have h := decode_flatMap_encode_append ht []
    rwa [List.append_nil, decode_nil, List.append_nil] at h
  rw [decode_flatMap_encode_append ht, halone]

/-- A byte below `0x80` is the one that its character is written as. -/
theorem encode_ofByte (hb : b.toNat < 0x80) : encode (.ofByte b) = [b] := by
  rw [encode, CodePoint.code_ofByte, if_pos hb, UInt8.ofNat_toNat]

/-- Bytes below `0x80` are those that their characters are written as. -/
theorem flatMap_encode_map_ofByte {x : Bytes} (hx : ∀ b ∈ x, b.toNat < 0x80) :
    (x.map CodePoint.ofByte).flatMap encode = x := by
  induction x with
  | nil => rfl
  | cons b x ih =>
    obtain ⟨hb, hx⟩ := List.forall_mem_cons.mp hx
    rw [List.map_cons, List.flatMap_cons, encode_ofByte hb, ih hx, List.singleton_append]

end Utf8

/-- Bytes below `0x80` are read as the characters of their numbers under every charset, whatever
follows them. -/
theorem Charset.decode_append_of_lt (charset : Charset) {x : Bytes}
    (hx : ∀ b ∈ x, b.toNat < 0x80) (y : Bytes) :
    charset.decode (x ++ y) = x.map .ofByte ++ charset.decode y := by
  cases charset with
  | latin1 => exact List.map_append
  | ascii =>
    have hfront : ascii.decode x = x.map .ofByte :=
      List.map_congr_left fun b hb => if_pos (hx b hb)
    rw [← hfront]
    exact List.map_append
  | utf8 =>
    have hcharacters : ∀ c ∈ x.map CodePoint.ofByte, c.isSurrogate = false := by
      intro c hc
      obtain ⟨b, -, rfl⟩ := List.mem_map.mp hc
      exact CodePoint.isSurrogate_ofByte b
    have h := Utf8.decode_flatMap_encode_append hcharacters y
    rwa [Utf8.flatMap_encode_map_ofByte hx] at h

/-- The name of an operation is the first of its arguments. -/
theorem Operation.exists_args_of_name {operation : Operation} {name : Text}
    (h : operation.part? .name = some name) : ∃ rest, operation.args = name :: rest := by
  cases operation with
  | new => cases h
  | firstUpdate first salt value =>
    obtain rfl := Option.some.inj h
    exact ⟨[salt, value], rfl⟩
  | update first value =>
    obtain rfl := Option.some.inj h
    exact ⟨[value], rfl⟩

/-- The name of a parsed operation is the text of the data behind the head. -/
theorem Descriptor.exists_name_of_parse {Source : Type} {charset : Charset} {pair : ScriptPair}
    {source : Source} {d : Descriptor Source} {name : Text}
    (h : parse (.known charset) pair source = .ok d) (hname : d.operation.part? .name = some name) :
    ∃ i : Instruction, pair.locking[1]? = some i ∧ name = charset.decode (i.data.getD []) := by
  obtain ⟨operation, head, arguments, rest, rfl, hlocking, -, hargs⟩ := exists_arguments_of_parse h
  obtain ⟨others, hothers⟩ := Operation.exists_args_of_name hname
  rw [hargs] at hothers
  obtain ⟨i, _, rfl, htext, -⟩ := List.map_eq_cons_iff.mp hothers
  exact ⟨i, by rw [hlocking]; rfl, htext.symm⟩

namespace Encoding

/-- The bytes in front and those behind them are read as they are alone. -/
def ReadsApart (encoding : Encoding) (x y : Bytes) : Prop :=
  ∃ front back, encoding.read (some x) = .ok front ∧ encoding.read (some y) = .ok back ∧
    encoding.read (some (x ++ y)) = .ok (front ++ back)

/-- Under a charset, bytes are read apart where their texts are joined by joining them. -/
theorem readsApart_known {charset : Charset} {x y : Bytes}
    (h : charset.decode (x ++ y) = charset.decode x ++ charset.decode y) :
    (known charset).ReadsApart x y := by
  refine ⟨_, _, read_known charset (some x), read_known charset (some y), ?_⟩
  rw [read_known]
  exact congrArg Except.ok h

/-- Bytes are read apart in Latin-1 and in ASCII, and in UTF-8 if those in front are well-formed or
those behind do not start with a continuation byte. In particular, if those in front are below
`0x80`, their characters come first in the text of all of them, under every charset, and so they do
in a name that is pushed as these bytes. -/
theorem reads_apart (x y : Bytes) :
    (known .latin1).ReadsApart x y ∧ (known .ascii).ReadsApart x y ∧
      (Utf8.WellFormed x ∨ y = [] ∨
          (∃ b rest, y = b :: rest ∧ ¬ (0x80 ≤ b.toNat ∧ b.toNat ≤ 0xBF)) →
        (known .utf8).ReadsApart x y) ∧
      ((∀ b ∈ x, b.toNat < 0x80) → ∀ charset : Charset,
        (∃ t, (known charset).read (some (x ++ y)) = .ok t ∧ x.map CodePoint.ofByte <+: t) ∧
          ∀ {Source : Type} (pair : ScriptPair) (source : Source) (d : Descriptor Source) name i,
            Descriptor.parse (known charset) pair source = .ok d →
            d.operation.part? .name = some name →
            pair.locking[1]? = some i → i.data.getD [] = x ++ y →
            x.map CodePoint.ofByte <+: name) := by
  refine ⟨readsApart_known List.map_append, readsApart_known List.map_append, ?_, ?_⟩
  · rintro (hx | hy | ⟨b, rest, hy, hb⟩)
    · exact readsApart_known (Utf8.decode_append_of_wellFormed hx y)
    · have hseparate : Utf8.Separate y := by
        rw [hy]
        exact nofun
      exact readsApart_known (Utf8.decode_append_of_separate x hseparate)
    · have hseparate : Utf8.Separate y := by
        rw [hy]
        exact Utf8.separate_cons_iff.mpr hb
      exact readsApart_known (Utf8.decode_append_of_separate x hseparate)
  · -- Bytes below `0x80` are cut off without harm under each charset.
    intro hx charset
    have hdecode := charset.decode_append_of_lt hx y
    have hfront : x.map CodePoint.ofByte <+: charset.decode (x ++ y) := by
      rw [hdecode]
      exact List.prefix_append _ _
    refine ⟨⟨_, read_known charset (some (x ++ y)), hfront⟩, ?_⟩
    intro Source pair source d name i hparse hname hi hdata
    obtain ⟨pushed, hpushed, rfl⟩ := Descriptor.exists_name_of_parse hparse hname
    obtain rfl := Option.some.inj (hi.symm.trans hpushed)
    rwa [hdata]

/-- A sequence that is broken off takes nothing from what follows it, but for a byte that could
continue it. -/
example : (known .utf8).read (some ([0xE2, 0x82] ++ [0x64, 0x2F])) =
      .ok [.ofRawByte 0xE2, .ofRawByte 0x82, .ofByte 0x64, .ofByte 0x2F] ∧
    (known .utf8).read (some ([0xC3] ++ [0xA9])) = .ok [.ofByte 0xE9] :=
  ⟨rfl, rfl⟩

end Encoding

end NameOutputs
