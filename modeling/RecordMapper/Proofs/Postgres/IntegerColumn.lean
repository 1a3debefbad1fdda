import RecordMapper.Postgres.Bind
import RecordMapper.Postgres.Decode
import RecordMapper.Proofs.Cast.BigInteger
import RecordMapper.Proofs.Json.Text
import RecordMapper.Proofs.Outcome
import RecordMapper.Proofs.RowImage.Key

/-!
Integers in columns of integers. A parameter of two, four or eight bytes takes an integer when it
fits and refuses it when it does not, whether it is given as an integer or as a text; nothing is
wrapped round. Where a type takes both an integer and its decimal text, they are the same bytes.
-/

namespace RecordMapper

theorem IntegerRange.narrow_eq_ok_iff {range : IntegerRange} {i j : Int} :
    range.narrow i = .ok j ↔ range.Holds i ∧ i = j := by
  unfold narrow Holds
  split
  · simp; omega
  · split
    · simp; omega
    · simp; omega

theorem RowImage.values_of_digits {image : RowImage} {column : Column} {i : Int64}
    (hcast : column.cast = ColumnType.bigInt.caster)
    (hmember : image.snapshot.get? column.member = some (.string (SqlValue.intText i))) :
    image.columnValue column = .int i ∧ image.keyValue column = .text (SqlValue.intText i) := by
  have hvalue : image.snapshot.value? column.member = some (.string (SqlValue.intText i)) := by
    rw [Snapshot.value?, hmember]
    rfl
  have hfits : FitsInt64 i.toInt := ⟨i.le_toInt, i.toInt_lt⟩
  have hread : Cast.textToBigInt (intDigits i.toInt) = some i.toInt := by
    apply Cast.textToBigInt_intDigits (Cast.holds_of_fitsWord _)
    omega
  have hscalar : ColumnType.bigIntScalar i.toInt = .int i := by
    rw [ColumnType.bigIntScalar, if_pos hfits, Int64.ofInt_toInt]
  constructor
  · rw [columnValue, hvalue, hcast, Option.bind_some, ColumnType.caster, ColumnType.cast,
      Cast.toBigInt, SqlValue.intText, String.toList_ofList, hread, Option.map_some, hscalar,
      Option.getD_some]
  · rw [keyValue, hmember]
    rfl

namespace Postgres

/-! Integers as bytes. -/

theorem length_natBytes (width n : Nat) : (natBytes width n).length = width := by
  induction width with
  | zero => rfl
  | succ width ih => simp [natBytes, ih]

theorem bytesNat_cons (byte : UInt8) (bytes : Bytes) :
    bytesNat (byte :: bytes) = byte.toNat * 256 ^ bytes.length + bytesNat bytes := by
  rw [bytesNat, List.foldl_cons, foldl_positional, Nat.zero_mul, Nat.zero_add]
  rfl

theorem bytesNat_natBytes (width n : Nat) : bytesNat (natBytes width n) = n % 256 ^ width := by
  induction width with
  | zero => simp [natBytes, bytesNat, Nat.mod_one]
  | succ width ih =>
    have hfirst : (UInt8.ofNat (n / 256 ^ width)).toNat = n / 256 ^ width % 256 := by simp
    rw [natBytes, bytesNat_cons, length_natBytes, ih, hfirst, Nat.pow_succ, Nat.mod_mul,
      Nat.mul_comm, Nat.add_comm]

def FitsBytes (width : Nat) (i : Int) : Prop :=
  -(2 ^ (8 * width - 1)) ≤ i ∧ i < 2 ^ (8 * width - 1)

instance (width : Nat) (i : Int) : Decidable (FitsBytes width i) :=
  inferInstanceAs (Decidable (_ ∧ _))

theorem holds_signed_iff {width : Nat} {i : Int} :
    (IntegerRange.signed (8 * width)).Holds i ↔ FitsBytes width i := by
  simp only [IntegerRange.Holds, IntegerRange.signed, FitsBytes, Int.le_sub_one_iff]

theorem bytesNat_intBytes (width : Nat) (i : Int) :
    (bytesNat (intBytes width i) : Int) = i % (256 ^ width : Nat) := by
  have hpositive : (0 : Int) < (256 ^ width : Nat) := by
    exact_mod_cast Nat.pow_pos (by decide)
  have hnonneg := Int.emod_nonneg i (Int.ne_of_gt hpositive)
  have hless := Int.emod_lt_of_pos i hpositive
  rw [intBytes, bytesNat_natBytes, Nat.mod_eq_of_lt (by omega)]
  exact Int.toNat_of_nonneg hnonneg

/-- An integer comes back from its bytes, if it fits. -/
theorem bytesInt_intBytes {width : Nat} (hwidth : 0 < width) {i : Int} (h : FitsBytes width i) :
    bytesInt (intBytes width i) = i := by
  obtain ⟨hlow, hhigh⟩ := h
  have hhalf : 256 ^ width = 2 * 2 ^ (8 * width - 1) := by
    rw [← Nat.pow_succ', Nat.succ_eq_add_one, Nat.sub_add_cancel (by omega), Nat.pow_mul]
  have hcast : ((2 ^ (8 * width - 1) : Nat) : Int) = 2 ^ (8 * width - 1) := Int.natCast_pow 2 _
  have hbytes := bytesNat_intBytes width i
  have hlength : (intBytes width i).length = width := length_natBytes width _
  rw [← hcast] at hlow hhigh
  unfold bytesInt
  simp only [hlength, hhalf] at hbytes ⊢
  generalize 2 ^ (8 * width - 1) = half at *
  by_cases hnegative : i < 0
  · rw [Int.emod_eq_add_self_emod, Int.emod_eq_of_lt (by omega) (by omega)] at hbytes
    rw [if_neg (by omega)]
    omega
  · rw [Int.emod_eq_of_lt (by omega) (by omega)] at hbytes
    rw [if_pos (by omega)]
    exact hbytes

/-! Integers as parameters and in columns. -/

inductive IntegerType : ValueType → Nat → Prop where
  | int2 : IntegerType .int2 2
  | int4 : IntegerType .int4 4
  | int8 : IntegerType .int8 8

/-- Two values that a parameter takes as the same bytes, or refuses. -/
inductive SameOnWire (type : ValueType) (value other : SqlValue) : Prop where
  | bound (cell : Option Bytes) (hvalue : bindChecked type value = .ok cell)
    (hother : bindChecked type other = .ok cell) : SameOnWire type value other
  | refused (cause otherCause : BindFault) (hvalue : bindChecked type value = .error cause)
    (hother : bindChecked type other = .error otherCause) : SameOnWire type value other

theorem narrowed_eq_ok_iff {width : Nat} {i : Int64} {bytes : Bytes} :
    narrowed width i = .ok bytes ↔ FitsBytes width i.toInt ∧ intBytes width i.toInt = bytes := by
  unfold narrowed
  rw [← holds_signed_iff]
  constructor
  · intro h
    split at h
    · next j hj =>
      obtain ⟨hholds, rfl⟩ := IntegerRange.narrow_eq_ok_iff.1 hj
      exact ⟨hholds, Except.ok.inj h⟩
    · cases h
  · rintro ⟨hholds, rfl⟩
    rw [IntegerRange.narrow_eq_ok_iff.2 ⟨hholds, rfl⟩]

theorem integerOfText_eq_ok_iff {width : Nat} {word : List Char} {bytes : Bytes} :
    integerOfText width word = .ok bytes ↔
      ∃ i, Numeral word i ∧ FitsBytes width i ∧ intBytes width i = bytes := by
  have hread (i : Int) : (IntegerRange.signed (8 * width)).read word = .ok i ↔
      Numeral word i ∧ FitsBytes width i := by
    have hpositive : (0 : Int) < 2 ^ (8 * width - 1) := Int.pow_pos (by decide)
    rw [← holds_signed_iff]
    apply IntegerRange.read_eq_ok_iff <;> simp only [IntegerRange.signed] <;> omega
  unfold integerOfText
  constructor
  · intro h
    split at h
    · next i hi =>
      obtain ⟨hnumeral, hfits⟩ := (hread i).1 hi
      exact ⟨i, hnumeral, hfits, Except.ok.inj h⟩
    · cases h
  · rintro ⟨i, hnumeral, hfits, rfl⟩
    rw [(hread i).2 ⟨hnumeral, hfits⟩]

variable {type : ValueType} {width : Nat}

theorem IntegerType.bindChecked_int (h : IntegerType type width) (i : Int64) :
    bindChecked type (.int i) = (narrowed width i).map some := by
  cases h <;> rfl

theorem IntegerType.bindChecked_text (h : IntegerType type width) (s : String) :
    bindChecked type (.text s) = (integerOfText width (trim s.toList)).map some := by
  cases h <;> rfl

theorem IntegerType.bindChecked_int_eq_ok_iff (h : IntegerType type width) {i : Int64}
    {cell : Option Bytes} :
    bindChecked type (.int i) = .ok cell ↔
      FitsBytes width i.toInt ∧ some (intBytes width i.toInt) = cell := by
  rw [h.bindChecked_int, Outcome.map_eq_ok_iff]
  simp only [narrowed_eq_ok_iff, and_assoc, exists_and_left, exists_eq_left']

theorem IntegerType.bindChecked_text_eq_ok_iff (h : IntegerType type width) {s : String}
    {cell : Option Bytes} :
    bindChecked type (.text s) = .ok cell ↔
      ∃ i, Numeral (trim s.toList) i ∧ FitsBytes width i ∧ some (intBytes width i) = cell := by
  rw [h.bindChecked_text, Outcome.map_eq_ok_iff]
  simp only [integerOfText_eq_ok_iff]
  constructor
  · rintro ⟨bytes, ⟨i, hnumeral, hfits, rfl⟩, rfl⟩
    exact ⟨i, hnumeral, hfits, rfl⟩
  · rintro ⟨i, hnumeral, hfits, rfl⟩
    exact ⟨_, ⟨i, hnumeral, hfits, rfl⟩, rfl⟩

theorem IntegerType.decodeCell_eq (h : IntegerType type width) {i : Int64}
    (hfits : FitsBytes width i.toInt) :
    decodeCell type (some (intBytes width i.toInt)) = .ok (.ofInt64 i) := by
  have hdecode : decodeCell type (some (intBytes width i.toInt)) =
      decodeInt width (intBytes width i.toInt) := by
    cases h <;> rfl
  have hwidth : 0 < width := by cases h <;> decide
  have hlength : (intBytes width i.toInt).length = width := length_natBytes width _
  rw [hdecode, decodeInt, if_pos hlength, bytesInt_intBytes hwidth hfits, Int64.ofInt_toInt]

theorem fitsInt64_of_fitsBytes (h : IntegerType type width) {i : Int} (hfits : FitsBytes width i) :
    FitsInt64 i := by
  obtain ⟨hlow, hhigh⟩ := hfits
  cases h <;> constructor <;> simp at hlow hhigh <;> omega

theorem toInt_ofInt_of_fitsBytes (h : IntegerType type width) {i : Int}
    (hfits : FitsBytes width i) : (Int64.ofInt i).toInt = i := by
  have hword := fitsInt64_of_fitsBytes h hfits
  exact Int64.toInt_ofInt_of_le hword.1 hword.2

theorem trim_intText (i : Int64) : trim (SqlValue.intText i).toList = intDigits i.toInt := by
  rw [SqlValue.intText, String.toList_ofList]
  exact trim_of_not_blank (not_blank_intDigits i.toInt)

theorem ofString?_intText (i : Int64) : Json.ofString? (SqlValue.intText i) = some (.ofInt64 i) :=
  @Json.ofString?_print (.ofInt64 i) (Nat.zero_le _) trivial trivial

theorem IntegerType.sameOnWire (h : IntegerType type width) (i : Int64) :
    SameOnWire type (.int i) (.text (SqlValue.intText i)) := by
  cases hint : bindChecked type (.int i) with
  | ok cell =>
    obtain ⟨hfits, rfl⟩ := h.bindChecked_int_eq_ok_iff.1 hint
    refine .bound _ hint (h.bindChecked_text_eq_ok_iff.2 ⟨i.toInt, ?_, hfits, rfl⟩)
    rw [trim_intText]
    exact numeral_intDigits _
  | error cause =>
    cases htext : bindChecked type (.text (SqlValue.intText i)) with
    | error otherCause => exact .refused cause otherCause hint htext
    | ok cell =>
      -- the text denotes the integer and no other, so that the integer would fit
      obtain ⟨j, hnumeral, hfits, rfl⟩ := h.bindChecked_text_eq_ok_iff.1 htext
      rw [trim_intText] at hnumeral
      obtain rfl := hnumeral.unique (numeral_intDigits _)
      rw [h.bindChecked_int_eq_ok_iff.2 ⟨hfits, rfl⟩] at hint
      cases hint

theorem sameOnWire_json (h : type = .json ∨ type = .jsonb) (i : Int64) :
    SameOnWire type (.int i) (.text (SqlValue.intText i)) := by
  rcases h with rfl | rfl
  all_goals
    refine .bound _ rfl ?_
    simp only [bindChecked, ValueType.isBindable, if_true, bind, bindText, ofString?_intText,
      Option.map_some, wellFormed, Except.map]

def integerTypes : List ValueType :=
  [.int2, .int4, .int8, .text, .varchar, .bpchar, .name, .unknown, .json, .jsonb]

theorem sameOnWire_of_mem (h : type ∈ integerTypes) (i : Int64) :
    SameOnWire type (.int i) (.text (SqlValue.intText i)) := by
  simp only [integerTypes, List.mem_cons, List.not_mem_nil, or_false] at h
  rcases h with rfl | rfl | rfl | rfl | rfl | rfl | rfl | rfl | hjson
  · exact IntegerType.int2.sameOnWire i
  · exact IntegerType.int4.sameOnWire i
  · exact IntegerType.int8.sameOnWire i
  iterate 5 exact .bound (some (textBytes (SqlValue.intText i))) rfl rfl
  exact sameOnWire_json hjson i

/-- Integers reach a parameter exactly or not at all, as integers and as texts alike. -/
theorem integers_exact_or_refused :
    (∀ type width, IntegerType type width →
      (∀ i : Int64, (∃ bytes, bindChecked type (.int i) = .ok (some bytes)) ↔
        FitsBytes width i.toInt) ∧
      ∀ (i : Int64) (cell : Option Bytes), bindChecked type (.int i) = .ok cell →
        decodeCell type cell = .ok (.ofInt64 i)) ∧
    (∀ type width, IntegerType type width → ∀ s : String,
      ((∃ bytes, bindChecked type (.text s) = .ok (some bytes)) ↔
        ∃ i, Numeral (trim s.toList) i ∧ FitsBytes width i) ∧
      ∀ i, Numeral (trim s.toList) i → FitsBytes width i →
        ∃ n : Int64, n.toInt = i ∧ bindChecked type (.text s) = bindChecked type (.int n)) ∧
    ∀ type ∈ integerTypes, ∀ i : Int64,
      SameOnWire type (.int i) (.text (SqlValue.intText i)) ∧
      ∀ (image : RowImage) (column : Column), column.cast = ColumnType.bigInt.caster →
        image.snapshot.get? column.member = some (.string (SqlValue.intText i)) →
          image.columnValue column = .int i ∧
            image.keyValue column = .text (SqlValue.intText i) ∧
            SameOnWire type (image.columnValue column) (image.keyValue column) := by
  refine ⟨?_, ?_, ?_⟩
  · intro type width htype
    constructor
    · intro i
      simp only [htype.bindChecked_int_eq_ok_iff, Option.some.injEq, exists_and_left,
        exists_eq', and_true]
    · intro i cell hbound
      obtain ⟨hfits, rfl⟩ := htype.bindChecked_int_eq_ok_iff.1 hbound
      exact htype.decodeCell_eq hfits
  · intro type width htype s
    constructor
    · constructor
      · rintro ⟨bytes, hbound⟩
        obtain ⟨i, hnumeral, hfits, -⟩ := htype.bindChecked_text_eq_ok_iff.1 hbound
        exact ⟨i, hnumeral, hfits⟩
      · rintro ⟨i, hnumeral, hfits⟩
        exact ⟨_, htype.bindChecked_text_eq_ok_iff.2 ⟨i, hnumeral, hfits, rfl⟩⟩
    · intro i hnumeral hfits
      have hi := toInt_ofInt_of_fitsBytes htype hfits
      refine ⟨Int64.ofInt i, hi, ?_⟩
      rw [htype.bindChecked_text_eq_ok_iff.2 ⟨i, hnumeral, hfits, rfl⟩,
        htype.bindChecked_int_eq_ok_iff.2 ⟨hi.symm ▸ hfits, rfl⟩, hi]
  · intro type htype i
    refine ⟨sameOnWire_of_mem htype i, ?_⟩
    intro image column hcast hmember
    obtain ⟨hinserted, hkey⟩ := RowImage.values_of_digits hcast hmember
    refine ⟨hinserted, hkey, ?_⟩
    rw [hinserted, hkey]
    exact sameOnWire_of_mem htype i

theorem integers_exact_or_refused_edges :
    decodeCell .int2 (some (intBytes 2 (-32768))) = .ok (.ofInt64 (-32768)) ∧
      (∃ n : Int64, n.toInt = 32767 ∧
        bindChecked .int2 (.text " +32767\n") = bindChecked .int2 (.int n)) ∧
      (¬ ∃ bytes, bindChecked .int2 (.int 32768) = .ok (some bytes)) ∧
      SameOnWire .int2 (.int 32768) (.text (SqlValue.intText 32768)) ∧
      ∃ column, SameOnWire .varchar
        ((RowImage.numbered (.string (SqlValue.intText 5))).columnValue column)
        ((RowImage.numbered (.string (SqlValue.intText 5))).keyValue column) := by
  obtain ⟨hint, htext, hsame⟩ := integers_exact_or_refused
  refine ⟨?_, ?_, ?_, ?_, ?_⟩
  · exact (hint .int2 2 .int2).2 (-32768) _ rfl
  · have hdigits : ∀ c ∈ "32767".toList, c.isDigit = true := List.all_eq_true.1 rfl
    exact (htext .int2 2 .int2 " +32767\n").2 32767 (.plus _ (by decide) hdigits) (by decide)
  · rw [(hint .int2 2 .int2).1]
    decide
  · exact (hsame .int2 (by decide) 32768).1
  · have hkey := (hsame .varchar (by decide) 5).2 (RowImage.numbered (.string (SqlValue.intText 5)))
      (.ofDeclaration ⟨"number", by decide⟩ (.ofAttributes [.primary, .typed .bigInt])) rfl rfl
    exact ⟨_, hkey.2.2⟩

end Postgres

end RecordMapper
