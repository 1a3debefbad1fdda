import RecordMapper.Proofs.Json.Text
import RecordMapper.Schema.Column

/-!
What a column stores it gives back. Each type of column has values of its own form, and so have the
columns that are declared without a type; a value of the form is cast to a scalar, and the JSON value
of the scalar is parsed to the value again.
-/

namespace RecordMapper

theorem not_blank_intDigits (i : Int) : ∀ c ∈ intDigits i, isBlank c = false := by
  intro c hc
  rcases sign_or_digit_of_mem_intDigits hc with rfl | hdigit
  · decide
  · exact isBlank_of_isDigit hdigit

theorem Cast.textToBigInt_intDigits {i : Int} (h : Cast.bigIntRange.Holds i) :
    Cast.textToBigInt (intDigits i) = some i := by
  have hread := IntegerRange.read_intDigits (by decide) (by decide) h
  unfold textToBigInt
  simp only [trim_of_not_blank (not_blank_intDigits i), intDigits_ne_nil, if_false, hread]

namespace ColumnType

/-- The values that a record holds for a column of a type. -/
inductive HasForm : ColumnType → Json → Prop where
  | boolean (b : Bool) : HasForm .boolean (.bool b)
  | int (i : Int) (fits : FitsWord i) (h : FitsInt64 i) : HasForm .int (.number (.integer i fits))
  | float (x : FiniteDouble) : HasForm .float (.number (.real x))
  | bigInt (i : Int) (h : Cast.bigIntRange.Holds i) :
    HasForm .bigInt (.string (String.ofList (intDigits i)))
  | text (s : String) : HasForm .text (.string s)
  | json (value : Json) (hnull : value.isNull = false) (hnesting : value.nesting < 128)
    (hordered : value.Ordered) (hdoubles : value.DoublesReadBack) : HasForm .json value

theorem parse_cast {type : ColumnType} {value : Json} (h : type.HasForm value) :
    ∃ scalar, type.cast (some value) = some scalar ∧ scalar.toJson.isNull = false ∧
      type.parse scalar.toJson = some value := by
  cases h with
  | boolean b => exact ⟨.bool b, rfl, rfl, rfl⟩
  | int i fits h =>
    have hcast : Cast.numberToInt (.integer i fits) = some (Int64.ofInt i) := by
      rw [Cast.numberToInt, Json.Number.int64?_integer h]
    refine ⟨.int (Int64.ofInt i), ?_, rfl, ?_⟩
    · simp [cast, Cast.toInt, hcast]
    · rw [SqlValue.toJson, Json.ofInt64_ofInt h fits]
      simp [parse, Cast.toInt, hcast, Json.ofInt64_ofInt h fits]
  | float x => exact ⟨.float (.finite x), rfl, rfl, rfl⟩
  | bigInt i h =>
    have hread := Cast.textToBigInt_intDigits h
    refine ⟨bigIntScalar i, ?_, ?_, ?_⟩
    · simp [cast, Cast.toBigInt, hread]
    · unfold bigIntScalar
      split <;> rfl
    · unfold bigIntScalar
      split
      · rename_i hfits
        have hword : FitsWord i := ⟨hfits.1, by omega⟩
        rw [SqlValue.toJson, Json.ofInt64_ofInt hfits hword]
        rfl
      · simp [SqlValue.toJson, parse, Cast.toBigInt, hread]
  | text s => exact ⟨.text s, rfl, rfl, rfl⟩
  | json value hnull hnesting hordered hdoubles =>
    refine ⟨.text value.print, rfl, rfl, ?_⟩
    exact Json.ofString?_print (by unfold Json.maxNesting; omega) hordered hdoubles

end ColumnType

/-- The values that a record holds for a column that is declared without a type. -/
inductive PlainForm : Json → Prop where
  | bool (b : Bool) : PlainForm (.bool b)
  | int (i : Int) (fits : FitsWord i) (h : FitsInt64 i) : PlainForm (.number (.integer i fits))
  | float (x : FiniteDouble) : PlainForm (.number (.real x))
  | text (s : String) : PlainForm (.string s)

theorem passThroughCaster_of_plainForm {value : Json} (h : PlainForm value) :
    ∃ scalar, passThroughCaster value = some scalar ∧ scalar.toJson.isNull = false ∧
      identityParser scalar.toJson = some value := by
  cases h with
  | bool b => exact ⟨.bool b, rfl, rfl, rfl⟩
  | int i fits h =>
    refine ⟨.int (Int64.ofInt i), ?_, rfl, ?_⟩
    · simp only [passThroughCaster, SqlValue.ofJson, SqlValue.ofJson?,
        Json.Number.int64?_integer h, Option.getD_some]
    · rw [SqlValue.toJson, Json.ofInt64_ofInt h fits]
      rfl
  | float x => exact ⟨.float (.finite x), rfl, rfl, rfl⟩
  | text s => exact ⟨.text s, rfl, rfl, rfl⟩

namespace Column

/-- A column that was declared without a type, or with a type, and a value of its form. -/
inductive Keeps (column : Column) (value : Json) : Prop where
  | plain (hparse : column.parse = identityParser) (hcast : column.cast = passThroughCaster)
    (h : PlainForm value)
  | typed (type : ColumnType) (hparse : column.parse = type.parser)
    (hcast : column.cast = type.caster) (h : type.HasForm value)

theorem parse_cast {column : Column} {value : Json} (h : column.Keeps value) :
    ∃ scalar, column.cast value = some scalar ∧ scalar.toJson.isNull = false ∧
      column.parse scalar.toJson = some value := by
  cases h with
  | plain hparse hcast h =>
    rw [hparse, hcast]
    exact passThroughCaster_of_plainForm h
  | typed type hparse hcast h =>
    rw [hparse, hcast]
    exact ColumnType.parse_cast h

end Column

end RecordMapper
