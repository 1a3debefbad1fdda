import RecordMapper.Record.Snapshot

/-!
The key of a snapshot. It is set when the table has a key and every member of it is set; it is set
in part when some members are and others are not, and that is a fault.
-/

namespace RecordMapper.Snapshot

variable {snapshot : Snapshot} {schema : Schema}

theorem isSet_iff {member : String} :
    snapshot.isSet member = true ↔
      ∃ value, snapshot.get? member = some value ∧ value.isNull = false := by
  unfold isSet value?
  cases snapshot.get? member with
  | none => simp
  | some value => simp [Option.filter]

/-- There is a key, and the record has a value for each column of it. -/
def KeySet (snapshot : Snapshot) (schema : Schema) : Prop :=
  schema.keyColumns ≠ [] ∧ ∀ column ∈ schema.keyColumns, snapshot.isSet column.member = true

def KeyUnset (snapshot : Snapshot) (schema : Schema) : Prop :=
  ∀ column ∈ schema.keyColumns, snapshot.isSet column.member = false

/-- The record has a value for one column of the key and none for another. -/
def KeyPartlySet (snapshot : Snapshot) (schema : Schema) : Prop :=
  (∃ column ∈ schema.keyColumns, snapshot.isSet column.member = true) ∧
    ∃ column ∈ schema.keyColumns, snapshot.isSet column.member = false

theorem KeySet.not_partlySet (h : snapshot.KeySet schema) : ¬ snapshot.KeyPartlySet schema := by
  rintro ⟨-, column, hcolumn, hunset⟩
  rw [h.2 column hcolumn] at hunset
  cases hunset

theorem hasKey_of_unset (h : snapshot.KeyUnset schema) : snapshot.hasKey schema = .ok false := by
  have hnone : (schema.keyColumns.filter fun column => snapshot.isSet column.member) = [] := by
    rw [List.filter_eq_nil_iff]
    intro column hcolumn
    simp [h column hcolumn]
  simp [hasKey, hnone]

theorem hasKey_of_set (h : snapshot.KeySet schema) : snapshot.hasKey schema = .ok true := by
  have hall : (schema.keyColumns.filter fun column => snapshot.isSet column.member) =
      schema.keyColumns := List.filter_eq_self.2 h.2
  have hlength : schema.keyColumns.length ≠ 0 := by simp [h.1]
  simp [hasKey, hall, hlength]

theorem hasKey_of_partlySet (h : snapshot.KeyPartlySet schema) :
    snapshot.hasKey schema = .error (.partialKey schema.table.text) := by
  obtain ⟨⟨one, hone, hset⟩, other, hother, hunset⟩ := h
  have hsome : (schema.keyColumns.filter fun column => snapshot.isSet column.member).length ≠ 0 := by
    intro hzero
    have hvalue := List.filter_eq_nil_iff.1 (List.length_eq_zero_iff.1 hzero) one hone
    exact hvalue hset
  have hfew : (schema.keyColumns.filter fun column => snapshot.isSet column.member).length ≠
      schema.keyColumns.length := by
    intro hall
    have hvalue := List.length_filter_eq_length_iff.1 hall other hother
    rw [hunset] at hvalue
    cases hvalue
  simp [hasKey, hsome, hfew]

theorem key_cases (snapshot : Snapshot) (schema : Schema) :
    snapshot.KeySet schema ∨ snapshot.KeyUnset schema ∨ snapshot.KeyPartlySet schema := by
  by_cases hunset : snapshot.KeyUnset schema
  · exact .inr (.inl hunset)
  by_cases hset : ∀ column ∈ schema.keyColumns, snapshot.isSet column.member = true
  · left
    refine ⟨?_, hset⟩
    intro hnil
    apply hunset
    intro column hcolumn
    rw [hnil] at hcolumn
    cases hcolumn
  · right
    right
    simp only [KeyUnset, Classical.not_forall, Bool.not_eq_false] at hunset
    simp only [Classical.not_forall, Bool.not_eq_true] at hset
    obtain ⟨one, hone, hvalue⟩ := hunset
    obtain ⟨other, hother, hnone⟩ := hset
    exact ⟨⟨one, hone, hvalue⟩, other, hother, hnone⟩

theorem hasKey_eq_true_iff : snapshot.hasKey schema = .ok true ↔ snapshot.KeySet schema := by
  constructor
  · intro h
    rcases snapshot.key_cases schema with hset | hunset | hpartly
    · exact hset
    · rw [hasKey_of_unset hunset] at h
      cases h
    · rw [hasKey_of_partlySet hpartly] at h
      cases h
  · exact hasKey_of_set

theorem hasKey_eq_false_iff : snapshot.hasKey schema = .ok false ↔ snapshot.KeyUnset schema := by
  constructor
  · intro h
    rcases snapshot.key_cases schema with hset | hunset | hpartly
    · rw [hasKey_of_set hset] at h
      cases h
    · exact hunset
    · rw [hasKey_of_partlySet hpartly] at h
      cases h
  · exact hasKey_of_unset

end RecordMapper.Snapshot
