import RecordMapper.Proofs.Outcome
import RecordMapper.RowImage

/-!
The statements on a row in full: their texts, their parameters, when there is one, and their kinds.
The key is looked up by `column = ?` for each column of it, in the order of the declaration.
-/

namespace RecordMapper

theorem words_of_word {word : List Char} (hne : word ≠ []) (hword : ∀ c ∈ word, isBlank c = false)
    (rest : List Char) : ∃ later, words (word ++ ' ' :: rest) = word :: later := by
  induction word with
  | nil => exact absurd rfl hne
  | cons c word ih =>
    have hc := hword c List.mem_cons_self
    cases word with
    | nil =>
      have hspace : isBlank ' ' = true := by decide
      exact ⟨words (' ' :: rest), by simp [words, hc, hspace]⟩
    | cons d word =>
      have hd := hword d (List.mem_cons_of_mem _ List.mem_cons_self)
      obtain ⟨later, hlater⟩ := ih (by simp) fun e he => hword e (List.mem_cons_of_mem _ he)
      refine ⟨later, ?_⟩
      rw [List.cons_append, List.cons_append] at *
      rw [words, hlater]
      simp [hc, hd]

theorem StatementKind.ofSql_of_word {word : String} (hne : word ≠ "")
    (hword : (word.toList.all fun c => !isBlank c) = true) (rest : String) :
    ofSql (word ++ " " ++ rest) = ofWord (String.ofList (word.toList.map Char.toUpper)) := by
  have hchars : ∀ c ∈ word.toList, isBlank c = false := by simpa using hword
  have hlist : (word ++ " " ++ rest).toList = word.toList ++ ' ' :: rest.toList := by simp
  obtain ⟨later, hlater⟩ := words_of_word (by simpa using hne) hchars rest.toList
  unfold ofSql
  rw [hlist, hlater]

def assignmentTexts (columns : List Column) : List String :=
  columns.map fun column => column.name.text ++ " = ?"

theorem sql_assignments (columns : List Column) (value : Column → SqlValue) :
    (RowImage.assignments (columns.map fun column => (column, value column))).map Template.sql =
      assignmentTexts columns := by
  unfold RowImage.assignments assignmentTexts
  rw [List.map_map, List.map_map]
  apply List.map_congr_left
  intro column _
  simp only [Function.comp_apply, Template.sql, String.append_assoc, String.append_empty]
  rfl

theorem parameters_assignments (columns : List Column) (value : Column → SqlValue) :
    (RowImage.assignments (columns.map fun column => (column, value column))).flatMap
      Template.parameters = columns.map value := by
  unfold RowImage.assignments
  induction columns with
  | nil => rfl
  | cons column columns ih =>
    simp only [List.map_cons, List.flatMap_cons, ih]
    rfl

def Schema.keyText (schema : Schema) : String :=
  " AND ".intercalate (assignmentTexts schema.keyColumns)

namespace RowImage

variable (image : RowImage)

def keyValues : List SqlValue :=
  image.schema.keyColumns.map image.keyValue

theorem sql_keyTemplate : image.keyTemplate.sql = image.schema.keyText := by
  unfold keyTemplate Schema.keyText
  rw [Template.sql_separatedBy, sql_assignments]

theorem parameters_keyTemplate : image.keyTemplate.parameters = image.keyValues := by
  unfold keyTemplate keyValues
  rw [Template.parameters_separatedBy, parameters_assignments]

theorem keyClause_eq_ok_iff {verb : String} {key : Template} :
    image.keyClause verb = .ok key ↔ image.schema.keyColumns ≠ [] ∧ key = image.keyTemplate := by
  unfold keyClause
  simp only [List.isEmpty_iff]
  by_cases h : image.schema.keyColumns = []
  · rw [if_pos h]
    exact ⟨by rintro ⟨⟩, fun hkey => absurd h hkey.1⟩
  · rw [if_neg h]
    exact ⟨fun hkey => ⟨h, (Except.ok.inj hkey).symm⟩, fun hkey => congrArg _ hkey.2.symm⟩

variable {image} in
theorem mem_columns_of_inserted {column : Column} (h : column ∈ image.insertedColumns) :
    column ∈ image.schema.columns :=
  (List.mem_filter.1 h).1

def insertText : String :=
  match image.insertedColumns with
  | [] => "INSERT INTO " ++ image.schema.table.text ++ " DEFAULT VALUES"
  | columns =>
    "INSERT INTO " ++ image.schema.table.text ++ " (" ++
      ", ".intercalate (columns.map fun column => column.name.text) ++ ") VALUES (" ++
      ", ".intercalate (columns.map fun _ => "?") ++ ")"

theorem insert_eq :
    image.insert = ⟨image.insertText, image.insertedColumns.map image.columnValue⟩ := by
  unfold insert insertTemplate insertText
  dsimp only
  split
  · rename_i hnone
    rw [hnone]
    simp only [Template.statement, Template.sql, Template.parameters, List.map_nil,
      String.append_empty]
  · simp only [Template.statement, List.cons_append, Template.sql, Template.parameters,
      Template.sql_append, Template.parameters_append, Template.sql_separatedBy,
      Template.parameters_separatedBy, List.map_map, List.flatMap_map, Function.comp_def,
      String.append_assoc, String.append_empty, List.append_nil]
    rw [← List.map_eq_flatMap]

def updateText : String :=
  "UPDATE " ++ image.schema.table.text ++ " SET " ++
    ", ".intercalate (assignmentTexts image.updatedColumns) ++ " WHERE " ++ image.schema.keyText

def deleteText : String :=
  "DELETE FROM " ++ image.schema.table.text ++ " WHERE " ++ image.schema.keyText

theorem update_eq_ok_iff {statement : Statement} :
    image.update = .ok statement ↔
      image.schema.keyColumns ≠ [] ∧ image.updatedColumns ≠ [] ∧
        statement = ⟨image.updateText,
          image.updatedColumns.map image.columnValue ++ image.keyValues⟩ := by
  have hstatement : Template.statement
      (.text ("UPDATE " ++ image.schema.table.text ++ " SET ") ::
        Template.separatedBy ", " (assignments
          (image.updatedColumns.map fun column => (column, image.columnValue column))) ++
        .text " WHERE " :: image.keyTemplate) =
      ⟨image.updateText, image.updatedColumns.map image.columnValue ++ image.keyValues⟩ := by
    unfold Template.statement updateText
    simp only [List.cons_append, Template.sql, Template.parameters, Template.sql_append,
      Template.parameters_append, Template.sql_separatedBy, Template.parameters_separatedBy,
      sql_assignments, parameters_assignments, sql_keyTemplate, parameters_keyTemplate,
      String.append_assoc]
  unfold update updateTemplate
  rw [Outcome.map_eq_ok_iff]
  constructor
  · rintro ⟨template, htemplate, rfl⟩
    obtain ⟨key, hkey, htemplate⟩ := Outcome.bind_eq_ok_iff.1 htemplate
    obtain ⟨hne, rfl⟩ := image.keyClause_eq_ok_iff.1 hkey
    by_cases hempty : image.updatedColumns.isEmpty = true
    · rw [if_pos hempty] at htemplate
      cases htemplate
    · rw [if_neg hempty] at htemplate
      cases Except.ok.inj htemplate
      exact ⟨hne, by simpa using hempty, hstatement⟩
  · rintro ⟨hne, hcolumns, rfl⟩
    have hkey : image.keyClause "update" = .ok image.keyTemplate :=
      image.keyClause_eq_ok_iff.2 ⟨hne, rfl⟩
    refine ⟨_, ?_, hstatement⟩
    rw [hkey]
    change (if image.updatedColumns.isEmpty then _ else _) = _
    rw [if_neg (by simpa using hcolumns)]
    rfl

theorem delete_eq_ok_iff {statement : Statement} :
    image.delete = .ok statement ↔
      image.schema.keyColumns ≠ [] ∧ statement = ⟨image.deleteText, image.keyValues⟩ := by
  have hstatement : Template.statement
      (.text ("DELETE FROM " ++ image.schema.table.text ++ " WHERE ") :: image.keyTemplate) =
      ⟨image.deleteText, image.keyValues⟩ := by
    unfold Template.statement deleteText
    simp only [Template.sql, Template.parameters, sql_keyTemplate, parameters_keyTemplate]
  unfold delete deleteTemplate
  rw [Outcome.map_eq_ok_iff]
  constructor
  · rintro ⟨template, htemplate, rfl⟩
    obtain ⟨key, hkey, htemplate⟩ := Outcome.bind_eq_ok_iff.1 htemplate
    obtain ⟨hne, rfl⟩ := image.keyClause_eq_ok_iff.1 hkey
    cases Except.ok.inj htemplate
    exact ⟨hne, hstatement⟩
  · rintro ⟨hne, rfl⟩
    have hkey : image.keyClause "delete" = .ok image.keyTemplate :=
      image.keyClause_eq_ok_iff.2 ⟨hne, rfl⟩
    refine ⟨_, ?_, hstatement⟩
    rw [hkey]
    rfl

theorem kind_insert : StatementKind.ofSql image.insert.sql = .insert := by
  have hword : "INSERT INTO " = "INSERT" ++ " " ++ "INTO " := by decide
  rw [insert_eq]
  dsimp only
  rw [insertText, hword]
  split <;>
  · simp only [String.append_assoc]
    rw [← String.append_assoc, StatementKind.ofSql_of_word (by decide) (by decide)]
    rfl

theorem kind_update {statement : Statement} (h : image.update = .ok statement) :
    StatementKind.ofSql statement.sql = .update := by
  have hword : "UPDATE " = "UPDATE" ++ " " := by decide
  obtain ⟨-, -, rfl⟩ := image.update_eq_ok_iff.1 h
  dsimp only
  rw [updateText, hword, String.append_assoc, String.append_assoc, String.append_assoc,
    String.append_assoc, StatementKind.ofSql_of_word (by decide) (by decide)]
  rfl

theorem kind_delete {statement : Statement} (h : image.delete = .ok statement) :
    StatementKind.ofSql statement.sql = .delete := by
  have hword : "DELETE FROM " = "DELETE" ++ " " ++ "FROM " := by decide
  obtain ⟨-, rfl⟩ := image.delete_eq_ok_iff.1 h
  dsimp only
  rw [deleteText, hword, String.append_assoc, String.append_assoc, String.append_assoc,
    StatementKind.ofSql_of_word (by decide) (by decide)]
  rfl

end RowImage

end RecordMapper
