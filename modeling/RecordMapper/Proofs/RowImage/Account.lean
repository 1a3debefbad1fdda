import RecordMapper.Proofs.Reading.Basic
import RecordMapper.Proofs.RowImage.Text

/-!
What the statement on a row says: the table, the columns that it writes and those that it finds the
row by, each with its value. The text of a statement tells the names, whatever stands in their
quotes, and with the parameters it tells the values too.
-/

namespace RecordMapper

@[ext] structure Outline where
  table : Identifier
  written : List Identifier
  key : List Identifier
deriving DecidableEq

namespace Outline

def assignments (names : List Identifier) : List String :=
  names.map fun name => name.text ++ " = ?"

/-- What an INSERT writes; a row without columns is a row of defaults. -/
def columnsText (outline : Outline) : String :=
  if outline.written = [] then " DEFAULT VALUES"
  else
    " (" ++ ", ".intercalate (outline.written.map Identifier.text) ++ ") VALUES (" ++
      ", ".intercalate (outline.written.map fun _ => "?") ++ ")"

def setText (outline : Outline) : String :=
  " SET " ++ ", ".intercalate (assignments outline.written)

def keyText (outline : Outline) : String :=
  " WHERE " ++ " AND ".intercalate (assignments outline.key)

def text (outline : Outline) : RowOperation → String
  | .insert => "INSERT INTO " ++ outline.table.text ++ outline.columnsText
  | .update => "UPDATE " ++ outline.table.text ++ outline.setText ++ outline.keyText
  | .delete => "DELETE FROM " ++ outline.table.text ++ outline.keyText

/-- Why there is no statement: without a key no row is found, and an UPDATE sets something. -/
def fault? (outline : Outline) : RowOperation → Option ValidationFault
  | .insert => none
  | .update =>
    if outline.key = [] then some (.noKey "update" outline.table.text)
    else if outline.written = [] then some (.nothingToSet outline.table.text)
    else none
  | .delete => if outline.key = [] then some (.noKey "delete" outline.table.text) else none

/-- What there is to say in a statement that is built. An INSERT finds no row, and a DELETE writes
no column. -/
def Complete (outline : Outline) : RowOperation → Prop
  | .insert => outline.key = []
  | .update => outline.written ≠ [] ∧ outline.key ≠ []
  | .delete => outline.written = [] ∧ outline.key ≠ []

theorem ends_of_head {c : Char} {cs : List Char} (h : c = ' ' ∨ c = ',' ∨ c = ')') :
    Identifier.Ends (c :: cs) := by
  rcases h with rfl | rfl | rfl
  · exact ⟨by decide, by decide, by simp⟩
  · exact ⟨by decide, by decide, by simp⟩
  · exact ⟨by decide, by decide, by simp⟩

theorem text_injective {name other : Identifier} (h : name.text = other.text) : name = other := by
  cases name
  cases other
  simpa using h

theorem eq_of_name_append {name other : Identifier} {x y : List Char} (hx : Identifier.Ends x)
    (hy : Identifier.Ends y) (h : name.text.toList ++ x = other.text.toList ++ y) :
    name = other ∧ x = y := by
  obtain ⟨htext, hrest⟩ := Identifier.readable name.valid other.valid hx hy h
  exact ⟨text_injective (String.toList_inj.1 htext), hrest⟩

def IsAssignment (item : List Char) : Prop :=
  ∃ name : Identifier, item = name.text.toList ++ " = ?".toList

theorem readable_assignment : Readable IsAssignment fun _ => True := by
  rintro a b x y ⟨name, rfl⟩ ⟨other, rfl⟩ - - h
  have hends : ∀ rest, Identifier.Ends (" = ?".toList ++ rest) := fun _ => ends_of_head (.inl rfl)
  rw [List.append_assoc, List.append_assoc] at h
  obtain ⟨rfl, hrest⟩ := eq_of_name_append (hends x) (hends y) h
  rw [List.append_cancel_left_eq] at hrest
  exact ⟨rfl, hrest⟩

theorem eq_of_assignments_append {separator : String} {names others : List Identifier}
    {x y : List Char} (hnames : names ≠ []) (hothers : others ≠ [])
    (hx : ∀ rest, x ≠ separator.toList ++ rest) (hy : ∀ rest, y ≠ separator.toList ++ rest)
    (h : (separator.intercalate (assignments names)).toList ++ x =
      (separator.intercalate (assignments others)).toList ++ y) : names = others ∧ x = y := by
  have hitems : ∀ names : List Identifier, ∀ item ∈ (assignments names).map String.toList,
      IsAssignment item := by
    intro names
    simp only [assignments, List.map_map, List.forall_mem_map]
    exact fun name _ => ⟨name, by simp⟩
  rw [String.toList_intercalate, String.toList_intercalate] at h
  obtain ⟨hlists, hrest⟩ := readable_assignment.intercalate (fun _ => trivial)
    (by simpa [assignments] using hnames) (by simpa [assignments] using hothers) (hitems names)
    (hitems others) trivial trivial hx hy h
  have htexts : assignments names = assignments others :=
    (List.map_inj_right fun _ _ => String.toList_inj.1).1 hlists
  refine ⟨(List.map_inj_right fun name other heq => ?_).1 htexts, hrest⟩
  exact text_injective ((String.append_left_inj _).1 heq)

theorem eq_of_names_append {names others : List Identifier} {x y : List Char}
    (hnames : names ≠ []) (hothers : others ≠ [])
    (h : (", ".intercalate (names.map Identifier.text)).toList ++ (')' :: x) =
      (", ".intercalate (others.map Identifier.text)).toList ++ (')' :: y)) :
    names = others ∧ x = y := by
  have hitems : ∀ names : List Identifier,
      ∀ item ∈ (names.map Identifier.text).map String.toList, Identifier.Valid item := by
    intro names
    simp only [List.map_map, List.forall_mem_map]
    exact fun name _ => name.valid
  rw [String.toList_intercalate, String.toList_intercalate] at h
  obtain ⟨hlists, hrest⟩ := Identifier.readable.intercalate
    (fun _ => ends_of_head (.inr (.inl rfl))) (by simpa using hnames) (by simpa using hothers)
    (hitems names) (hitems others) (ends_of_head (.inr (.inr rfl)))
    (ends_of_head (.inr (.inr rfl))) (by simp) (by simp) h
  have htexts := (List.map_inj_right fun _ _ => String.toList_inj.1).1 hlists
  exact ⟨(List.map_inj_right fun _ _ => text_injective).1 htexts, (List.cons.inj hrest).2⟩

variable {outline other : Outline}

theorem ends_columnsText (outline : Outline) : Identifier.Ends outline.columnsText.toList := by
  unfold columnsText
  split
  · exact ends_of_head (.inl rfl)
  · simp only [String.toList_append, List.append_assoc]
    exact ends_of_head (.inl rfl)

theorem ends_setText (outline : Outline) (rest : List Char) :
    Identifier.Ends (outline.setText.toList ++ rest) := by
  unfold setText
  rw [String.toList_append, List.append_assoc]
  exact ends_of_head (.inl rfl)

theorem ends_keyText (outline : Outline) : Identifier.Ends outline.keyText.toList := by
  unfold keyText
  rw [String.toList_append]
  exact ends_of_head (.inl rfl)

theorem written_of_columnsText (h : outline.columnsText.toList = other.columnsText.toList) :
    outline.written = other.written := by
  unfold columnsText at h
  by_cases hwritten : outline.written = [] <;> by_cases hother : other.written = []
  · rw [hwritten, hother]
  · simp [hwritten, hother] at h
  · simp [hwritten, hother] at h
  · simp only [if_neg hwritten, if_neg hother, String.toList_append, List.append_assoc,
      List.append_cancel_left_eq] at h
    exact (eq_of_names_append hwritten hother h).1

theorem written_of_setText {x y : List Char} (hwritten : outline.written ≠ [])
    (hother : other.written ≠ []) (hx : ∀ rest, x ≠ ", ".toList ++ rest)
    (hy : ∀ rest, y ≠ ", ".toList ++ rest)
    (h : outline.setText.toList ++ x = other.setText.toList ++ y) :
    outline.written = other.written ∧ x = y := by
  unfold setText at h
  simp only [String.toList_append, List.append_assoc, List.append_cancel_left_eq] at h
  exact eq_of_assignments_append hwritten hother hx hy h

theorem key_of_keyText (hkey : outline.key ≠ []) (hother : other.key ≠ [])
    (h : outline.keyText.toList = other.keyText.toList) : outline.key = other.key := by
  unfold keyText at h
  rw [String.toList_append, String.toList_append, List.append_cancel_left_eq] at h
  have happend := congrArg (· ++ []) h
  exact (eq_of_assignments_append hkey hother (by simp) (by simp) happend).1

theorem eq_of_text_eq {operation : RowOperation} (hcomplete : outline.Complete operation)
    (hother : other.Complete operation) (h : outline.text operation = other.text operation) :
    outline = other := by
  have htext := congrArg String.toList h
  cases operation with
  | insert =>
    simp only [text, String.toList_append, List.append_assoc, List.append_cancel_left_eq] at htext
    obtain ⟨htable, hrest⟩ :=
      eq_of_name_append outline.ends_columnsText other.ends_columnsText htext
    exact Outline.ext htable (written_of_columnsText hrest) (hcomplete.trans hother.symm)
  | update =>
    simp only [text, String.toList_append, List.append_assoc, List.append_cancel_left_eq] at htext
    obtain ⟨htable, hrest⟩ :=
      eq_of_name_append (outline.ends_setText _) (other.ends_setText _) htext
    have hcomma : ∀ (outline : Outline) rest, outline.keyText.toList ≠ ", ".toList ++ rest := by
      simp [keyText]
    obtain ⟨hwritten, hkeys⟩ :=
      written_of_setText hcomplete.1 hother.1 (hcomma outline) (hcomma other) hrest
    exact Outline.ext htable hwritten (key_of_keyText hcomplete.2 hother.2 hkeys)
  | delete =>
    simp only [text, String.toList_append, List.append_assoc, List.append_cancel_left_eq] at htext
    obtain ⟨htable, hrest⟩ := eq_of_name_append outline.ends_keyText other.ends_keyText htext
    exact Outline.ext htable (hcomplete.1.trans hother.1.symm)
      (key_of_keyText hcomplete.2 hother.2 hrest)

end Outline

abbrev Binding := Identifier × SqlValue

@[ext] structure Account where
  table : Identifier
  written : List Binding
  key : List Binding

namespace Account

def outline (account : Account) : Outline :=
  ⟨account.table, account.written.map Prod.fst, account.key.map Prod.fst⟩

def parameters (account : Account) : List SqlValue :=
  account.written.map Prod.snd ++ account.key.map Prod.snd

def statement (account : Account) (operation : RowOperation) : Statement :=
  ⟨account.outline.text operation, account.parameters⟩

theorem eq_of_map_eq {bindings others : List Binding}
    (hnames : bindings.map Prod.fst = others.map Prod.fst)
    (hvalues : bindings.map Prod.snd = others.map Prod.snd) : bindings = others :=
  (List.zip_of_prod hnames hvalues).trans (List.zip_of_prod rfl rfl).symm

/-- A statement for an operation says what an account says: its text and its parameters are those of
the account. -/
def Reads (account : Account) (operation : RowOperation) (statement : Statement) : Prop :=
  account.outline.Complete operation ∧ account.statement operation = statement

variable {account other : Account} {operation : RowOperation} {statement another : Statement}

theorem Reads.outline_eq (h : account.Reads operation statement)
    (hother : other.Reads operation another) (hsql : statement.sql = another.sql) :
    account.outline = other.outline := by
  obtain ⟨hcomplete, rfl⟩ := h
  obtain ⟨hcompleteOther, rfl⟩ := hother
  exact Outline.eq_of_text_eq hcomplete hcompleteOther hsql

theorem Reads.eq (h : account.Reads operation statement)
    (hother : other.Reads operation statement) : account = other := by
  have houtline := h.outline_eq hother rfl
  have hparameters : account.parameters = other.parameters :=
    congrArg Statement.parameters (h.2.trans hother.2.symm)
  have hwritten := congrArg Outline.written houtline
  have hlength := congrArg List.length hwritten
  obtain ⟨hvalues, hkeyValues⟩ := List.append_inj hparameters (by simpa [outline] using hlength)
  exact Account.ext (congrArg Outline.table houtline) (eq_of_map_eq hwritten hvalues)
    (eq_of_map_eq (congrArg Outline.key houtline) hkeyValues)

end Account

namespace RowImage

variable (image : RowImage)

def bindings (columns : List Column) (value : Column → SqlValue) : List Binding :=
  columns.map fun column => (column.name, value column)

def account : RowOperation → Account
  | .insert => ⟨image.schema.table, bindings image.insertedColumns image.columnValue, []⟩
  | .update =>
    ⟨image.schema.table, bindings image.updatedColumns image.columnValue,
      bindings image.schema.keyColumns image.keyValue⟩
  | .delete => ⟨image.schema.table, [], bindings image.schema.keyColumns image.keyValue⟩

variable {image}

theorem map_fst_bindings (columns : List Column) (value : Column → SqlValue) :
    (bindings columns value).map Prod.fst = columns.map Column.name := by
  simp [bindings]

theorem map_snd_bindings (columns : List Column) (value : Column → SqlValue) :
    (bindings columns value).map Prod.snd = columns.map value := by
  simp [bindings]

theorem assignments_names (columns : List Column) :
    Outline.assignments (columns.map Column.name) = assignmentTexts columns := by
  simp [Outline.assignments, assignmentTexts]

variable (image)

theorem text_insert : (image.account .insert).outline.text .insert = image.insertText := by
  unfold Outline.text Outline.columnsText insertText
  simp only [account, Account.outline, map_fst_bindings, List.map_eq_nil_iff, List.map_map]
  cases image.insertedColumns with
  | nil => rfl
  | cons column columns =>
    rw [if_neg (List.cons_ne_nil _ _)]
    simp only [String.append_assoc]
    rfl

theorem text_update : (image.account .update).outline.text .update = image.updateText := by
  simp only [Outline.text, Outline.setText, Outline.keyText, updateText, Schema.keyText, account,
    Account.outline, map_fst_bindings, assignments_names, String.append_assoc]

theorem text_delete : (image.account .delete).outline.text .delete = image.deleteText := by
  simp only [Outline.text, Outline.keyText, deleteText, Schema.keyText, account, Account.outline,
    map_fst_bindings, assignments_names, String.append_assoc]

theorem parameters_account (operation : RowOperation) :
    (image.account operation).parameters =
      match operation with
      | .insert => image.insertedColumns.map image.columnValue
      | .update => image.updatedColumns.map image.columnValue ++ image.keyValues
      | .delete => image.keyValues := by
  cases operation <;> simp [account, Account.parameters, map_snd_bindings, keyValues]

theorem update_of_no_key (h : image.schema.keyColumns = []) :
    image.update = .error (.validation (.noKey "update" image.schema.table.text)) := by
  unfold update updateTemplate keyClause
  rw [h]
  rfl

theorem update_of_nothing_set (hkey : image.schema.keyColumns ≠ [])
    (h : image.updatedColumns = []) :
    image.update = .error (.validation (.nothingToSet image.schema.table.text)) := by
  unfold update updateTemplate
  rw [image.keyClause_eq_ok_iff.2 ⟨hkey, rfl⟩, h]
  rfl

theorem delete_of_no_key (h : image.schema.keyColumns = []) :
    image.delete = .error (.validation (.noKey "delete" image.schema.table.text)) := by
  unfold delete deleteTemplate keyClause
  rw [h]
  rfl

theorem key_account_eq_nil_iff (operation : RowOperation) (h : operation ≠ .insert) :
    (image.account operation).outline.key = [] ↔ image.schema.keyColumns = [] := by
  cases operation with
  | insert => exact absurd rfl h
  | update | delete => simp [account, Account.outline, bindings]

theorem updated_account_eq_nil_iff :
    (image.account .update).outline.written = [] ↔ image.updatedColumns = [] := by
  simp [account, Account.outline, bindings]

theorem statement_insert : image.statement .insert = .ok image.insert := rfl

theorem statement_eq (operation : RowOperation) :
    image.statement operation =
      match (image.account operation).outline.fault? operation with
      | some cause => .error (.validation cause)
      | none => .ok ((image.account operation).statement operation) := by
  cases operation with
  | insert =>
    change Except.ok image.insert = .ok ⟨_, _⟩
    rw [insert_eq, text_insert, parameters_account]
  | update =>
    change image.update = _
    simp only [Outline.fault?, image.key_account_eq_nil_iff .update (by decide),
      image.updated_account_eq_nil_iff]
    by_cases hkey : image.schema.keyColumns = []
    · rw [if_pos hkey, image.update_of_no_key hkey]
      rfl
    · by_cases hcolumns : image.updatedColumns = []
      · rw [if_neg hkey, if_pos hcolumns, image.update_of_nothing_set hkey hcolumns]
        rfl
      · rw [if_neg hkey, if_neg hcolumns]
        refine image.update_eq_ok_iff.2 ⟨hkey, hcolumns, ?_⟩
        rw [Account.statement, text_update, parameters_account]
  | delete =>
    change image.delete = _
    simp only [Outline.fault?, image.key_account_eq_nil_iff .delete (by decide)]
    by_cases hkey : image.schema.keyColumns = []
    · rw [if_pos hkey, image.delete_of_no_key hkey]
      rfl
    · rw [if_neg hkey]
      refine image.delete_eq_ok_iff.2 ⟨hkey, ?_⟩
      rw [Account.statement, text_delete, parameters_account]

variable {image}

theorem complete_account_iff {operation : RowOperation} :
    (image.account operation).outline.Complete operation ↔
      (image.account operation).outline.fault? operation = none := by
  cases operation with
  | insert => simp [Outline.Complete, Outline.fault?, account, Account.outline]
  | update =>
    simp only [Outline.Complete, Outline.fault?]
    by_cases hkey : (image.account .update).outline.key = [] <;>
      by_cases hwritten : (image.account .update).outline.written = [] <;> simp [hkey, hwritten]
  | delete => simp [Outline.Complete, Outline.fault?, account, Account.outline]

theorem statement_eq_ok_iff {operation : RowOperation} {statement : Statement} :
    image.statement operation = .ok statement ↔
      (image.account operation).Reads operation statement := by
  unfold Account.Reads
  rw [statement_eq, complete_account_iff]
  cases (image.account operation).outline.fault? operation with
  | none => simp
  | some cause => simp

/-- There is no other way to read a statement that is built. -/
theorem reads_iff {operation : RowOperation} {statement : Statement} {account : Account}
    (h : image.statement operation = .ok statement) :
    account.Reads operation statement ↔ account = image.account operation := by
  have hreads := statement_eq_ok_iff.1 h
  constructor
  · intro haccount
    exact haccount.eq hreads
  · rintro rfl
    exact hreads

end RowImage

end RecordMapper
