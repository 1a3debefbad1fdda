import RecordMapper.Proofs.Query.Hidden
import RecordMapper.Proofs.RowImage.Key

/-!
Values are never told by a text or by the log. A statement on a row depends on the members of a
record only by which of them are set, and a query on the values that it binds only by how many they
are; what is logged of a statement is made of its text and of the number of its parameters.
-/

namespace RecordMapper

/-- Results that cannot be told apart without the values of parameters: the same fault, or
statements of one text and with as many parameters, which every logger logs alike. -/
inductive SameOutside : Except Fault Statement → Except Fault Statement → Prop where
  | refused (fault : Fault) : SameOutside (.error fault) (.error fault)
  | built {statement other : Statement} (sql : statement.sql = other.sql)
    (count : statement.parameters.length = other.parameters.length)
    (events : ∀ logger : Logger, logger.events statement = logger.events other) :
    SameOutside (.ok statement) (.ok other)

theorem Logger.events_eq {statement other : Statement} (logger : Logger)
    (hsql : statement.sql = other.sql)
    (hcount : statement.parameters.length = other.parameters.length) :
    logger.events statement = logger.events other := by
  unfold events
  rw [hsql, hcount]

theorem SameOutside.of_eq {statement other : Statement} (hsql : statement.sql = other.sql)
    (hcount : statement.parameters.length = other.parameters.length) :
    SameOutside (.ok statement) (.ok other) :=
  .built hsql hcount fun logger => logger.events_eq hsql hcount

theorem SameOutside.of_hide_eq {result other : Except Fault Statement}
    (h : result.map Statement.hide = other.map Statement.hide) : SameOutside result other := by
  cases result with
  | error fault =>
    cases other with
    | error fault' =>
      cases h
      exact .refused fault
    | ok statement => cases h
  | ok statement =>
    cases other with
    | error fault => cases h
    | ok statement' =>
      obtain ⟨hsql, hparameters⟩ := Statement.mk.inj (Except.ok.inj h)
      have hcount := congrArg List.length hparameters
      rw [List.length_map, List.length_map] at hcount
      exact .of_eq hsql hcount

namespace RowImage

variable {image other : RowImage} {operation : RowOperation}

theorem length_parameters (account : Account) :
    account.parameters.length = account.outline.written.length + account.outline.key.length := by
  simp [Account.parameters, Account.outline]

theorem sameOutside_of_outline_eq
    (h : (image.account operation).outline = (other.account operation).outline) :
    SameOutside (image.statement operation) (other.statement operation) := by
  rw [statement_eq, statement_eq, h]
  cases (other.account operation).outline.fault? operation with
  | some cause => exact .refused _
  | none =>
    refine .of_eq (congrArg (Outline.text · operation) h) ?_
    change (image.account operation).parameters.length =
      (other.account operation).parameters.length
    rw [length_parameters, length_parameters, h]

theorem outline_eq {schema : Schema} {snapshot another : Snapshot}
    (h : ∀ column ∈ schema.columns,
      snapshot.isSet column.member = another.isSet column.member) (operation : RowOperation) :
    (account ⟨schema, snapshot⟩ operation).outline =
      (account ⟨schema, another⟩ operation).outline := by
  have hwrites : ∀ column ∈ schema.columns,
      writes ⟨schema, snapshot⟩ column = writes ⟨schema, another⟩ column := by
    intro column hcolumn
    rw [writes, writes, h column hcolumn]
  cases operation with
  | insert =>
    have hcolumns : insertedColumns ⟨schema, snapshot⟩ = insertedColumns ⟨schema, another⟩ :=
      List.filter_congr hwrites
    simp only [account, Account.outline, map_fst_bindings, hcolumns]
  | update =>
    have hcolumns : updatedColumns ⟨schema, snapshot⟩ = updatedColumns ⟨schema, another⟩ := by
      refine List.filter_congr fun column hcolumn => ?_
      rw [hwrites column hcolumn]
    simp only [account, Account.outline, map_fst_bindings, hcolumns]
  | delete => simp only [account, Account.outline, map_fst_bindings]

end RowImage

/-- No value reaches a text or the log: neither the value of a member that is set, nor a value that
a query binds. -/
theorem values_undisclosed :
    (∀ (schema : Schema) (snapshot another : Snapshot),
      (∀ column ∈ schema.columns,
        snapshot.isSet column.member = another.isSet column.member) →
      ∀ operation, SameOutside (RowImage.statement ⟨schema, snapshot⟩ operation)
        (RowImage.statement ⟨schema, another⟩ operation)) ∧
      ∀ calls others : List SelectQuery.Call,
        calls.map SelectQuery.Call.hide = others.map SelectQuery.Call.hide →
          SelectQuery.empty.outcomes calls = SelectQuery.empty.outcomes others ∧
            SameOutside (SelectQuery.after calls).build (SelectQuery.after others).build := by
  constructor
  · intro schema snapshot another h operation
    exact RowImage.sameOutside_of_outline_eq (RowImage.outline_eq h operation)
  · intro calls others h
    constructor
    · rw [← SelectQuery.outcomes_hide, h]
      exact SelectQuery.outcomes_hide _ others
    · apply SameOutside.of_hide_eq
      rw [← SelectQuery.build_hide, ← SelectQuery.build_hide, ← SelectQuery.after_hide, h,
        SelectQuery.after_hide]

def numberedQuery (key : SqlValue) : List SelectQuery.Call :=
  [.select ["*"], .source "Accounts", .restrict (.filter "number" .eq key)]

theorem values_undisclosed_numbered :
    (∀ operation, SameOutside ((RowImage.numbered (.string "5")).statement operation)
      ((RowImage.numbered (.array [])).statement operation)) ∧
      SameOutside (SelectQuery.after (numberedQuery (.int 5))).build
        (SelectQuery.after (numberedQuery (.text "secret"))).build := by
  have hcalls : (numberedQuery (.int 5)).map SelectQuery.Call.hide =
      (numberedQuery (.text "secret")).map SelectQuery.Call.hide := rfl
  refine ⟨values_undisclosed.1 _ _ _ ?_, (values_undisclosed.2 _ _ hcalls).2⟩
  simp only [List.forall_mem_cons]
  exact ⟨rfl, rfl, by simp⟩

end RecordMapper
