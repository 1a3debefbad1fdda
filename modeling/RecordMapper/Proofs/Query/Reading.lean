import RecordMapper.Proofs.Query.Calls
import RecordMapper.Proofs.Query.Template

/-!
A query that binds its values can be read from its statement. The text tells the columns, the source
and the shape of the condition, whatever stands in the quotes of the names; with the parameters it
tells the condition, up to the order in which its parts were joined.
-/

namespace RecordMapper.SelectQuery

def BehindColumn (rest : List Char) : Prop :=
  ∃ c cs, rest = c :: cs ∧ (c = ',' ∨ c = ' ')

theorem BehindColumn.ends {rest : List Char} (h : BehindColumn rest) : Identifier.Ends rest := by
  rcases h with ⟨c, cs, rfl, rfl | rfl⟩
  · exact ⟨by decide, by decide, by simp⟩
  · exact ⟨by decide, by decide, by simp⟩

theorem ends_star (rest : List Char) : Identifier.Ends ('.' :: '*' :: rest) :=
  ⟨by decide, by decide, fun _ => rfl⟩

theorem star_not_accepted {name rest rest' : List Char} (hname : Identifier.Valid name) :
    '*' :: rest ≠ name ++ rest' := by
  rcases hname.accepts.head_start with ⟨c, cs, rfl, hc⟩
  intro heq
  cases (List.cons.inj heq).1
  revert hc
  decide

theorem readable_columns : Readable IsColumn BehindColumn := by
  have hends : ∀ star rest, star = [] ∨ star = ['.', '*'] → BehindColumn rest →
      Identifier.Ends (star ++ rest) := by
    rintro star rest (rfl | rfl) hrest
    · exact hrest.ends
    · exact ends_star rest
  rintro a b x y (rfl | ⟨name, star, hname, hstar, rfl⟩) (rfl | ⟨name', star', hname', hstar', rfl⟩)
    hx hy h
  · exact ⟨rfl, (List.cons.inj h).2⟩
  · rw [List.append_assoc] at h
    exact absurd h (star_not_accepted hname')
  · rw [List.append_assoc] at h
    exact absurd h.symm (star_not_accepted hname)
  · rw [List.append_assoc, List.append_assoc] at h
    rcases Identifier.readable hname hname' (hends _ _ hstar hx)
      (hends _ _ hstar' hy) h with ⟨rfl, hrest⟩
    rcases hx with ⟨c, cs, rfl, hc⟩
    rcases hy with ⟨d, ds, rfl, hd⟩
    rcases hstar with rfl | rfl
    · rcases hstar' with rfl | rfl
      · exact ⟨rfl, hrest⟩
      · cases (List.cons.inj hrest).1
        simp at hc
    · rcases hstar' with rfl | rfl
      · cases (List.cons.inj hrest).1
        simp at hd
      · exact ⟨rfl, List.append_cancel_left hrest⟩

def restrictionText (condition : Option Condition) : List Char :=
  condition.elim [] fun condition => ' ' :: ("WHERE ".toList ++ condition.template.sql.toList)

theorem sql_selectTemplate (columns : List String) (table : String) (condition : Option Condition) :
    (selectTemplate columns table condition).sql.toList =
      "SELECT ".toList ++ (", ".toList.intercalate (columns.map String.toList) ++
        (" FROM ".toList ++ (table.toList ++ restrictionText condition))) := by
  unfold selectTemplate restrictionText
  cases condition with
  | none => simp [Template.sql, String.toList_intercalate]
  | some condition => simp [Template.sql, String.toList_intercalate]

theorem ends_restrictionText (condition : Option Condition) :
    Identifier.Ends (restrictionText condition) := by
  cases condition with
  | none => exact trivial
  | some condition => exact ⟨by decide, by decide, fun h => absurd h (by decide)⟩

theorem restrictionText_eq_iff {condition other : Option Condition}
    (h : ∀ c ∈ condition, c.Bound) (h' : ∀ c ∈ other, c.Bound) :
    restrictionText condition = restrictionText other ↔
      condition.map Condition.shape = other.map Condition.shape := by
  unfold restrictionText
  rcases condition with _ | condition <;> rcases other with _ | other
  · simp
  · simp
  · simp
  · simp only [Option.elim, List.cons.injEq, true_and, List.append_cancel_left_eq,
      String.toList_inj, Option.map_some, Option.some_inj]
    exact Condition.sql_eq_iff (h _ rfl) (h' _ rfl)

theorem sql_eq_iff {query other : SelectQuery} {template template' : Template}
    {table table' : String} {condition condition' : Option Condition}
    (builds : query.Builds template table condition)
    (builds' : other.Builds template' table' condition') (hbound : ∀ c ∈ condition, c.Bound)
    (hbound' : ∀ c ∈ condition', c.Bound) :
    template.sql = template'.sql ↔ query.columns = other.columns ∧ table = table' ∧
      condition.map Condition.shape = condition'.map Condition.shape := by
  have hcolumns := List.forall_mem_map.2 builds.isColumn
  have hcolumns' := List.forall_mem_map.2 builds'.isColumn
  rw [← String.toList_inj, builds.template_eq, builds'.template_eq, sql_selectTemplate,
    sql_selectTemplate, List.append_cancel_left_eq, ← restrictionText_eq_iff hbound hbound']
  constructor
  · intro h
    have hcomma : ∀ rest, BehindColumn (", ".toList ++ rest) := fun rest => ⟨',', _, rfl, .inl rfl⟩
    have hfrom : ∀ rest, BehindColumn (" FROM ".toList ++ rest) :=
      fun rest => ⟨' ', _, rfl, .inr rfl⟩
    have hprojections := readable_columns.intercalate hcomma
      (by simpa using builds.columns_ne_nil) (by simpa using builds'.columns_ne_nil)
      hcolumns hcolumns' (hfrom _) (hfrom _) (by simp) (by simp) h
    rcases hprojections with ⟨hlists, hrest⟩
    have hsources := Identifier.readable builds.table_valid builds'.table_valid
      (ends_restrictionText _) (ends_restrictionText _) (List.append_cancel_left hrest)
    rcases hsources with ⟨htable, hrestriction⟩
    exact ⟨(List.map_inj_right fun _ _ => String.toList_inj.1).1 hlists, String.toList_inj.1 htable,
      hrestriction⟩
  · rintro ⟨heq, rfl, hrestriction⟩
    rw [heq, hrestriction]

/-- The condition of a query, up to the order in which its parts were joined. -/
def chain? (query : SelectQuery) : Option (Chain Comparison) :=
  query.conditions.current?.map Condition.chain

/-- What a query's text tells of the condition. -/
def shape? (query : SelectQuery) : Option (Chain Heading) :=
  query.conditions.current?.map Condition.shape

def restrictionParameters (condition : Option Condition) : List SqlValue :=
  condition.elim [] fun condition => condition.template.parameters

theorem parameters_selectTemplate (columns : List String) (table : String)
    (condition : Option Condition) :
    (selectTemplate columns table condition).parameters = restrictionParameters condition := by
  cases condition with
  | none => rfl
  | some condition => rfl

theorem chain_eq_iff {condition other : Option Condition} (h : ∀ c ∈ condition, c.Bound)
    (h' : ∀ c ∈ other, c.Bound) :
    condition.map Condition.chain = other.map Condition.chain ↔
      condition.map Condition.shape = other.map Condition.shape ∧
      restrictionParameters condition = restrictionParameters other := by
  unfold restrictionParameters
  rcases condition with _ | condition <;> rcases other with _ | other
  · simp
  · simp
  · simp
  · simp only [Option.map_some, Option.some_inj, Option.elim]
    exact Condition.chain_eq_iff (h _ rfl) (h' _ rfl)

/-- The statement of a query that binds its values can be read in one way only. However two queries
were made, their texts are the same just when they have the same columns, source and shape of the
condition, and their parameters are the same too just when they have the same condition. -/
theorem build_eq_iff {calls calls' : List Call} {statement statement' : Statement}
    (hbound : ∀ call ∈ calls, call.Bound) (hbound' : ∀ call ∈ calls', call.Bound)
    (h : (after calls).build = .ok statement) (h' : (after calls').build = .ok statement') :
    let query := after calls
    let other := after calls'
    (statement.sql = statement'.sql ↔ query.columns = other.columns ∧ query.table = other.table ∧
      query.shape? = other.shape?) ∧
    (statement.sql = statement'.sql ∧ statement.parameters = statement'.parameters ↔
      query.columns = other.columns ∧ query.table = other.table ∧ query.chain? = other.chain?) := by
  intro query other
  rcases Outcome.map_eq_ok_iff.1 h with ⟨template, htemplate, rfl⟩
  rcases Outcome.map_eq_ok_iff.1 h' with ⟨template', htemplate', rfl⟩
  rcases builds_of_template htemplate with ⟨table, condition, builds⟩
  rcases builds_of_template htemplate' with ⟨table', condition', builds'⟩
  have hcurrent : query.conditions.current? = condition := builds.condition_eq
  have hcurrent' : other.conditions.current? = condition' := builds'.condition_eq
  have hcondition := hcurrent ▸ (bound_after hbound).current
  have hcondition' := hcurrent' ▸ (bound_after hbound').current
  have htable : query.table = other.table ↔ table = table' := by
    rw [builds.source, builds'.source, Option.some_inj]
  have hsql := sql_eq_iff builds builds' hcondition hcondition'
  have hparameters : template.parameters = template'.parameters ↔
      restrictionParameters condition = restrictionParameters condition' := by
    rw [builds.template_eq, builds'.template_eq, parameters_selectTemplate,
      parameters_selectTemplate]
  unfold Template.statement chain? shape?
  rw [hcurrent, hcurrent', htable, chain_eq_iff hcondition hcondition']
  refine ⟨hsql, ?_⟩
  rw [hsql, hparameters, and_assoc, and_assoc]

def quotedColumns : List String :=
  ["\"a, b\"", "c.*"]

def quotedTable : String :=
  "\"t WHERE \"\"a\"\"\""

def quotedName : Identifier :=
  ⟨"\"x = ? AND (y\"", by decide⟩

def plainName : Identifier :=
  ⟨"z", by decide⟩

def stepwise : List Call :=
  [.select quotedColumns, .source quotedTable, .restrict (.filter quotedName.text .gt (.int 5)),
    .restrict (.assemble (.conjoin .and)), .restrict (.filter plainName.text .like (.text "?")),
    .restrict (.assemble (.conjoin .or)), .restrict (.filter plainName.text .eq .null)]

def joinedCondition : Condition :=
  .joined (.leaf quotedName .gt (.int 5) true) .and
    (.joined (.leaf plainName .like (.text "?") true) .or (.leaf plainName .eq .null true))

def atOnce : List Call :=
  [.restrict (.assemble (.add joinedCondition)), .restrict (.assemble .closeGroup),
    .source quotedTable, .select quotedColumns]

theorem bound_stepwise : ∀ call ∈ stepwise, call.Bound := by
  simp [stepwise, Call.Bound, Assembler.Call.added]

theorem bound_atOnce : ∀ call ∈ atOnce, call.Bound := by
  simp [atOnce, Call.Bound, Assembler.Call.added, Condition.Bound, joinedCondition,
    Condition.leaves]

theorem builds_quoted {query : SelectQuery} {condition : Option Condition}
    (hcolumns : query.columns = quotedColumns) (hsource : query.table = some quotedTable)
    (hconditions : query.conditions = ⟨⟨condition, none⟩, []⟩) :
    query.Builds (selectTemplate quotedColumns quotedTable condition) quotedTable condition where
  columns_ne_nil := by
    rw [hcolumns]
    decide
  source := hsource
  table_valid := by decide
  columns_checked := by
    rw [hcolumns]
    refine List.forall_mem_cons.2 ⟨rfl, List.forall_mem_cons.2 ⟨rfl, ?_⟩⟩
    simp
  closed := by rw [hconditions]
  condition_eq := by rw [hconditions]
  template_eq := by rw [hcolumns]

theorem build_eq_iff_quoted : ∃ statement statement',
    (after stepwise).build = .ok statement ∧ (after atOnce).build = .ok statement' ∧
    (∀ call ∈ stepwise, call.Bound) ∧ (∀ call ∈ atOnce, call.Bound) ∧
    statement'.sql = "SELECT \"a, b\", c.* FROM \"t WHERE \"\"a\"\"\" WHERE " ++
      "\"x = ? AND (y\" > ? AND z LIKE ? OR z = ?" ∧
    statement.sql = statement'.sql ∧ statement.parameters = statement'.parameters := by
  have h : (after stepwise).build = _ := (builds_quoted rfl rfl rfl).build_eq_ok
  have h' : (after atOnce).build = _ := (builds_quoted rfl rfl rfl).build_eq_ok
  refine ⟨_, _, h, h', bound_stepwise, bound_atOnce, by decide, ?_⟩
  exact (build_eq_iff bound_stepwise bound_atOnce h h').2.2 ⟨rfl, rfl, rfl⟩

end RecordMapper.SelectQuery
