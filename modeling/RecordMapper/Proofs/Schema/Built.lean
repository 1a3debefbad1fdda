import RecordMapper.Proofs.Outcome
import RecordMapper.Schema.InPlace

/-!
Schemas that are built. A schema can be built when its names are identifiers and no column is
declared twice, and then it is what was declared: its columns in order, each with what the last of
its attributes of a kind says, and the key made of the columns that were declared primary.
-/

namespace RecordMapper

namespace Attribute

def isPrimary : Attribute → Bool
  | .primary => true
  | _ => false

def isAutoIncrement : Attribute → Bool
  | .autoIncrement => true
  | _ => false

def nullable? : Attribute → Option Bool
  | .nullable allowed => some allowed
  | _ => none

def member? : Attribute → Option String
  | .member name => some name
  | _ => none

def parser? : Attribute → Option Parser
  | .typed type => some type.parser
  | .parser parse => some parse
  | _ => none

def caster? : Attribute → Option Caster
  | .typed type => some type.caster
  | .caster cast => some cast
  | _ => none

/-- What the last attribute says that says anything of a matter. -/
def last {α : Type} (tells : Attribute → Option α) (attributes : List Attribute) : Option α :=
  (attributes.filterMap tells).getLast?

theorem last_cons {α : Type} (tells : Attribute → Option α) (said : Attribute)
    (attributes : List Attribute) :
    last tells (said :: attributes) = (last tells attributes).or (tells said) := by
  unfold last
  cases h : tells said with
  | none => simp [h]
  | some a =>
    rw [List.filterMap_cons, h, List.getLast?_cons]
    cases (attributes.filterMap tells).getLast? <;> rfl

end Attribute

namespace Declaration

theorem last_foldl {α : Type} (get : Declaration → Option α) (tells : Attribute → Option α)
    (h : ∀ declaration said, get (apply declaration said) =
      (tells said).or (get declaration))
    (declaration : Declaration) (attributes : List Attribute) :
    get (attributes.foldl apply declaration) =
      (Attribute.last tells attributes).or (get declaration) := by
  induction attributes generalizing declaration with
  | nil => rfl
  | cons said attributes ih =>
    rw [List.foldl_cons, ih, h, Attribute.last_cons, Option.or_assoc]

theorem any_foldl (flag : Declaration → Bool) (tells : Attribute → Bool)
    (h : ∀ declaration said, flag (apply declaration said) =
      (flag declaration || tells said))
    (declaration : Declaration) (attributes : List Attribute) :
    flag (attributes.foldl apply declaration) = (flag declaration || attributes.any tells) := by
  induction attributes generalizing declaration with
  | nil => simp
  | cons said attributes ih =>
    rw [List.foldl_cons, ih, h, List.any_cons, Bool.or_assoc]

theorem primary_ofAttributes (attributes : List Attribute) :
    (ofAttributes attributes).primary = attributes.any Attribute.isPrimary := by
  apply any_foldl (·.primary) Attribute.isPrimary
  intro declaration said
  cases said <;> simp [apply, Attribute.isPrimary]

theorem autoIncrements_ofAttributes (attributes : List Attribute) :
    (ofAttributes attributes).autoIncrements = attributes.any Attribute.isAutoIncrement := by
  apply any_foldl (·.autoIncrements) Attribute.isAutoIncrement
  intro declaration said
  cases said <;> simp [apply, Attribute.isAutoIncrement]

theorem last_ofAttributes {α : Type} (get : Declaration → Option α) (tells : Attribute → Option α)
    (hempty : get empty = none)
    (h : ∀ declaration said, get (apply declaration said) =
      (tells said).or (get declaration)) (attributes : List Attribute) :
    get (ofAttributes attributes) = Attribute.last tells attributes := by
  rw [ofAttributes, last_foldl get tells h, hempty, Option.or_none]

end Declaration

namespace Schema

structure Field.Declared (field : Field) (name : String) (attributes : List Attribute) : Prop where
  member_eq : field.member = (Attribute.last Attribute.member? attributes).getD name
  autoIncrements_eq : field.autoIncrements = attributes.any Attribute.isAutoIncrement
  nullable_eq : field.nullable = (!attributes.any Attribute.isPrimary &&
    (Attribute.last Attribute.nullable? attributes).getD true)
  parse_eq : field.parse = (Attribute.last Attribute.parser? attributes).getD identityParser
  cast_eq : field.cast = (Attribute.last Attribute.caster? attributes).getD passThroughCaster

theorem Field.declared_ofDeclaration (name : String) (attributes : List Attribute) :
    (Field.ofDeclaration name (.ofAttributes attributes)).Declared name attributes := by
  have hmember := Declaration.last_ofAttributes (·.member) Attribute.member? rfl
    (fun _ said => by cases said <;> rfl) attributes
  have hnullable := Declaration.last_ofAttributes (·.nullable) Attribute.nullable? rfl
    (fun _ said => by cases said <;> rfl) attributes
  have hparser := Declaration.last_ofAttributes (·.parser) Attribute.parser? rfl
    (fun _ said => by cases said <;> rfl) attributes
  have hcaster := Declaration.last_ofAttributes (·.caster) Attribute.caster? rfl
    (fun _ said => by cases said <;> rfl) attributes
  constructor
  · rw [← hmember]
    rfl
  · exact Declaration.autoIncrements_ofAttributes attributes
  · rw [← hnullable, ← Declaration.primary_ofAttributes]
    rfl
  · rw [← hparser]
    rfl
  · rw [← hcaster]
    rfl

/-! What can be built. -/

namespace Builder

theorem exists_ofText_iff {role name : String} :
    (∃ identifier, Identifier.ofText role name = .ok identifier) ↔
      Identifier.Valid name.toList := by
  constructor
  · rintro ⟨identifier, h⟩
    exact Identifier.valid_of_ofText h
  · intro h
    exact ⟨⟨name, h⟩, Identifier.ofText_eq_ok_iff.2 rfl⟩

variable {table : String} {taken next : List (String × Field)}

theorem take_eq_ok_iff {column : String × Declaration} :
    take table taken column = .ok next ↔
      Identifier.Valid column.1.toList ∧ column.1 ∉ taken.map (·.1) ∧
        taken ++ [(column.1, .ofDeclaration column.1 column.2)] = next := by
  have htaken : (taken.any fun other => other.1 == column.1) = true ↔
      column.1 ∈ taken.map (·.1) := by
    rw [List.any_eq_true, List.mem_map]
    simp only [beq_iff_eq]
  unfold take
  rw [Outcome.bind_eq_ok_iff, exists_and_right, exists_ofText_iff, ← htaken]
  by_cases hany : (taken.any fun other => other.1 == column.1) = true
  · rw [if_pos hany]
    constructor
    · rintro ⟨-, ⟨⟩⟩
    · rintro ⟨-, hnew, -⟩
      exact absurd hany hnew
  · rw [if_neg hany]
    simp [hany, pure, Except.pure]

theorem foldlM_take_eq_ok_iff {columns : List (String × Declaration)} :
    columns.foldlM (take table) taken = .ok next ↔
      (∀ column ∈ columns, Identifier.Valid column.1.toList) ∧ (columns.map (·.1)).Nodup ∧
        (∀ column ∈ columns, column.1 ∉ taken.map (·.1)) ∧
        taken ++ columns.map (fun column => (column.1, .ofDeclaration column.1 column.2)) = next := by
  induction columns generalizing taken with
  | nil => simp [pure, Except.pure]
  | cons column columns ih =>
    have hbehind (name : String) (field : Field) :
        name ∉ (taken ++ [(column.1, field)]).map (·.1) ↔
          name ∉ taken.map (·.1) ∧ name ≠ column.1 := by
      simp
    rw [List.foldlM_cons, Outcome.bind_eq_ok_iff]
    simp only [take_eq_ok_iff, ih, List.map_cons, List.forall_mem_cons, List.nodup_cons]
    constructor
    · rintro ⟨_, ⟨hvalid, hnew, rfl⟩, hvalids, hnodup, hnews, rfl⟩
      simp only [hbehind] at hnews
      refine ⟨⟨hvalid, hvalids⟩, ⟨?_, hnodup⟩, ⟨hnew, ?_⟩, ?_⟩
      · rw [List.mem_map]
        rintro ⟨other, hother, hname⟩
        exact (hnews other hother).2 hname
      · exact fun other hother => (hnews other hother).1
      · rw [List.append_assoc, List.singleton_append]
    · rintro ⟨⟨hvalid, hvalids⟩, ⟨hfirst, hnodup⟩, ⟨hnew, hnews⟩, rfl⟩
      refine ⟨_, ⟨hvalid, hnew, rfl⟩, hvalids, hnodup, ?_, ?_⟩
      · intro other hother
        rw [hbehind]
        refine ⟨hnews other hother, fun hname => hfirst ?_⟩
        exact hname ▸ List.mem_map_of_mem hother
      · rw [List.append_assoc, List.singleton_append]

end Builder

def Definition.ofDeclarations (table : String) (declarations : List (String × List Attribute)) :
    Definition where
  table := table
  keyNames := (declarations.filter fun declared => declared.2.any Attribute.isPrimary).map (·.1)
  columns := declarations.map fun declared =>
    (declared.1, .ofDeclaration declared.1 (.ofAttributes declared.2))

theorem build_eq_ok_iff {table : String} {declarations : List (String × List Attribute)}
    {definition : Definition} :
    (Builder.ofDeclarations table declarations).build = .ok definition ↔
      Identifier.Valid table.toList ∧
        (∀ declared ∈ declarations, Identifier.Valid declared.1.toList) ∧
        (declarations.map (·.1)).Nodup ∧
        .ofDeclarations table declarations = definition := by
  have hkeys : (declarations.filter fun declared => (Declaration.ofAttributes declared.2).primary) =
      declarations.filter fun declared => declared.2.any Attribute.isPrimary := by
    simp only [Declaration.primary_ofAttributes]
  unfold Builder.ofDeclarations
  rw [columns_ofDeclarations]
  unfold Builder.build
  dsimp only [Builder.start]
  rw [Outcome.bind_eq_ok_iff, exists_and_right, Builder.exists_ofText_iff, Outcome.bind_eq_ok_iff]
  simp only [Builder.foldlM_take_eq_ok_iff, hkeys, List.nil_append, List.forall_mem_map,
    List.map_map, List.map_nil, List.not_mem_nil, not_false_eq_true, implies_true, true_and]
  constructor
  · rintro ⟨htable, columns, ⟨hnames, hnodup, rfl⟩, hbuilt⟩
    exact ⟨htable, hnames, hnodup, Except.ok.inj hbuilt⟩
  · rintro ⟨htable, hnames, hnodup, rfl⟩
    exact ⟨htable, _, ⟨hnames, hnodup, rfl⟩, rfl⟩

/-- A schema is well formed, and it is what was declared. -/
structure Definition.Declares (definition : Definition) (table : String)
    (declarations : List (String × List Attribute)) : Prop where
  table_eq : definition.table = table
  names_eq : definition.columns.map (·.1) = declarations.map (·.1)
  keyNames_eq : definition.keyNames =
    (declarations.filter fun declared => declared.2.any Attribute.isPrimary).map (·.1)
  keyNames_nodup : definition.keyNames.Nodup
  /-- Every column of the key is a column, and takes no null. -/
  key_found : ∀ name ∈ definition.keyNames, ∃ field,
    definition.field? name = some field ∧ field.nullable = false
  /-- A column is found by its name, as it was declared. -/
  field?_eq_some_iff : ∀ name field, definition.field? name = some field ↔
    ∃ attributes, (name, attributes) ∈ declarations ∧ (name, field) ∈ definition.columns ∧
      field.Declared name attributes
  identityField?_eq_some_iff : ∀ name field, definition.identityField? = some (name, field) ↔
    definition.keyNames = [name] ∧ definition.field? name = some field ∧
      field.autoIncrements = true

namespace Definition

variable {definition : Definition}

theorem field?_eq_some_iff (hnodup : (definition.columns.map (·.1)).Nodup) {name : String}
    {field : Field} : definition.field? name = some field ↔ (name, field) ∈ definition.columns := by
  unfold field?
  constructor
  · intro h
    obtain ⟨⟨found, _⟩, hfound, rfl⟩ := Option.map_eq_some_iff.1 h
    have hname := List.find?_some hfound
    rw [beq_iff_eq] at hname
    exact hname ▸ List.mem_of_find?_eq_some hfound
  · intro hmem
    cases hfound : definition.columns.find? fun column => column.1 == name with
    | none =>
      have hnone := List.find?_eq_none.1 hfound (name, field) hmem
      simp at hnone
    | some found =>
      have hname := List.find?_some hfound
      rw [beq_iff_eq] at hname
      have hsame : found = (name, field) :=
        eq_of_pairwise_ne (List.pairwise_map.1 hnodup) (List.mem_of_find?_eq_some hfound) hmem hname
      rw [hsame, Option.map_some]

theorem identityField?_eq_some_iff {name : String} {field : Field} :
    definition.identityField? = some (name, field) ↔
      definition.keyNames = [name] ∧ definition.field? name = some field ∧
        field.autoIncrements = true := by
  unfold identityField?
  split
  · next only hkey =>
    rw [hkey, Option.map_eq_some_iff]
    constructor
    · rintro ⟨found, hfound, hsame⟩
      cases hsame
      exact ⟨rfl, Option.filter_eq_some_iff.1 hfound⟩
    · rintro ⟨hname, hfound⟩
      cases hname
      exact ⟨field, Option.filter_eq_some_iff.2 hfound, rfl⟩
  · next hkey =>
    constructor
    · rintro ⟨⟩
    · exact fun h => absurd h.1 (hkey name)

theorem declares_ofDeclarations {table : String} {declarations : List (String × List Attribute)}
    (hnodup : (declarations.map (·.1)).Nodup) :
    (ofDeclarations table declarations).Declares table declarations := by
  have hnames : (ofDeclarations table declarations).columns.map (·.1) =
      declarations.map (·.1) := by
    simp [ofDeclarations]
  have hdeclared {name : String} {field : Field} :
      (ofDeclarations table declarations).field? name = some field ↔
        ∃ attributes, (name, attributes) ∈ declarations ∧
          .ofDeclaration name (.ofAttributes attributes) = field := by
    rw [field?_eq_some_iff (hnames ▸ hnodup), ofDeclarations, List.mem_map]
    constructor
    · rintro ⟨⟨_, attributes⟩, hmem, hsame⟩
      cases hsame
      exact ⟨attributes, hmem, rfl⟩
    · rintro ⟨attributes, hmem, rfl⟩
      exact ⟨(name, attributes), hmem, rfl⟩
  constructor
  case table_eq => rfl
  case names_eq => exact hnames
  case keyNames_eq => rfl
  case keyNames_nodup => exact hnodup.sublist (List.filter_sublist.map _)
  case key_found =>
    intro name hname
    obtain ⟨⟨name, attributes⟩, hfiltered, rfl⟩ := List.mem_map.1 hname
    obtain ⟨hmem, hprimary⟩ := List.mem_filter.1 hfiltered
    refine ⟨_, hdeclared.2 ⟨attributes, hmem, rfl⟩, ?_⟩
    rw [(Field.declared_ofDeclaration name attributes).nullable_eq, hprimary]
    rfl
  case field?_eq_some_iff =>
    intro name field
    rw [hdeclared]
    constructor
    · rintro ⟨attributes, hmem, rfl⟩
      refine ⟨attributes, hmem, ?_, Field.declared_ofDeclaration name attributes⟩
      exact List.mem_map.2 ⟨(name, attributes), hmem, rfl⟩
    · rintro ⟨attributes, -, hfield, -⟩
      exact hdeclared.1 ((field?_eq_some_iff (hnames ▸ hnodup)).2 hfield)
  case identityField?_eq_some_iff =>
    exact fun _ _ => identityField?_eq_some_iff

end Definition

/-- A definition answers for the columns of a schema as the schema does. -/
structure Definition.Portrays (definition : Definition) (schema : Schema) : Prop where
  definition_eq : schema.definition = definition
  field?_eq : ∀ name, definition.field? name = (schema.column? name).map .ofColumn
  isPrimary_eq : ∀ name, definition.isPrimary name = schema.isPrimary name
  identityField?_eq : definition.identityField? = schema.identityColumn?.map entry

theorem portrays_definition (schema : Schema) : schema.definition.Portrays schema where
  definition_eq := rfl
  field?_eq := schema.field?_definition
  isPrimary_eq := schema.isPrimary_definition
  identityField?_eq := schema.identityField?_definition

/-- A schema is built from its declarations when the names are identifiers and differ, and it is
well formed: built in steps or at once, it is what was declared. -/
theorem built_as_declared (table : String) (declarations : List (String × List Attribute)) :
    ((∃ definition, (Builder.ofDeclarations table declarations).build = .ok definition) ↔
      Identifier.Valid table.toList ∧
        (∀ declared ∈ declarations, Identifier.Valid declared.1.toList) ∧
        (declarations.map (·.1)).Nodup) ∧
    ∀ definition, (Builder.ofDeclarations table declarations).build = .ok definition →
      definition.Declares table declarations ∧
        ∃ schema, build table declarations = .ok schema ∧ definition.Portrays schema := by
  constructor
  · simp only [build_eq_ok_iff, exists_and_left, exists_eq', and_true]
  · intro definition hbuild
    obtain ⟨-, -, hnodup, hdefinition⟩ := build_eq_ok_iff.1 hbuild
    refine ⟨hdefinition ▸ Definition.declares_ofDeclarations hnodup, ?_⟩
    rw [build_ofDeclarations] at hbuild
    obtain ⟨schema, hschema, rfl⟩ := Outcome.map_eq_ok_iff.1 hbuild
    exact ⟨schema, hschema, portrays_definition schema⟩

/-- People with a number that nulls are allowed for in vain, and a name that is read and written in
ways that replace each other. -/
def people : List (String × List Attribute) :=
  [("id", [.nullable true, .primary, .autoIncrement, .nullable true, .typed .int]),
    ("full_name", [.parser fun _ => none, .typed .text, .member "title", .member "name",
      .caster fun _ => none])]

theorem built_as_declared_people :
    ∃ definition, (Builder.ofDeclarations "People" people).build = .ok definition ∧
      definition.Declares "People" people := by
  obtain ⟨hbuilds, hdeclares⟩ := built_as_declared "People" people
  obtain ⟨definition, hbuild⟩ := hbuilds.2 ⟨by decide, by decide, by decide⟩
  exact ⟨definition, hbuild, (hdeclares definition hbuild).1⟩

end Schema

end RecordMapper
