import RecordMapper.SqlValue

/-!
Statements and the templates they come from. A template is SQL text with values in it; it is written
with a question mark, or with a number, for each value.
-/

namespace RecordMapper

/-- SQL text with one placeholder for each parameter. -/
structure Statement where
  sql : String
  parameters : List SqlValue
deriving DecidableEq

inductive Fragment where
  | text (sql : String)
  | bound (value : SqlValue)
deriving DecidableEq

/-- SQL text with the values to bind in their places. -/
abbrev Template := List Fragment

namespace Template

def sql : Template → String
  | [] => ""
  | .text piece :: template => piece ++ sql template
  | .bound _ :: template => "?" ++ sql template

def parameters : Template → List SqlValue
  | [] => []
  | .text _ :: template => parameters template
  | .bound value :: template => value :: parameters template

def numberedFrom : Nat → Template → String
  | _, [] => ""
  | next, .text piece :: template => piece ++ numberedFrom next template
  | next, .bound _ :: template =>
    "$" ++ String.ofList (natDigits next) ++ numberedFrom (next + 1) template

def numbered (template : Template) : String :=
  numberedFrom 1 template

def statement (template : Template) : Statement :=
  ⟨template.sql, template.parameters⟩

def separatedBy (separator : String) : List Template → Template
  | [] => []
  | [template] => template
  | template :: templates => template ++ .text separator :: separatedBy separator templates

@[simp] theorem sql_append (a b : Template) : sql (a ++ b) = sql a ++ sql b := by
  induction a with
  | nil => simp [sql]
  | cons fragment a ih => cases fragment <;> simp [sql, ih, String.append_assoc]

@[simp] theorem parameters_append (a b : Template) :
    parameters (a ++ b) = parameters a ++ parameters b := by
  induction a with
  | nil => rfl
  | cons fragment a ih => cases fragment <;> simp [parameters, ih]

theorem sql_separatedBy (separator : String) (templates : List Template) :
    sql (separatedBy separator templates) = separator.intercalate (templates.map sql) := by
  fun_induction separatedBy separator templates with
  | case1 => rfl
  | case2 template => simp
  | case3 template templates hne ih =>
    obtain ⟨next, rest, rfl⟩ := List.exists_cons_of_ne_nil (by simpa using hne)
    rw [sql_append, sql, ih, List.map_cons, List.map_cons, List.map_cons,
      String.intercalate_cons_cons, String.append_assoc]

theorem parameters_separatedBy (separator : String) (templates : List Template) :
    parameters (separatedBy separator templates) = templates.flatMap parameters := by
  fun_induction separatedBy separator templates with
  | case1 => rfl
  | case2 template => simp
  | case3 template templates hne ih => rw [parameters_append, parameters, ih, List.flatMap_cons]

end Template

end RecordMapper
