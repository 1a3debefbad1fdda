import RecordMapper.Proofs.Placeholder.Scan
import RecordMapper.Statement

/-!
Numbering the text of a template. When all text between the values is verbatim, the scan stands
outside quotes in front of each value, and finds the values' question marks and no others.
-/

namespace RecordMapper

open Postgres

namespace Template

def Verbatim (template : Template) : Prop :=
  ∀ piece, .text piece ∈ template → Postgres.Verbatim piece.toList

theorem verbatim_nil : Verbatim [] := by
  intro piece hpiece
  cases hpiece

theorem verbatim_text {piece : String} {template : Template}
    (hpiece : Postgres.Verbatim piece.toList) (h : template.Verbatim) :
    Verbatim (.text piece :: template) := by
  intro other hother
  rcases List.mem_cons.1 hother with heq | hother
  · cases heq
    exact hpiece
  · exact h other hother

theorem verbatim_bound (value : SqlValue) {template : Template} (h : template.Verbatim) :
    Verbatim (.bound value :: template) := by
  intro piece hpiece
  rcases List.mem_cons.1 hpiece with heq | hpiece
  · cases heq
  · exact h piece hpiece

theorem Verbatim.append {a b : Template} (ha : a.Verbatim) (hb : b.Verbatim) :
    Verbatim (a ++ b) := by
  intro piece hpiece
  rcases List.mem_append.1 hpiece with hpiece | hpiece
  · exact ha piece hpiece
  · exact hb piece hpiece

theorem verbatim_separatedBy {separator : String} {templates : List Template}
    (hseparator : Postgres.Verbatim separator.toList)
    (h : ∀ template ∈ templates, Verbatim template) :
    Verbatim (separatedBy separator templates) := by
  fun_induction separatedBy separator templates with
  | case1 => exact verbatim_nil
  | case2 template => exact h template List.mem_cons_self
  | case3 template templates _ ih =>
    have hfirst := h template List.mem_cons_self
    have hrest := ih fun other hother => h other (List.mem_cons_of_mem _ hother)
    exact hfirst.append (verbatim_text hseparator hrest)

variable {template : Template}

theorem Verbatim.tail {fragment : Fragment} (h : Verbatim (fragment :: template)) :
    template.Verbatim :=
  fun piece hpiece => h piece (List.mem_cons_of_mem _ hpiece)

theorem Verbatim.numberFrom_sql (h : template.Verbatim) (next : Nat) :
    numberFrom none next template.sql.toList = (template.numberedFrom next).toList := by
  induction template generalizing next with
  | nil => rfl
  | cons fragment template ih =>
    cases fragment with
    | text piece =>
      rw [sql, numberedFrom, String.toList_append, String.toList_append,
        (h piece List.mem_cons_self).numberFrom_append, ih h.tail]
    | bound value =>
      have hmark : "?".toList = ['?'] := by decide
      have hdollar : "$".toList = ['$'] := by decide
      rw [sql, numberedFrom, String.toList_append, String.toList_append, String.toList_append,
        hmark, hdollar, String.toList_ofList, List.singleton_append, List.append_assoc,
        List.singleton_append, numberFrom_cons, if_pos ⟨rfl, rfl⟩, ih h.tail]

theorem Verbatim.quoteAfter_sql (h : template.Verbatim) :
    quoteAfter none template.sql.toList = none := by
  induction template with
  | nil => rfl
  | cons fragment template ih =>
    cases fragment with
    | text piece =>
      rw [sql, String.toList_append, quoteAfter_append, (h piece List.mem_cons_self).closed,
        ih h.tail]
    | bound value =>
      have hmark : quoteAfter none "?".toList = none := by decide
      rw [sql, String.toList_append, quoteAfter_append, hmark, ih h.tail]

theorem Verbatim.placeholders_sql (h : template.Verbatim) :
    placeholders none template.sql.toList = template.parameters.length := by
  induction template with
  | nil => rfl
  | cons fragment template ih =>
    cases fragment with
    | text piece =>
      have hpiece := h piece List.mem_cons_self
      rw [sql, String.toList_append, placeholders_append, hpiece.unnumbered, hpiece.closed,
        ih h.tail, Nat.zero_add]
      rfl
    | bound value =>
      have hmark : placeholders none "?".toList = 1 := by decide
      have hclosed : quoteAfter none "?".toList = none := by decide
      rw [sql, String.toList_append, placeholders_append, hmark, hclosed, ih h.tail, Nat.add_comm]
      rfl

end Template

end RecordMapper
