import RecordMapper.Connection.Scripted
import RecordMapper.Proofs.Manager.Save
import RecordMapper.Workspace

/-!
What a record's state says of the table. A record that counts as new may have a row all the same: the
number of the row is asked for behind the INSERT, and when it is not given, or not taken, the save
fails and the record is left as it was. That is the only way.
-/

namespace RecordMapper.Workspace

open Manager

variable {σ ρ : Type} (manager : Manager σ) (registry : Registry) (type : RecordType ρ)

def after (workspace : Workspace σ ρ) : List (Step ρ) → Workspace σ ρ
  | [] => workspace
  | step :: steps => after (workspace.step manager registry type step).2 steps

def state? (workspace : Workspace σ ρ) (number : Nat) : Option RecordState :=
  workspace.records[number]?.map Tracked.state

/-- Saving a record has the connection carry out an INSERT. -/
def Inserts (workspace : Workspace σ ρ) (number : Nat) : Prop :=
  ∃ statement later count,
    (workspace.save manager registry type number).2.session.calls =
      workspace.session.calls ++ .execute statement :: later ∧
    StatementKind.ofSql statement.sql = .insert ∧
    (manager.connection.execute statement workspace.session.connection).1 = .ok count

/-- Saving a record asks for the number of the row that it inserted, and fails to get it or to take
it. -/
def LosesNumber (workspace : Workspace σ ρ) (number : Nat) : Prop :=
  ∃ tracked preparation column fault, workspace.records[number]? = some tracked ∧
    prepare registry type tracked = .ok preparation ∧
    preparation.Asks manager tracked.state workspace.session column ∧
    numbered type preparation.schema column tracked.record
      (manager.identityAnswer workspace.session preparation.statement) = .error fault

/-- At no point of a run is a record new that was inserted before. -/
def NewUnwritten (start : Workspace σ ρ) (steps : List (Step ρ)) : Prop :=
  ∀ earlier number later, earlier ++ .save number :: later <+: steps →
    Inserts manager registry type (start.after manager registry type earlier) number →
      (start.after manager registry type (earlier ++ .save number :: later)).state? number ≠
        some .new

variable {manager registry type} {workspace : Workspace σ ρ} {number : Nat} {tracked : Tracked ρ}

theorem after_append (earlier later : List (Step ρ)) :
    workspace.after manager registry type (earlier ++ later) =
      (workspace.after manager registry type earlier).after manager registry type later := by
  induction earlier generalizing workspace with
  | nil => rfl
  | cons step earlier ih => exact ih

theorem save_eq (h : workspace.records[number]? = some tracked) :
    workspace.save manager registry type number =
      match (manager.save registry type tracked).runOn workspace.session with
      | (.ok saved, session) => (.ok (), ⟨session, workspace.records.set number saved⟩)
      | (.error fault, session) => (.error fault, ⟨session, workspace.records⟩) := by
  unfold save
  split
  · rename_i hnone
    cases hnone.symm.trans h
  · rename_i other hother
    cases hother.symm.trans h
    rfl

theorem session_save (h : workspace.records[number]? = some tracked) :
    (workspace.save manager registry type number).2.session =
      ((manager.save registry type tracked).runOn workspace.session).2 := by
  rw [save_eq h]
  rcases (manager.save registry type tracked).runOn workspace.session with ⟨_ | _, _⟩ <;> rfl

theorem inserts_iff (h : workspace.records[number]? = some tracked) :
    Inserts manager registry type workspace number ↔
      ∃ preparation count, prepare registry type tracked = .ok preparation ∧
        ¬ preparation.Updates tracked.state ∧
        (manager.answer workspace.session preparation.statement).1 = .ok count := by
  have ends := manager.saveEnds registry type tracked workspace.session
  unfold Inserts
  rw [session_save h]
  cases hprepare : prepare registry type tracked with
  | error fault =>
    rw [(ends.of_error hprepare).2]
    simp
  | ok preparation =>
    obtain ⟨hupdate, hinsert⟩ := kind_prepared hprepare
    have hcalls : ∃ later, ((manager.save registry type tracked).runOn workspace.session).2.calls =
        workspace.session.calls ++ .execute preparation.statement :: later := by
      obtain ⟨hasked, hsent⟩ := ends.calls hprepare
      by_cases hasks : ∃ column, preparation.Asks manager tracked.state workspace.session column
      · exact ⟨_, hasked hasks⟩
      · exact ⟨_, hsent hasks⟩
    obtain ⟨later, hcalls⟩ := hcalls
    constructor
    · rintro ⟨statement, rest, count, hsent, hkind, hanswer⟩
      rw [hcalls, List.append_cancel_left_eq] at hsent
      cases hsent
      refine ⟨preparation, count, rfl, ?_, hanswer⟩
      intro hupdates
      rw [(hupdate hupdates).1] at hkind
      cases hkind
    · rintro ⟨prepared, count, hprepared, hupdates, hanswer⟩
      cases hprepared
      exact ⟨_, later, count, hcalls, (hinsert hupdates).1, hanswer⟩

theorem save_eq_ok_iff (h : workspace.records[number]? = some tracked) :
    (workspace.save manager registry type number).1 = .ok () ↔
      ∃ saved, ((manager.save registry type tracked).runOn workspace.session).1 = .ok saved := by
  rw [save_eq h]
  rcases (manager.save registry type tracked).runOn workspace.session with ⟨_ | _, _⟩ <;> simp

variable (manager registry type) in
theorem save_cases (workspace : Workspace σ ρ) (number : Nat) :
    (workspace.records[number]? = none ∧
      workspace.save manager registry type number = (.ok (), workspace)) ∨
    (∃ tracked saved session, workspace.records[number]? = some tracked ∧
      saved.state = .persisted ∧ workspace.save manager registry type number =
        (.ok (), ⟨session, workspace.records.set number saved⟩)) ∨
    ∃ tracked fault session, workspace.records[number]? = some tracked ∧
      workspace.save manager registry type number =
        (.error fault, ⟨session, workspace.records⟩) := by
  cases htracked : workspace.records[number]? with
  | none =>
    left
    refine ⟨rfl, ?_⟩
    unfold save
    rw [htracked]
  | some tracked =>
    right
    have ends := manager.saveEnds registry type tracked workspace.session
    rw [save_eq htracked]
    generalize (manager.save registry type tracked).runOn workspace.session = run at ends ⊢
    obtain ⟨result, session⟩ := run
    cases result with
    | error fault => exact .inr ⟨tracked, fault, session, rfl, rfl⟩
    | ok saved => exact .inl ⟨tracked, saved, session, rfl, ends.persisted, rfl⟩

theorem inserts_iff_losesNumber {fault : Fault}
    (hfailed : (workspace.save manager registry type number).1 = .error fault) :
    Inserts manager registry type workspace number ↔
      LosesNumber manager registry type workspace number := by
  obtain ⟨-, hsave⟩ | ⟨_, _, _, -, -, hsave⟩ | ⟨tracked, _, _, htracked, -⟩ :=
    save_cases manager registry type workspace number
  · rw [hsave] at hfailed
    cases hfailed
  · rw [hsave] at hfailed
    cases hfailed
  rw [inserts_iff htracked]
  constructor
  · rintro ⟨preparation, count, hprepare, hupdates, hanswer⟩
    have ends := manager.saveEnds registry type tracked workspace.session
    have hlost : ¬ ∀ column, preparation.Asks manager tracked.state workspace.session column →
        ∃ record, numbered type preparation.schema column tracked.record
          (manager.identityAnswer workspace.session preparation.statement) = .ok record := by
      intro hall
      have hok := (save_eq_ok_iff htracked).2 ((ends.isOk_iff hprepare).2 ⟨⟨count, hanswer⟩, hall⟩)
      rw [hok] at hfailed
      cases hfailed
    simp only [Classical.not_forall] at hlost
    obtain ⟨column, hasks, hlost⟩ := hlost
    cases hnumbered : numbered type preparation.schema column tracked.record
        (manager.identityAnswer workspace.session preparation.statement) with
    | error fault => exact ⟨tracked, preparation, column, fault, htracked, hprepare, hasks, hnumbered⟩
    | ok record => exact absurd ⟨record, hnumbered⟩ hlost
  · rintro ⟨other, preparation, column, _, hother, hprepare, ⟨hupdates, ⟨count, hanswer⟩, -⟩, -⟩
    cases htracked.symm.trans hother
    exact ⟨preparation, count, hprepare, hupdates, hanswer⟩

theorem failed_of_losesNumber (h : LosesNumber manager registry type workspace number) :
    ∃ fault, (workspace.save manager registry type number).1 = .error fault := by
  obtain ⟨tracked, preparation, column, fault, htracked, hprepare, hasks, hnumbered⟩ := h
  have ends := manager.saveEnds registry type tracked workspace.session
  cases hresult : (workspace.save manager registry type number).1 with
  | error fault => exact ⟨fault, rfl⟩
  | ok _ =>
    obtain ⟨-, hall⟩ := (ends.isOk_iff hprepare).1 ((save_eq_ok_iff htracked).1 hresult)
    obtain ⟨record, hrecord⟩ := hall column hasks
    cases hnumbered.symm.trans hrecord

theorem state?_step (step : Step ρ) (h : workspace.state? number = some .persisted) :
    (workspace.step manager registry type step).2.state? number = some .persisted := by
  obtain ⟨tracked, htracked, hstate⟩ := Option.map_eq_some_iff.1 h
  have hnumber : number < workspace.records.length := by
    obtain ⟨hlt, -⟩ := List.getElem?_eq_some_iff.1 htracked
    exact hlt
  cases step with
  | new record | persisted record =>
    unfold state? at *
    simp only [Workspace.step]
    rw [List.getElem?_append_left hnumber]
    exact h
  | assign other record =>
    unfold state? at *
    simp only [Workspace.step, List.getElem?_modify, htracked]
    by_cases hother : other = number <;> simp [hother, hstate, Tracked.assign]
  | save other =>
    rw [Workspace.step]
    obtain ⟨-, hsave⟩ | ⟨_, saved, _, -, hsaved, hsave⟩ | ⟨_, _, _, -, hsave⟩ :=
      save_cases manager registry type workspace other
    · rw [hsave]
      exact h
    · rw [hsave]
      unfold state? at *
      by_cases hother : other = number
      · simp [hother, hnumber, hsaved]
      · rw [List.getElem?_set_ne hother]
        exact h
    · rw [hsave]
      exact h
  | delete other =>
    rw [Workspace.step, delete]
    cases workspace.records[other]? with
    | none => exact h
    | some _ => exact h

theorem state?_after (steps : List (Step ρ)) (h : workspace.state? number = some .persisted) :
    (workspace.after manager registry type steps).state? number = some .persisted := by
  induction steps generalizing workspace with
  | nil => exact h
  | cons step steps ih => exact ih (state?_step step h)

theorem after_save (earlier later : List (Step ρ)) :
    workspace.after manager registry type (earlier ++ .save number :: later) =
      ((workspace.after manager registry type earlier).save manager registry type number).2.after
        manager registry type later := by
  rw [after_append]
  rfl

theorem state?_of_inserts (hinserts : Inserts manager registry type workspace number)
    (hkept : workspace.state? number = some .new →
      ¬ LosesNumber manager registry type workspace number) :
    (workspace.save manager registry type number).2.state? number = some .persisted := by
  obtain ⟨-, hsave⟩ | ⟨tracked, saved, _, htracked, hsaved, hsave⟩ |
      ⟨tracked, fault, _, htracked, hsave⟩ := save_cases manager registry type workspace number
  · obtain ⟨_, _, _, hcalls, -⟩ := hinserts
    rw [hsave] at hcalls
    simp at hcalls
  · obtain ⟨hnumber, -⟩ := List.getElem?_eq_some_iff.1 htracked
    rw [hsave]
    simp [state?, hnumber, hsaved]
  · have hloses := (inserts_iff_losesNumber (by rw [hsave])).1 hinserts
    have hstate : workspace.state? number = some tracked.state := by
      unfold state?
      rw [htracked]
      rfl
    rw [hsave]
    cases hnew : tracked.state with
    | new =>
      rw [hnew] at hstate
      exact absurd hloses (hkept hstate)
    | persisted =>
      rw [hnew] at hstate
      exact hstate

variable (manager registry type) in
/-- No record that was inserted is ever new when, and only when, no save of a new record loses the
number of its row. A save that fails has inserted its record when, and only when, it loses it. -/
theorem newUnwritten_iff :
    (∀ (start : Workspace σ ρ) (steps : List (Step ρ)),
      NewUnwritten manager registry type start steps ↔
        ∀ earlier number, earlier ++ [.save number] <+: steps →
          (start.after manager registry type earlier).state? number = some .new →
            ¬ LosesNumber manager registry type (start.after manager registry type earlier)
              number) ∧
    ∀ (workspace : Workspace σ ρ) (number : Nat) (fault : Fault),
      (workspace.save manager registry type number).1 = .error fault →
        (Inserts manager registry type workspace number ↔
          LosesNumber manager registry type workspace number) := by
  refine ⟨?_, fun _ _ _ hfailed => inserts_iff_losesNumber hfailed⟩
  intro start steps
  constructor
  -- the run is cut off behind the save that loses the number: there the record is still new
  · intro hunwritten earlier number hprefix hnew hloses
    obtain ⟨fault, hfailed⟩ := failed_of_losesNumber hloses
    apply hunwritten earlier number [] hprefix ((inserts_iff_losesNumber hfailed).2 hloses)
    rw [after_save]
    obtain ⟨-, hsave⟩ | ⟨_, _, _, -, -, hsave⟩ | ⟨_, _, _, -, hsave⟩ :=
      save_cases manager registry type (start.after manager registry type earlier) number
    · rw [hsave] at hfailed
      cases hfailed
    · rw [hsave] at hfailed
      cases hfailed
    · rw [hsave]
      exact hnew
  · intro hkept earlier number later hprefix hinserts
    have hbefore : earlier ++ [.save number] <+: steps := by
      apply List.IsPrefix.trans _ hprefix
      exact ⟨later, by simp⟩
    have hstored := state?_of_inserts hinserts (hkept earlier number hbefore)
    rw [after_save, state?_after later hstored]
    simp

def names : Schema where
  table := ⟨"Names", by decide⟩
  columns := [
    .ofDeclaration ⟨"id", by decide⟩ (.ofAttributes [.primary, .autoIncrement]),
    .ofDeclaration ⟨"name", by decide⟩ .empty]
  distinct := by decide

/-- A new record whose INSERT was carried out and whose number the connection does not give. -/
theorem new_though_written :
    ¬ NewUnwritten ⟨Connection.scripted, .standard⟩ [("Rec", names)] (.raw "Rec")
      ⟨⟨⟨[], [], .error (.connection "id lost")⟩, []⟩, []⟩
      [.new (.object [("name", .string "a")]), .save 0] := by
  intro h
  have hinserts : Inserts ⟨Connection.scripted, .standard⟩ [("Rec", names)] (.raw "Rec")
      ⟨⟨⟨[], [], .error (.connection "id lost")⟩, []⟩, [.new (.object [("name", .string "a")])]⟩
      0 :=
    ⟨⟨"INSERT INTO Names (name) VALUES (?)", [.text "a"]⟩, [.lastIdentity], 1, by rfl, by decide,
      by rfl⟩
  exact h [.new _] 0 [] List.prefix_rfl hinserts (by rfl)

end RecordMapper.Workspace
