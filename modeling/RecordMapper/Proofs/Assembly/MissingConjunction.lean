import Mathlib.Data.List.Induction
import RecordMapper.Proofs.Assembly.Leaves

/-!
Groups behind a condition without a conjunction. Once such a group holds a condition it is never
closed, whatever is called: the level around it stays as it was put away, the group never becomes
empty again, and nothing is compiled. A group that is still empty leaves nothing behind.
-/

namespace RecordMapper

namespace Level

def Filled (level : Level) : Prop :=
  level.condition.isSome = true

def LacksConjunction (level : Level) : Prop :=
  level.Filled ∧ level.conjunction = none

theorem filled_of_join {level next : Level} {condition : Condition}
    (h : level.join condition = .ok next) : next.Filled := by
  rcases level with ⟨_ | left, _ | conjunction⟩ <;> cases h <;> rfl

theorem LacksConjunction.join_eq {level : Level} (h : level.LacksConjunction)
    (condition : Condition) : level.join condition = .error .unsetConjunction := by
  obtain ⟨hfilled, hnone⟩ := h
  rcases level with ⟨_ | left, _ | conjunction⟩
  · cases hfilled
  · cases hfilled
  · rfl
  · cases hnone

end Level

namespace Assembler

def afterSteps (assembler : Assembler) (steps : List Step) : Assembler :=
  steps.foldl (fun assembler step => (step.runOn assembler).2) assembler

theorem afterSteps_concat (assembler : Assembler) (steps : List Step) (step : Step) :
    assembler.afterSteps (steps ++ [step]) = (step.runOn (assembler.afterSteps steps)).2 := by
  simp [afterSteps]

theorem afterSteps_openGroup (assembler : Assembler) (earlier later : List Step) :
    assembler.afterSteps (earlier ++ .make .openGroup :: later) =
      (assembler.afterSteps earlier).openGroup.afterSteps later := by
  simp only [afterSteps, List.foldl_append, List.foldl_cons]
  rfl

variable {assembler next : Assembler} {step : Step} {frame : Nat}

@[simp] theorem length_levels (assembler : Assembler) :
    assembler.levels.length = assembler.depth + 1 := by
  simp [levels, depth]

theorem getElem?_levels_of_lt (h : frame < assembler.depth) :
    assembler.levels[frame]? = assembler.outer.reverse[frame]? := by
  rw [levels, List.getElem?_append_left (by simpa [depth] using h)]

theorem getElem?_levels_depth (assembler : Assembler) :
    assembler.levels[assembler.depth]? = some assembler.level := by
  rw [levels, List.getElem?_append_right (by simp [depth])]
  simp [depth]

theorem le_depth_of_getElem? {level : Level} (h : assembler.levels[frame]? = some level) :
    frame ≤ assembler.depth := by
  obtain ⟨hlt, -⟩ := List.getElem?_eq_some_iff.1 h
  simpa [Nat.lt_succ_iff] using hlt

/-- What a step other than the clearing of the assembler does to its levels. -/
inductive Moves (assembler : Assembler) (step : Step) (next : Assembler) : Prop where
  | stays (houter : next.outer = assembler.outer)
    (hfilled : assembler.level.Filled → next.level.Filled)
  | opens (hstep : step = .make .openGroup) (hnext : next = assembler.openGroup)
  | closes (around : Level) (houter : assembler.outer = around :: next.outer)
    (hfilled : around.Filled → next.level.Filled)
    (hjoined : assembler.level.Filled → ¬ around.LacksConjunction)

theorem moves_of_apply {call : Call} (h : assembler.apply call = .ok next) :
    assembler.Moves (.make call) next := by
  rcases assembler with ⟨level, outer⟩
  cases call with
  | add condition =>
    obtain ⟨joined, hjoined, rfl⟩ := Outcome.map_eq_ok_iff.1 h
    exact .stays rfl fun _ => Level.filled_of_join hjoined
  | conjoin conjunction =>
    cases Except.ok.inj h
    exact .stays rfl id
  | openGroup =>
    cases Except.ok.inj h
    exact .opens rfl rfl
  | closeGroup =>
    rcases outer with _ | ⟨around, outer⟩
    · cases h
    rcases level with ⟨_ | inner, conjunction⟩
    · cases Except.ok.inj h
      exact .closes around rfl id (by rintro ⟨⟩)
    · obtain ⟨joined, hjoined, rfl⟩ := Outcome.map_eq_ok_iff.1 h
      refine .closes around rfl (fun _ => Level.filled_of_join hjoined) fun _ hlacks => ?_
      rw [hlacks.join_eq] at hjoined
      cases hjoined

theorem moves_step (assembler : Assembler) (hstep : step ≠ .reset) :
    assembler.Moves step (step.runOn assembler).2 := by
  cases step with
  | make call =>
    rw [Step.runOn, run_edit, outcome]
    cases happly : assembler.apply call with
    | error fault => exact .stays rfl id
    | ok next => exact moves_of_apply happly
  | build => exact .stays rfl id
  | reset => exact absurd rfl hstep

theorem Moves.getElem?_levels (h : assembler.Moves step next) (hbefore : frame < assembler.depth)
    (hafter : frame < next.depth) : next.levels[frame]? = assembler.levels[frame]? := by
  rw [getElem?_levels_of_lt hbefore, getElem?_levels_of_lt hafter]
  cases h with
  | stays houter => rw [houter]
  | opens _ hnext =>
    rw [hnext, openGroup, List.reverse_cons,
      List.getElem?_append_left (by simpa [depth] using hbefore)]
  | closes around houter =>
    rw [houter, List.reverse_cons, List.getElem?_append_left (by simpa [depth] using hafter)]

theorem Moves.filled (h : assembler.Moves step next) (hafter : frame ≤ next.depth)
    (hfilled : ∃ level, assembler.levels[frame]? = some level ∧ level.Filled) :
    ∃ level, next.levels[frame]? = some level ∧ level.Filled := by
  obtain ⟨level, hlevel, hlevelFilled⟩ := hfilled
  have hbefore := le_depth_of_getElem? hlevel
  by_cases hinner : frame < assembler.depth ∧ frame < next.depth
  · exact ⟨level, (h.getElem?_levels hinner.1 hinner.2).trans hlevel, hlevelFilled⟩
  cases h with
  | stays houter hstays =>
    have hdepth : next.depth = assembler.depth := by rw [depth, depth, houter]
    obtain rfl : frame = assembler.depth := by omega
    rw [getElem?_levels_depth, Option.some.injEq] at hlevel
    rw [← hdepth, getElem?_levels_depth]
    exact ⟨_, rfl, hstays (hlevel ▸ hlevelFilled)⟩
  | opens _ hnext =>
    have hdepth : next.depth = assembler.depth + 1 := by rw [hnext]; rfl
    obtain rfl : frame = assembler.depth := by omega
    rw [getElem?_levels_depth, Option.some.injEq] at hlevel
    refine ⟨level, ?_, hlevelFilled⟩
    rw [getElem?_levels_of_lt (by omega), hnext, openGroup, List.reverse_cons, ← hlevel]
    simp [depth]
  | closes around houter hcloses =>
    have hdepth : assembler.depth = next.depth + 1 := by rw [depth, houter]; rfl
    obtain rfl : frame = next.depth := by omega
    rw [getElem?_levels_of_lt (by omega), houter, List.reverse_cons] at hlevel
    obtain rfl : around = level := by simpa [depth] using hlevel
    exact ⟨_, getElem?_levels_depth next, hcloses hlevelFilled⟩

/-- A level lacks a conjunction, and the group that was opened above it is not empty. -/
structure Blocked (assembler : Assembler) (frame : Nat) : Prop where
  around : ∃ level, assembler.levels[frame]? = some level ∧ level.LacksConjunction
  inner : ∃ level, assembler.levels[frame + 1]? = some level ∧ level.Filled

theorem Blocked.lt_depth (h : assembler.Blocked frame) : frame < assembler.depth := by
  obtain ⟨level, hlevel, -⟩ := h.inner
  exact le_depth_of_getElem? hlevel

theorem Blocked.outer_eq (h : assembler.Blocked frame) (hdepth : assembler.depth = frame + 1) :
    ∃ around outer, assembler.outer = around :: outer ∧ around.LacksConjunction ∧
      assembler.level.Filled := by
  obtain ⟨around, haround, hlacks⟩ := h.around
  obtain ⟨inner, hinner, hfilled⟩ := h.inner
  rw [← hdepth, getElem?_levels_depth, Option.some.injEq] at hinner
  rw [getElem?_levels_of_lt (by omega)] at haround
  rcases houter : assembler.outer with _ | ⟨top, outer⟩
  · simp [depth, houter] at hdepth
  · have hlength : outer.length = frame := by simpa [depth, houter] using hdepth
    rw [houter, List.reverse_cons, ← hlength] at haround
    obtain rfl : top = around := by simpa using haround
    exact ⟨top, outer, rfl, hlacks, hinner ▸ hfilled⟩

theorem Blocked.closeGroup_eq (h : assembler.Blocked frame) (hdepth : assembler.depth = frame + 1) :
    assembler.closeGroup = .error .unsetConjunction := by
  obtain ⟨around, outer, houter, hlacks, hfilled⟩ := h.outer_eq hdepth
  obtain ⟨inner, hinner⟩ := Option.isSome_iff_exists.1 hfilled
  rw [closeGroup, houter, hinner]
  dsimp only
  rw [hlacks.join_eq]
  rfl

theorem Blocked.of_step (h : assembler.Blocked frame) (hstep : step ≠ .reset) :
    (step.runOn assembler).2.Blocked frame := by
  have hmoves := assembler.moves_step hstep
  have hbefore := h.lt_depth
  have hafter : frame < (step.runOn assembler).2.depth := by
    cases hmoves with
    | stays houter => rwa [depth, houter]
    | opens _ hnext =>
      rw [hnext]
      exact Nat.lt_succ_of_lt hbefore
    | closes around houter _ hjoined =>
      -- the group that cannot be closed is not the one that was
      have hdepth : assembler.depth = (step.runOn assembler).2.depth + 1 := by
        rw [depth, houter]
        rfl
      apply Decidable.byContradiction
      intro hout
      obtain ⟨top, outer, htop, hlacks, hfilled⟩ := h.outer_eq (by omega)
      rw [houter] at htop
      cases htop
      exact hjoined hfilled hlacks
  obtain ⟨level, hlevel, hlacks⟩ := h.around
  exact ⟨⟨level, (hmoves.getElem?_levels hbefore hafter).trans hlevel, hlacks⟩,
    hmoves.filled hafter h.inner⟩

theorem Blocked.after (h : assembler.Blocked frame) {steps : List Step}
    (hsteps : ∀ step ∈ steps, step ≠ .reset) : (assembler.afterSteps steps).Blocked frame := by
  induction steps generalizing assembler with
  | nil => exact h
  | cons step steps ih =>
    exact ih (h.of_step (hsteps step List.mem_cons_self))
      fun other hother => hsteps other (List.mem_cons_of_mem _ hother)

theorem compile_of_open (h : assembler.depth ≠ 0) :
    assembler.compile = .error (.unclosedGroup assembler.depth) := by
  have houter : assembler.outer ≠ [] := by
    intro hnil
    exact h (by rw [depth, hnil]; rfl)
  rw [compile, build, if_neg houter]
  rfl

theorem runOn_closeGroup (assembler : Assembler) :
    (Step.make .closeGroup).runOn assembler =
      match assembler.closeGroup with
      | .ok next => (.ok (), next)
      | .error fault => (.error fault, assembler) :=
  run_edit assembler .closeGroup

/-! Groups that are empty when they are closed. -/

/-- Up to the end of some steps, the innermost group is the one that was opened behind the earlier
of them. -/
structure OpenedBehind (steps earlier : List Step) : Prop where
  later : ∃ later, steps = earlier ++ .make .openGroup :: later ∧
    ∀ done, done <+: later → (empty.afterSteps earlier).depth <
      ((empty.afterSteps earlier).openGroup.afterSteps done).depth
  innermost : (empty.afterSteps steps).depth = (empty.afterSteps earlier).depth + 1

theorem depth_step (assembler : Assembler) (step : Step) :
    step = .make .openGroup ∨ (step.runOn assembler).2.depth ≤ assembler.depth := by
  by_cases hreset : step = .reset
  · subst hreset
    exact .inr (Nat.zero_le _)
  cases assembler.moves_step hreset with
  | stays houter =>
    right
    rw [depth, houter]
    exact Nat.le_refl _
  | opens hstep => exact .inl hstep
  | closes around houter =>
    right
    rw [depth, depth, houter]
    exact Nat.le_succ _

theorem exists_openGroup (steps : List Step) (h : frame < (empty.afterSteps steps).depth) :
    ∃ earlier later, steps = earlier ++ .make .openGroup :: later ∧
      (empty.afterSteps earlier).depth = frame ∧
      ∀ done, done <+: later → frame <
        ((empty.afterSteps earlier).openGroup.afterSteps done).depth := by
  induction steps using List.reverseRecOn with
  | nil => cases h
  | append_singleton steps step ih =>
    by_cases hbefore : frame < (empty.afterSteps steps).depth
    · obtain ⟨earlier, later, rfl, hdepth, hopen⟩ := ih hbefore
      refine ⟨earlier, later ++ [step], by simp, hdepth, ?_⟩
      intro done hdone
      rcases List.prefix_concat_iff.1 hdone with rfl | hdone
      · rwa [← afterSteps_openGroup, ← List.cons_append, ← List.append_assoc]
      · exact hopen done hdone
    · rw [afterSteps_concat] at h
      rcases (empty.afterSteps steps).depth_step step with rfl | hle
      · have hopened : ((Step.make .openGroup).runOn (empty.afterSteps steps)).2.depth =
            (empty.afterSteps steps).depth + 1 := rfl
        refine ⟨steps, [], rfl, by omega, ?_⟩
        intro done hdone
        obtain rfl := List.prefix_nil.1 hdone
        exact h
      · omega

theorem levels_openGroup (assembler : Assembler) :
    assembler.openGroup.levels = assembler.levels ++ [.empty] := by
  simp [openGroup, levels]

theorem getElem?_levels_afterSteps {before : Assembler} {later : List Step}
    (hopen : ∀ done, done <+: later → before.depth < (before.openGroup.afterSteps done).depth)
    (hframe : frame ≤ before.depth) :
    (before.openGroup.afterSteps later).levels[frame]? = before.levels[frame]? := by
  induction later using List.reverseRecOn with
  | nil =>
    change before.openGroup.levels[frame]? = _
    rw [levels_openGroup, List.getElem?_append_left]
    simpa [Nat.lt_succ_iff] using hframe
  | append_singleton later step ih =>
    have hbefore := hopen later (List.prefix_append _ _)
    have hafter := hopen (later ++ [step]) List.prefix_rfl
    rw [afterSteps_concat] at hafter ⊢
    have hstep : step ≠ .reset := by
      rintro rfl
      exact absurd hafter (Nat.not_lt_zero _)
    rw [(moves_step _ hstep).getElem?_levels (by omega) (by omega)]
    exact ih fun done hdone => hopen done (hdone.trans (List.prefix_append _ _))

theorem closeGroup_of_empty {before : Assembler} {later : List Step}
    (hopen : ∀ done, done <+: later → before.depth < (before.openGroup.afterSteps done).depth)
    (hdepth : (before.openGroup.afterSteps later).depth = before.depth + 1)
    (hempty : (before.openGroup.afterSteps later).current? = none) :
    (before.openGroup.afterSteps later).closeGroup = .ok before := by
  have hlevels : ∀ frame ≤ before.depth, _ := fun _ => getElem?_levels_afterSteps hopen
  generalize before.openGroup.afterSteps later = now at *
  have houter : now.outer.reverse = before.levels := by
    apply List.ext_getElem?
    intro frame
    by_cases hframe : frame ≤ before.depth
    · rw [← getElem?_levels_of_lt (by omega), hlevels frame hframe]
    · have hlength : now.outer.reverse.length = before.levels.length := by
        rw [length_levels, ← hdepth, List.length_reverse, depth]
      have hlong : before.levels.length ≤ frame := by
        rw [length_levels]
        omega
      rw [List.getElem?_eq_none (hlength ▸ hlong), List.getElem?_eq_none hlong]
  have hnow : now.outer = before.level :: before.outer := by
    rw [← List.reverse_reverse now.outer, houter, levels]
    simp
  unfold current? at hempty
  rw [closeGroup, hnow, hempty]

/-- A condition that is missing its conjunction before a group is not passed over. Whatever is called
once the group holds a condition, the group stays open, closing it fails and leaves the assembler as
it was, and nothing is compiled. A group that is empty when it is closed leaves the assembler as it
was when the group was opened. -/
theorem blocked_or_restored :
    (∀ (assembler : Assembler) (frame : Nat), assembler.Blocked frame →
      ∀ steps : List Step, (∀ step ∈ steps, step ≠ .reset) →
        let now := assembler.afterSteps steps
        frame < now.depth ∧
          (now.depth = frame + 1 →
            (Step.make .closeGroup).runOn now = (.error .unsetConjunction, now)) ∧
          now.compile = .error (.unclosedGroup now.depth)) ∧
    ∀ steps : List Step,
      let now := empty.afterSteps steps
      now.depth ≠ 0 → now.current? = none →
        (∃ earlier, OpenedBehind steps earlier) ∧
          ∀ earlier, OpenedBehind steps earlier →
            (Step.make .closeGroup).runOn now = (.ok (), empty.afterSteps earlier) := by
  constructor
  · intro assembler frame hblocked steps hsteps now
    have hnow : now.Blocked frame := hblocked.after hsteps
    have hopen := hnow.lt_depth
    refine ⟨hopen, ?_, compile_of_open (by omega)⟩
    intro hdepth
    rw [runOn_closeGroup, hnow.closeGroup_eq hdepth]
  · intro steps now hdepth hempty
    constructor
    · obtain ⟨frame, hframe⟩ := Nat.exists_eq_succ_of_ne_zero hdepth
      obtain ⟨earlier, later, hsteps, rfl, hopen⟩ :=
        exists_openGroup steps (hframe ▸ Nat.lt_succ_self frame)
      exact ⟨earlier, ⟨later, hsteps, hopen⟩, hframe⟩
    · rintro earlier ⟨⟨later, rfl, hopen⟩, hinnermost⟩
      have hnow : now = (empty.afterSteps earlier).openGroup.afterSteps later :=
        afterSteps_openGroup _ _ _
      change now.depth = _ at hinnermost
      rw [hnow] at hempty hinnermost ⊢
      rw [runOn_closeGroup, closeGroup_of_empty hopen hinnermost hempty]

def unit (column : Identifier) : Condition :=
  .leaf column .eq (.int 1) true

theorem blocked_or_restored_unit :
    let opened : List Step := [.make (.add (unit ⟨"a", by decide⟩)), .make .openGroup]
    let idle : List Step := [.make (.conjoin .and), .make .openGroup, .make .closeGroup]
    let start := empty.afterSteps (opened ++ [.make (.add (unit ⟨"b", by decide⟩))])
    let now := start.afterSteps (.make .closeGroup :: idle)
    let other := empty.afterSteps (opened ++ idle)
    (start.Blocked 0 ∧ now.depth = 1 ∧
      (Step.make .closeGroup).runOn now = (.error .unsetConjunction, now) ∧
      now.compile = .error (.unclosedGroup 1)) ∧
    ∃ earlier, OpenedBehind (opened ++ idle) earlier ∧
      (Step.make .closeGroup).runOn other = (.ok (), empty.afterSteps earlier) := by
  intro opened idle start now other
  have hblocked : start.Blocked 0 := ⟨⟨_, rfl, rfl, rfl⟩, ⟨_, rfl, rfl⟩⟩
  obtain ⟨-, hclosed, hcompile⟩ := blocked_or_restored.1 start 0 hblocked
    (.make .closeGroup :: idle) (by simp [idle])
  obtain ⟨⟨earlier, hearlier⟩, hrestored⟩ :=
    blocked_or_restored.2 (opened ++ idle) (by decide) (by rfl)
  exact ⟨⟨hblocked, rfl, hclosed rfl, hcompile⟩, earlier, hearlier, hrestored earlier hearlier⟩

end Assembler

end RecordMapper
