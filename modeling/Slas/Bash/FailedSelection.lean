import Mathlib
import Slas.Database.MultiRowWrites
import Slas.Bash.SelectedCommands

/-!
What is left of a selection of commands when `Scripts::SaveSelectedCommands` fails.

* `SavesOrKeeps`: a call that succeeds has made the selection, and a call that throws
  has left every selection and every `CHANGED` flag as they were;
* `insertedIds`: the ids that are inserted before `AddSelectedCommandsIds` stops;
* `savesOrKeeps_iff`: a call saves or keeps exactly if the list is too long, the
  removal fails, nothing fails, or what is inserted happens to be what was selected.

The selection is removed by a statement of its own, which is not taken back when a
later one fails.
-/

namespace Slas.Bash

open Database

/-- The selection of a configuration has been made. -/
structure SelectionSaved (configurationId : RowId) (commandNamesIds : List RowId) (s : Store) :
    Prop where
  selected : ∀ id, (⟨configurationId, id⟩ : SelectedCommand) ∈ s.bash.selectedCommands.vals ↔
    id ∈ commandNamesIds
  changed : ∀ r ∈ s.bash.configurations.rows, r.id = configurationId → r.val.changed = true

/-- Every configuration selects what it did, and every flag is as it was. -/
structure SameSelections (s s' : Store) : Prop where
  selected : ∀ v, v ∈ s'.bash.selectedCommands.vals ↔ v ∈ s.bash.selectedCommands.vals
  changed : s'.bash.configurations = s.bash.configurations

/-- How a call made with faults `env` ends: it has saved the selection, or it has
thrown and changed nothing. -/
def SavesOrKeeps (env : ℕ → Option Fault) (c : Connection Store) (configurationId : RowId)
    (commandNamesIds : List RowId) : Prop :=
  match (Scripts.saveSelectedCommands configurationId commandNamesIds).run env 0 c with
  | (.ok _, _, c') => SelectionSaved configurationId commandNamesIds c'.data
  | (.error _, _, c') => SameSelections c.data c'.data

/-- The ids of a list up to the first that repeats one before it, or one of `seen`. -/
def untilRepeated : List RowId → List RowId → List RowId
  | _, [] => []
  | seen, id :: ids => if id ∈ seen then [] else id :: untilRepeated (id :: seen) ids

/-- The ids that are inserted before the text of `AddSelectedCommandsIds` stops: none
if a transaction is open already, and otherwise those before the statement that is
made to fail, up to the first repeated one. -/
def insertedIds (c : Connection Store) (fault : Option Fault) (commandNamesIds : List RowId) :
    List RowId :=
  untilRepeated [] (c.tried (fault.map (·.position)) commandNamesIds)

/-! ### The inserts -/

lemma untilRepeated_of_nodup {seen ids : List RowId} (hnodup : ids.Nodup)
    (hseen : ∀ id ∈ ids, id ∉ seen) : untilRepeated seen ids = ids := by
  induction ids generalizing seen with
  | nil => rfl
  | cons id ids ih =>
      rw [List.nodup_cons] at hnodup
      rw [untilRepeated, if_neg (hseen id List.mem_cons_self)]
      refine congrArg _ (ih hnodup.2 fun other hother => ?_)
      rw [List.mem_cons, not_or]
      refine ⟨fun h => hnodup.1 (h ▸ hother), hseen other (List.mem_cons_of_mem id hother)⟩

/-- What the inserts select, if the configuration selects `seen` before them. -/
lemma mem_vals_untilRefused {configurationId : RowId} {seen ids : List RowId} {s : Store}
    (hseen : ∀ id, (⟨configurationId, id⟩ : SelectedCommand) ∈ s.bash.selectedCommands.vals ↔
      id ∈ seen) (v : SelectedCommand) :
    v ∈ (Connection.untilRefused (ids.map (Raw.insertSelectedCommand configurationId))
        s).bash.selectedCommands.vals ↔ v ∈ s.bash.selectedCommands.vals ∨
      v.configurationId = configurationId ∧ v.commandId ∈ untilRepeated seen ids := by
  induction ids generalizing seen s with
  | nil => simp [untilRepeated]
  | cons id ids ih =>
      rw [List.map_cons, Connection.untilRefused_cons, untilRepeated, Raw.insertSelectedCommand]
      by_cases hid : id ∈ seen
      · rw [UniqueTable.insertNew_of_mem ((hseen id).mpr hid), if_pos hid]
        simp
      · rw [UniqueTable.insertNew_of_not_mem (mt (hseen id).mp hid), if_neg hid]
        set s' : Store := { s with bash := { s.bash with
          selectedCommands := s.bash.selectedCommands.insertOrIgnore ⟨configurationId, id⟩ } }
        have hvals : ∀ w, w ∈ s'.bash.selectedCommands.vals ↔
            w ∈ s.bash.selectedCommands.vals ∨ w = ⟨configurationId, id⟩ :=
          fun w => UniqueTable.mem_vals_insertOrIgnore
        have hseen' : ∀ other,
            (⟨configurationId, other⟩ : SelectedCommand) ∈ s'.bash.selectedCommands.vals ↔
              other ∈ id :: seen := by
          intro other
          rw [hvals, hseen, List.mem_cons, or_comm, SelectedCommand.mk.injEq]
          simp
        refine (ih hseen').trans ?_
        rw [hvals, List.mem_cons, or_assoc]
        refine or_congr_right ?_
        constructor
        · rintro (rfl | ⟨hconfiguration, hv⟩)
          · exact ⟨rfl, .inl rfl⟩
          · exact ⟨hconfiguration, .inr hv⟩
        · rintro ⟨rfl, rfl | hv⟩
          · exact .inl rfl
          · exact .inr ⟨rfl, hv⟩

/-- The inserts leave the configurations alone. -/
lemma configurations_untilRefused (configurationId : RowId) (ids : List RowId) (s : Store) :
    (Connection.untilRefused (ids.map (Raw.insertSelectedCommand configurationId))
      s).bash.configurations = s.bash.configurations := by
  induction ids generalizing s with
  | nil => rfl
  | cons id ids ih =>
      rw [List.map_cons, Connection.untilRefused_cons]
      cases h : Raw.insertSelectedCommand configurationId id s with
      | none => rfl
      | some s' =>
          obtain ⟨t, -, rfl⟩ := Option.map_eq_some_iff.mp h
          exact ih _

section Removed

variable {configurationId : RowId} {s : Store}

lemma mem_vals_removeCommands (v : SelectedCommand) :
    v ∈ (removeCommands configurationId s).bash.selectedCommands.vals ↔
      v ∈ s.bash.selectedCommands.vals ∧ v.configurationId ≠ configurationId := by
  simp only [removeCommands, UniqueTable.delete_rows, Table.vals, List.mem_map, List.mem_filter,
    decide_eq_true_eq]
  constructor
  · rintro ⟨r, ⟨hr, hne⟩, rfl⟩
    exact ⟨⟨r, hr, rfl⟩, hne⟩
  · rintro ⟨⟨r, hr, rfl⟩, hne⟩
    exact ⟨r, ⟨hr, hne⟩, rfl⟩

/-- The selections after the removal and the inserts that were made. -/
lemma mem_vals_inserted (ids : List RowId) (v : SelectedCommand) :
    v ∈ (Connection.untilRefused (ids.map (Raw.insertSelectedCommand configurationId))
        (removeCommands configurationId s)).bash.selectedCommands.vals ↔
      (v ∈ s.bash.selectedCommands.vals ∧ v.configurationId ≠ configurationId) ∨
        v.configurationId = configurationId ∧ v.commandId ∈ untilRepeated [] ids := by
  have hnone : ∀ id, (⟨configurationId, id⟩ : SelectedCommand)
      ∈ (removeCommands configurationId s).bash.selectedCommands.vals ↔ id ∈ [] := by
    intro id
    rw [mem_vals_removeCommands]
    simp
  rw [mem_vals_untilRefused hnone, mem_vals_removeCommands]

/-- The old selection is back exactly if the ids inserted are those it had. -/
lemma sameSelections_iff (ids : List RowId) :
    SameSelections s (Connection.untilRefused (ids.map (Raw.insertSelectedCommand configurationId))
        (removeCommands configurationId s)) ↔
      ∀ id, id ∈ untilRepeated [] ids ↔
        (⟨configurationId, id⟩ : SelectedCommand) ∈ s.bash.selectedCommands.vals := by
  constructor
  · intro h id
    rw [← h.selected, mem_vals_inserted]
    simp
  · intro h
    refine ⟨fun v => ?_, configurations_untilRefused _ _ _⟩
    rw [mem_vals_inserted]
    by_cases hv : v.configurationId = configurationId
    · subst hv
      rw [h]
      simp
    · simp [hv]

end Removed

/-! ### The whole call -/

/-- A call that gets past the removal with an idle connection, different ids and no
failure, saves. -/
lemma selectionSaved (configurationId : RowId) {ids : List RowId} (hnodup : ids.Nodup) (s : Store) :
    SelectionSaved configurationId ids { Connection.untilRefused
        (ids.map (Raw.insertSelectedCommand configurationId))
        (removeCommands configurationId s) with
      bash := Raw.setChanged configurationId true (Connection.untilRefused
        (ids.map (Raw.insertSelectedCommand configurationId))
          (removeCommands configurationId s)).bash } := by
  refine ⟨fun id => ?_, fun r hr hid => ?_⟩
  · refine (mem_vals_inserted ids _).trans ?_
    rw [untilRepeated_of_nodup hnodup fun _ _ => List.not_mem_nil]
    simp
  · obtain ⟨r₀, -, rfl⟩ := List.mem_map.mp hr
    show (if r₀.id = configurationId then _ else _ : AnomalyDetectionConfiguration).changed = true
    rw [if_pos hid]

/-- **When a call saves the selection or changes nothing**: the list is too long, or
the removal fails, or nothing at all fails, or what is inserted before the failure is
what the configuration selected before. -/
theorem savesOrKeeps_iff (env : ℕ → Option Fault) (c : Connection Store) (configurationId : RowId)
    (commandNamesIds : List RowId) :
    SavesOrKeeps env c configurationId commandNamesIds ↔
      commandNamesIds.length > Scripts.selectedCommandsLimit ∨ env 0 ≠ none ∨
        (c.Idle ∧ commandNamesIds.Nodup ∧ env 1 = none ∧ env 2 = none) ∨
        ∀ id, id ∈ insertedIds c (env 1) commandNamesIds ↔
          (⟨configurationId, id⟩ : SelectedCommand) ∈ c.data.bash.selectedCommands.vals := by
  have hrefl : SameSelections c.data c.data := ⟨fun _ => .rfl, rfl⟩
  rw [SavesOrKeeps, Scripts.saveSelectedCommands]
  by_cases hlimit : commandNamesIds.length > Scripts.selectedCommandsLimit
  · rw [if_pos hlimit]
    exact iff_of_true hrefl (.inl hlimit)
  rw [if_neg hlimit, Prog.run_bind]
  by_cases hremoval : env 0 = none
  swap
  · rw [show (Raw.removeAllCommandsFromConfiguration configurationId).run env 0 c
      = _ from run_write_fault _ hremoval]
    exact iff_of_true hrefl (.inr (.inl hremoval))
  set removed : Connection Store := { c with data := removeCommands configurationId c.data }
    with hremoved
  rw [show (Raw.removeAllCommandsFromConfiguration configurationId).run env 0 c
    = (.ok (), 1, removed) from run_write _ hremoval]
  simp only [or_iff_right hlimit, or_iff_right (not_not.mpr hremoval)]
  obtain ⟨r, c', hrun, hdata, hended⟩ := run_text env 1 removed
    (commandNamesIds.map (Raw.insertSelectedCommand configurationId))
  rw [Connection.tried_map] at hdata
  have hsame : SameSelections c.data c'.data ↔ ∀ id, id ∈ insertedIds c (env 1) commandNamesIds ↔
      (⟨configurationId, id⟩ : SelectedCommand) ∈ c.data.bash.selectedCommands.vals :=
    hdata ▸ sameSelections_iff _
  have haccepted : (Connection.tryAll (commandNamesIds.map
      (Raw.insertSelectedCommand configurationId)) removed.data).isSome ↔
        commandNamesIds.Nodup := by
    rw [tryAll_insertSelectedCommand]
    refine and_iff_left fun id _ h => ?_
    exact ((mem_vals_removeCommands _).mp h).2 rfl
  rw [haccepted] at hended
  rw [Prog.run_bind, Raw.addSelectedCommandsIds, hrun]
  rcases hended with ⟨rfl, -, hidle, htext, hnodup⟩ | ⟨rfl, hfailed⟩
  · rw [htext, Option.map_none, Connection.tried_none hidle] at hdata
    by_cases hmark : env 2 = none
    · simp only [Raw.markConfigurationAsChanged, Raw.writeBash, run_write _ hmark]
      refine iff_of_true ?_ (.inl ⟨hidle, hnodup, htext, hmark⟩)
      rw [hdata]
      exact selectionSaved configurationId hnodup c.data
    · simp only [Raw.markConfigurationAsChanged, Raw.writeBash, run_write_fault _ hmark]
      exact hsame.trans (or_iff_right fun h => hmark h.2.2.2).symm
  · refine hsame.trans (or_iff_right fun h => hfailed ⟨h.1, h.2.2.1, h.2.1⟩).symm

/-- A configuration that selects one command, and a request that repeats another: the
insert is refused, and the old command is selected no more. -/
theorem not_savesOrKeeps_repeated : ¬SavesOrKeeps (fun _ => none)
    ⟨{ Store.empty with bash := { Store.empty.bash with
      selectedCommands := Store.empty.bash.selectedCommands.insertOrIgnore ⟨1, 1⟩ } },
        none⟩ 1 [2, 2] := by
  intro h
  have hselected : (⟨1, 1⟩ : SelectedCommand) ∈ [(⟨1, 2⟩ : SelectedCommand)] ↔
      (⟨1, 1⟩ : SelectedCommand) ∈ [(⟨1, 1⟩ : SelectedCommand)] := h.selected ⟨1, 1⟩
  simp at hselected

end Slas.Bash
