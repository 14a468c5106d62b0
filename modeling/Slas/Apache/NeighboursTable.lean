import Mathlib
import Slas.Lib.NearestTies
import Slas.Apache.WholeLearningSet

/-!
What `NearestNeighboursTable` holds after any calls,
`server/src/apache/analyzer/detail/prepare_statistics/nearest_neighbours_table.cpp`.

* `Adds`: what `Add` may leave, since `std::sort` is not stable;
* `Calls`: a run of calls;
* `HoldsNearest`: the table holds the three nearest of the sessions added;
* `holds_nearest`: it does after every run, whatever was added before `SetSession`.
-/

namespace Slas.Apache

namespace NearestNeighboursTable

/-- `NearestNeighboursTable::Add`, with any order `sort` may leave neighbours of one
distance in. -/
def Adds (table : NearestNeighboursTable) (session : Row SessionEntry)
    (table' : NearestNeighboursTable) : Prop :=
  if table.nearestNeighbours.any fun n => n.sessionId = session.id then table' = table
  else
    ∃ sorted : List Neighbour,
      sorted.Perm (table.nearestNeighbours ++ [neighbourOf table.originalSession session]) ∧
      (sorted.Pairwise fun a b => a.distance ≤ b.distance) ∧
      table' = { table with nearestNeighbours :=
        if numberOfNeighbours < sorted.length then sorted.dropLast else sorted }

/-- A call of the table. -/
inductive Command where
  | setSession (session : SessionEntry)
  | add (session : Row SessionEntry)

/-- Calls one after another. -/
inductive Calls : NearestNeighboursTable → List Command → NearestNeighboursTable → Prop
  | nil (table : NearestNeighboursTable) : Calls table [] table
  | setSession {table table' : NearestNeighboursTable} {commands : List Command}
      (session : SessionEntry) (h : Calls (.setSession session) commands table') :
      Calls table (.setSession session :: commands) table'
  | add {table table₁ table' : NearestNeighboursTable} {session : Row SessionEntry}
      {commands : List Command} (hadd : table.Adds session table₁)
      (h : Calls table₁ commands table') : Calls table (.add session :: commands) table'

/-- The table holds the three nearest of the sessions that have some ids. -/
structure HoldsNearest (session : SessionEntry) (sessions : RowId → SessionEntry)
    (ids : List RowId) (table : NearestNeighboursTable) : Prop where
  length : table.nearestNeighbours.length = min 3 ids.dedup.length
  nodup : (table.nearestNeighbours.map (·.sessionId)).Nodup
  sorted : table.nearestNeighbours.Pairwise fun a b => a.distance ≤ b.distance
  entry : ∀ n ∈ table.nearestNeighbours, n.sessionId ∈ ids ∧
    n.distance = squaredDistance (sessions n.sessionId) session ∧
    n.classification = (sessions n.sessionId).classification
  nearest : table.nearestNeighbours.map (·.distance)
    = (Select.orderBy id (ids.dedup.map fun i => squaredDistance (sessions i) session)).take 3

/-- The table the model computes is one of those. -/
lemma adds_add (table : NearestNeighboursTable) (session : Row SessionEntry) :
    table.Adds session (table.add session) := by
  rw [Adds, add]
  split_ifs with hseen
  · rfl
  · exact ⟨_, Select.orderBy_perm _ _, Select.orderBy_sorted _ _, rfl⟩

/-- Every call returns. -/
lemma exists_calls (table : NearestNeighboursTable) (commands : List Command) :
    ∃ table', Calls table commands table' := by
  induction commands generalizing table with
  | nil => exact ⟨table, .nil table⟩
  | cons command commands ih =>
      cases command with
      | setSession session =>
          obtain ⟨table', h⟩ := ih (.setSession session)
          exact ⟨table', .setSession session h⟩
      | add session =>
          obtain ⟨table', h⟩ := ih (table.add session)
          exact ⟨table', .add (adds_add table session) h⟩

section Add

variable {session : SessionEntry} {sessions : RowId → SessionEntry} {ids : List RowId}

/-- The neighbours that the sessions of some ids are. -/
def neighbours (session : SessionEntry) (sessions : RowId → SessionEntry) (ids : List RowId) :
    List Neighbour :=
  ids.map fun i => neighbourOf session ⟨i, sessions i⟩

lemma neighbour_injective : Function.Injective fun i => neighbourOf session ⟨i, sessions i⟩ :=
  fun _ _ h => congrArg Neighbour.sessionId h

/-- `Add` is that of a table of the nearest: an id that is in the table stands for the
session added. -/
lemma Adds.nearest {table table' : NearestNeighboursTable} {i : RowId}
    (hadd : table.Adds ⟨i, sessions i⟩ table') (horiginal : table.originalSession = session)
    (hkeeps : Nearest.Keeps Neighbour.distance 3 (neighbours session sessions ids)
      table.nearestNeighbours) :
    table'.originalSession = session ∧
      Nearest.Adds Neighbour.distance 3 table.nearestNeighbours
        (neighbourOf session ⟨i, sessions i⟩) table'.nearestNeighbours := by
  have hany : (table.nearestNeighbours.any fun n => n.sessionId = i) = true ↔
      neighbourOf session ⟨i, sessions i⟩ ∈ table.nearestNeighbours := by
    rw [List.any_eq_true]
    refine ⟨fun ⟨n, hn, hid⟩ => ?_, fun hmem => ⟨_, hmem, decide_eq_true rfl⟩⟩
    obtain ⟨j, -, rfl⟩ := List.mem_map.mp (hkeeps.subset hn)
    rwa [← show j = i from of_decide_eq_true hid]
  rw [Adds] at hadd
  rw [Nearest.Adds]
  by_cases hmem : neighbourOf session ⟨i, sessions i⟩ ∈ table.nearestNeighbours
  · rw [if_pos (hany.mpr hmem)] at hadd
    rw [if_pos hmem, hadd]
    exact ⟨horiginal, rfl⟩
  · rw [if_neg fun h => hmem (hany.mp h), horiginal] at hadd
    rw [if_neg hmem]
    obtain ⟨sorted, hperm, hsorted, rfl⟩ := hadd
    refine ⟨rfl, sorted, hperm, hsorted, ?_⟩
    have hlength := hperm.length_eq
    have hle := hkeeps.length_le
    rw [List.length_append, List.length_singleton] at hlength
    show (if 3 < sorted.length then sorted.dropLast else sorted) = sorted.take 3
    split_ifs with hfull
    · rw [List.dropLast_eq_take]
      congr 1
      omega
    · rw [List.take_of_length_le (not_lt.mp hfull)]

/-- The sessions added since `SetSession` are all that matters. -/
lemma Calls.keeps {table table' : NearestNeighboursTable} (added : List RowId)
    (horiginal : table.originalSession = session)
    (hkeeps : Nearest.Keeps Neighbour.distance 3 (neighbours session sessions ids)
      table.nearestNeighbours)
    (h : Calls table (added.map fun i => .add ⟨i, sessions i⟩) table') :
    Nearest.Keeps Neighbour.distance 3 (neighbours session sessions (ids ++ added))
      table'.nearestNeighbours := by
  induction added generalizing ids table with
  | nil =>
      cases h
      rwa [List.append_nil]
  | cons i added ih =>
      cases h with
      | add hadd hrest =>
          obtain ⟨horiginal', hadd'⟩ := hadd.nearest horiginal hkeeps
          have hnext := hkeeps.adds hadd'
          have hsnoc : neighbours session sessions ids ++ [neighbourOf session ⟨i, sessions i⟩]
              = neighbours session sessions (ids ++ [i]) := by
            simp [neighbours]
          rw [hsnoc] at hnext
          simpa using ih horiginal' hnext hrest

/-- Calls in front are forgotten. -/
lemma Calls.setSession_of_append {table table' : NearestNeighboursTable}
    {before after : List Command}
    (h : Calls table (before ++ .setSession session :: after) table') :
    Calls (.setSession session) after table' := by
  induction before generalizing table with
  | nil =>
      cases h with
      | setSession _ hrest => exact hrest
  | cons command before ih =>
      cases h with
      | setSession _ hrest => exact ih hrest
      | add _ hrest => exact ih hrest

/-- After any calls, `SetSession` begins with an empty table. -/
lemma Calls.keeps_of_append {table table' : NearestNeighboursTable} {before : List Command}
    {added : List RowId}
    (h : Calls table (before ++ .setSession session :: added.map fun i => .add ⟨i, sessions i⟩)
      table') :
    Nearest.Keeps Neighbour.distance 3 (neighbours session sessions added)
      table'.nearestNeighbours := by
  have hempty : Nearest.Keeps Neighbour.distance 3 (neighbours session sessions [])
      (NearestNeighboursTable.setSession session).nearestNeighbours := Nearest.keeps_nil
  have hkeeps : Nearest.Keeps Neighbour.distance 3 (neighbours session sessions ([] ++ added))
      table'.nearestNeighbours := Calls.keeps added rfl hempty h.setSession_of_append
  rwa [List.nil_append] at hkeeps

/-- Distinct ids are distinct neighbours. -/
lemma dedup_neighbours (session : SessionEntry) (sessions : RowId → SessionEntry)
    (ids : List RowId) :
    (neighbours session sessions ids).dedup = neighbours session sessions ids.dedup :=
  List.dedup_map_of_injective neighbour_injective ids

/-- What is kept is what the table should hold. -/
lemma holdsNearest_of_keeps {table : NearestNeighboursTable}
    (h : Nearest.Keeps Neighbour.distance 3 (neighbours session sessions ids)
      table.nearestNeighbours) : HoldsNearest session sessions ids table where
  length := by
    rw [h.length_eq, dedup_neighbours, neighbours, List.length_map]
  nodup := by
    refine List.pairwise_map.mpr (h.nodup.imp_of_mem fun {a b} ha hb hab heq => hab ?_)
    obtain ⟨i, -, rfl⟩ := List.mem_map.mp (h.subset ha)
    obtain ⟨j, -, rfl⟩ := List.mem_map.mp (h.subset hb)
    rw [show i = j from heq]
  sorted := h.sorted
  entry := fun n hn => by
    obtain ⟨i, hi, rfl⟩ := List.mem_map.mp (h.subset hn)
    exact ⟨hi, rfl, rfl⟩
  nearest := by
    rw [h.map_key, dedup_neighbours, Nearest.nearest, List.map_take, neighbours, Select.orderBy_map,
      List.map_map, Select.orderBy_map]
    rfl

end Add

/-- **The table keeps the three nearest** of the sessions added since `SetSession`, in
whatever order and however often they are added. -/
theorem holds_nearest {table table' : NearestNeighboursTable} {before : List Command}
    {session : SessionEntry} {sessions : RowId → SessionEntry} {ids : List RowId}
    (h : Calls table
      (before ++ .setSession session :: ids.map fun i => .add ⟨i, sessions i⟩) table') :
    HoldsNearest session sessions ids table' ∧
      ∀ (table₁ table₂ : NearestNeighboursTable) (before' : List Command) (ids' : List RowId),
        (∀ i, i ∈ ids' ↔ i ∈ ids) →
        Calls table₁
          (before' ++ .setSession session :: ids'.map fun i => .add ⟨i, sessions i⟩) table₂ →
        table₂.nearestNeighbours.map (·.distance) = table'.nearestNeighbours.map (·.distance) := by
  refine ⟨holdsNearest_of_keeps h.keeps_of_append, fun table₁ table₂ before' ids' hsame h' => ?_⟩
  rw [h'.keeps_of_append.map_key, h.keeps_of_append.map_key, dedup_neighbours, dedup_neighbours]
  refine Nearest.map_key_nearest_congr (List.Perm.map _ ?_)
  refine (List.perm_ext_iff_of_nodup (List.nodup_dedup _) (List.nodup_dedup _)).mpr fun i => ?_
  rw [List.mem_dedup, List.mem_dedup, hsame]

/-- Sessions of several lengths, one of them twice, after one that is forgotten. -/
theorem holds_nearest_lengths :
    ∃ table', HoldsNearest (sessionOfLength 0 .unknown) (fun i => sessionOfLength i .normal)
      [4, 1, 4, 3, 2] table' := by
  obtain ⟨table', h⟩ := exists_calls (.setSession (sessionOfLength 7 .unknown))
    ([.add ⟨5, sessionOfLength 5 .anomaly⟩] ++ .setSession (sessionOfLength 0 .unknown) ::
      ([4, 1, 4, 3, 2] : List RowId).map fun i => .add ⟨i, sessionOfLength i .normal⟩)
  exact ⟨table', (@holds_nearest _ _ [.add ⟨5, sessionOfLength 5 .anomaly⟩]
    (sessionOfLength 0 .unknown) (fun i => sessionOfLength i .normal) [4, 1, 4, 3, 2] h).1⟩

end NearestNeighboursTable

end Slas.Apache
