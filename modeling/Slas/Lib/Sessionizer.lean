import Mathlib
import Slas.Lib.SortedMap

/-!
A stream cut into sessions, one key at a time.

The session of a key is open until an element with that key comes that is not in
the same session; the element then opens the next one.

* `Sessionizer`, `step`, `run`: the algorithm, over any type of sessions;
* `Homomorphism.run`: a run over sessions that summarise others;
* `all_sessions_run`: what starting and extending a session keeps;
* `groups`: the sessions as lists of their elements;
* `groups_perm`, `proper_of_mem_groups`, `groups_separated`: the groups partition
  the stream, every group is in the order of the stream and in the same session
  as its first element, and no two of one key could have been one.
-/

/-- What becomes of an element: it starts a session, or extends the one it is in
the same session with. -/
structure Sessionizer (α κ β : Type) where
  key : α → κ
  new : α → β
  same : β → α → Bool
  extend : β → α → β

namespace Sessionizer

variable {α κ β γ : Type} [LinearOrder κ]

/-- The open sessions and the sessions that are complete, in the order in which
they became so. -/
structure State (κ β : Type) [LinearOrder κ] where
  opened : SortedMap κ β
  closed : List β

def State.empty : State κ β := ⟨.empty, []⟩

/-- All sessions: the complete ones, then the open ones by key. -/
def State.sessions (st : State κ β) : List β := st.closed ++ st.opened.values

/-- One element. -/
def step (S : Sessionizer α κ β) (st : State κ β) (a : α) : State κ β :=
  match st.opened.find? (S.key a) with
  | some s =>
      if S.same s a then { st with opened := st.opened.insert (S.key a) (S.extend s a) }
      else ⟨st.opened.insert (S.key a) (S.new a), st.closed ++ [s]⟩
  | none => { st with opened := st.opened.insert (S.key a) (S.new a) }

/-- Elements one after another. -/
def run (S : Sessionizer α κ β) (st : State κ β) (as : List α) : State κ β := as.foldl S.step st

lemma run_append (S : Sessionizer α κ β) (st : State κ β) (as bs : List α) :
    S.run st (as ++ bs) = S.run (S.run st as) bs := List.foldl_append

/-! ### Sessions that summarise others -/

/-- `f` summarises the sessions of `S` as those of `T`. -/
structure Homomorphism (S : Sessionizer α κ β) (T : Sessionizer α κ γ) (f : β → γ) : Prop where
  key : ∀ a, T.key a = S.key a
  new : ∀ a, T.new a = f (S.new a)
  same : ∀ s a, T.same (f s) a = S.same s a
  extend : ∀ s a, T.extend (f s) a = f (S.extend s a)

def State.map (f : β → γ) (st : State κ β) : State κ γ := ⟨st.opened.map f, st.closed.map f⟩

lemma State.sessions_map (f : β → γ) (st : State κ β) :
    (st.map f).sessions = st.sessions.map f := by
  rw [sessions, map, SortedMap.values_map, sessions, List.map_append]

namespace Homomorphism

variable {S : Sessionizer α κ β} {T : Sessionizer α κ γ} {f : β → γ}

lemma step (h : Homomorphism S T f) (st : State κ β) (a : α) :
    T.step (st.map f) a = (S.step st a).map f := by
  have hfind : (st.map f).opened.find? (S.key a) = (st.opened.find? (S.key a)).map f :=
    SortedMap.find?_map f st.opened _
  rw [Sessionizer.step, Sessionizer.step, h.key, hfind]
  cases st.opened.find? (S.key a) with
  | none => simp [State.map, h.new, SortedMap.map_insert]
  | some s =>
      simp only [Option.map_some, h.same]
      split_ifs
      · simp [State.map, h.extend, SortedMap.map_insert]
      · simp [State.map, h.new, SortedMap.map_insert]

/-- The summaries of a run are a run of the summaries. -/
lemma run (h : Homomorphism S T f) (st : State κ β) (as : List α) :
    T.run (st.map f) as = (S.run st as).map f := by
  induction as generalizing st with
  | nil => rfl
  | cons a as ih =>
      show T.run (T.step (st.map f) a) as = _
      rw [h.step, ih]
      rfl

end Homomorphism

/-! ### Sessions as groups of elements -/

/-- A first element and those that came after it. -/
structure Group (α : Type) where
  first : α
  rest : List α

def Group.toList (g : Group α) : List α := g.first :: g.rest

/-- The last element. -/
def Group.last (g : Group α) : α := g.rest.getLast?.getD g.first

lemma Group.toList_append (g : Group α) (a : α) :
    Group.toList ⟨g.first, g.rest ++ [a]⟩ = g.toList ++ [a] := rfl

lemma Group.last_append (g : Group α) (a : α) : Group.last ⟨g.first, g.rest ++ [a]⟩ = a := by
  simp [last]

/-- The same group of other elements. -/
def Group.map (f : α → α) (g : Group α) : Group α := ⟨f g.first, g.rest.map f⟩

lemma Group.toList_map (f : α → α) (g : Group α) : (g.map f).toList = g.toList.map f := rfl

lemma Group.last_map (f : α → α) (g : Group α) : (g.map f).last = f g.last := by
  rw [last, last, map, List.getLast?_map]
  cases g.rest.getLast? with
  | none => rfl
  | some a => rfl

lemma Group.first_mem (g : Group α) : g.first ∈ g.toList := List.mem_cons_self

/-- Sessions that keep their elements. An element is compared with the first. -/
def grouping (key : α → κ) (same : α → α → Bool) : Sessionizer α κ (Group α) where
  key := key
  new a := ⟨a, []⟩
  same g a := same g.first a
  extend g a := ⟨g.first, g.rest ++ [a]⟩

/-- The groups of a stream. -/
def groups (key : α → κ) (same : α → α → Bool) (as : List α) : List (Group α) :=
  ((grouping key same).run .empty as).sessions

section Groups

variable (key : α → κ) (same : α → α → Bool) (le : α → α → Prop)

/-- Of two groups of one key, the second starts later and not in the session of
the first. -/
def Separated (g g' : Group α) : Prop :=
  key g.first = key g'.first → le g.first g'.first ∧ same g.first g'.first = false

/-- A group in the order of the stream, all of it in the session of its first
element. -/
structure Proper (as : List α) (g : Group α) : Prop where
  key : ∀ a ∈ g.rest, key a = key g.first
  same : ∀ a ∈ g.rest, same g.first a = true
  sublist : g.toList.Sublist as

/-- After the elements `as`. -/
structure Inv (as : List α) (st : State κ (Group α)) : Prop where
  perm : (st.sessions.flatMap Group.toList).Perm as
  proper : ∀ g ∈ st.sessions, Proper key same as g
  keyed : ∀ p ∈ st.opened.entries, key p.2.first = p.1
  reopened : ∀ g ∈ st.closed, ∃ p ∈ st.opened.entries, p.1 = key g.first
  closed : st.closed.Pairwise (Separated key same le)
  opened : ∀ g ∈ st.closed, ∀ p ∈ st.opened.entries, Separated key same le g p.2

variable {key same le}

lemma inv_empty : Inv key same le [] (.empty : State κ (Group α)) where
  perm := List.Perm.nil
  proper _ hg := absurd hg List.not_mem_nil
  keyed _ hp := absurd hp List.not_mem_nil
  reopened _ hg := absurd hg List.not_mem_nil
  closed := List.Pairwise.nil
  opened _ hg := absurd hg List.not_mem_nil

omit [LinearOrder κ] in
lemma Proper.append {as : List α} {g : Group α} (h : Proper key same as g) (a : α) :
    Proper key same (as ++ [a]) g :=
  ⟨h.key, h.same, h.sublist.trans (List.sublist_append_left _ _)⟩

omit [LinearOrder κ] in
lemma proper_new (key : α → κ) (same : α → α → Bool) (as : List α) (a : α) :
    Proper key same (as ++ [a]) ⟨a, []⟩ :=
  ⟨fun _ hb => absurd hb List.not_mem_nil, fun _ hb => absurd hb List.not_mem_nil,
    List.sublist_append_right _ _⟩

omit [LinearOrder κ] in
lemma Proper.extend {as : List α} {g : Group α} {a : α} (h : Proper key same as g)
    (hkey : key a = key g.first) (hsame : same g.first a = true) :
    Proper key same (as ++ [a]) ⟨g.first, g.rest ++ [a]⟩ where
  key b hb := by
    rcases List.mem_append.mp hb with hb | hb
    · exact h.key b hb
    · rw [List.mem_singleton.mp hb, hkey]
  same b hb := by
    rcases List.mem_append.mp hb with hb | hb
    · exact h.same b hb
    · rw [List.mem_singleton.mp hb]
      exact hsame
  sublist := h.sublist.append (List.Sublist.refl [a])

lemma mem_sessions {st : State κ β} {s : β} :
    s ∈ st.sessions ↔ s ∈ st.closed ∨ ∃ p ∈ st.opened.entries, p.2 = s := by
  rw [State.sessions, List.mem_append, SortedMap.values, List.mem_map]

/-- What starting and extending sessions keeps holds of all of them. -/
lemma all_sessions_run {S : Sessionizer α κ β} {P : β → Prop}
    (hextend : ∀ s a, P s → P (S.extend s a)) {as : List α} (hnew : ∀ a ∈ as, P (S.new a))
    {st : State κ β} (hst : ∀ s ∈ st.sessions, P s) : ∀ s ∈ (S.run st as).sessions, P s := by
  have hinsert : ∀ {st : State κ β} {k v} {closed : List β}, P v → (∀ s ∈ closed, P s) →
      (∀ s ∈ st.sessions, P s) → ∀ s ∈ State.sessions ⟨st.opened.insert k v, closed⟩, P s := by
    intro st k v closed hv hclosed hst s hs
    rcases mem_sessions.mp hs with hs | ⟨p, hp, rfl⟩
    · exact hclosed s hs
    · rcases SortedMap.mem_insert.mp hp with rfl | ⟨hp, -⟩
      · exact hv
      · exact hst _ (mem_sessions.mpr (.inr ⟨p, hp, rfl⟩))
  induction as generalizing st with
  | nil => exact hst
  | cons a as ih =>
      obtain ⟨ha, has⟩ := List.forall_mem_cons.mp hnew
      have hclosed : ∀ s ∈ st.closed, P s := fun s hs => hst s (mem_sessions.mpr (.inl hs))
      refine ih has ?_
      rw [step]
      cases hfind : st.opened.find? (S.key a) with
      | none => exact hinsert ha hclosed hst
      | some s =>
          have hs : P s := hst s
            (mem_sessions.mpr (.inr ⟨_, SortedMap.find?_eq_some.mp hfind, rfl⟩))
          dsimp only
          split_ifs
          · exact hinsert (hextend s a hs) hclosed hst
          · refine hinsert ha (fun q hq => ?_) hst
            rcases List.mem_append.mp hq with hq | hq
            · exact hclosed q hq
            · exact List.mem_singleton.mp hq ▸ hs

/-- The elements of the open sessions when the session of a key has been set. -/
lemma flatMap_insert_perm (m : SortedMap κ (Group α)) (k : κ) (g : Group α) :
    ((m.insert k g).values.flatMap Group.toList).Perm
      (g.toList ++ (m.others k).flatMap fun p => p.2.toList) := by
  have h := (m.entries_insert_perm k g).flatMap_right fun p => p.2.toList
  rw [List.flatMap_cons] at h
  rwa [SortedMap.values, List.flatMap_map]

/-- The same before, if the key had a session. -/
lemma flatMap_values_perm {m : SortedMap κ (Group α)} {k : κ} {g : Group α}
    (h : m.find? k = some g) : (m.values.flatMap Group.toList).Perm
      (g.toList ++ (m.others k).flatMap fun p => p.2.toList) := by
  have h := (SortedMap.entries_perm h).flatMap_right fun p => p.2.toList
  rw [List.flatMap_cons] at h
  rwa [SortedMap.values, List.flatMap_map]

/-- The elements of all sessions. -/
lemma flatMap_sessions (st : State κ (Group α)) : st.sessions.flatMap Group.toList
    = st.closed.flatMap Group.toList ++ st.opened.values.flatMap Group.toList :=
  List.flatMap_append

/-- The elements of all sessions when the session of a key has been replaced for one
more element. -/
lemma Inv.perm_insert {as : List α} {st : State κ (Group α)} (h : Inv key same le as st) {k : κ}
    {s g : Group α} (hfind : st.opened.find? k = some s) {closed : List (Group α)} {a : α}
    (hnew : closed.flatMap Group.toList ++ g.toList
      = st.closed.flatMap Group.toList ++ s.toList ++ [a]) :
    ((State.mk (st.opened.insert k g) closed).sessions.flatMap Group.toList).Perm (as ++ [a]) := by
  have hold := h.perm
  rw [flatMap_sessions] at hold ⊢
  set others := (st.opened.others k).flatMap fun p => p.2.toList
  calc List.Perm (closed.flatMap Group.toList ++ (st.opened.insert k g).values.flatMap Group.toList)
        (closed.flatMap Group.toList ++ (g.toList ++ others)) :=
        (flatMap_insert_perm st.opened k g).append_left _
    List.Perm _ (st.closed.flatMap Group.toList ++ s.toList ++ ([a] ++ others)) := by
        rw [← List.append_assoc, hnew, List.append_assoc _ [a]]
    List.Perm _ (st.closed.flatMap Group.toList ++ (s.toList ++ others) ++ [a]) := by
        simp only [List.append_assoc]
        exact (List.perm_append_comm.append_left _).append_left _
    List.Perm _ (as ++ [a]) :=
        (((flatMap_values_perm hfind).append_left _).symm.trans hold).append_right [a]

/-- A key without a session: one is opened. -/
lemma Inv.open {as : List α} {st : State κ (Group α)} (h : Inv key same le as st) {a : α}
    (hfind : st.opened.find? (key a) = none) :
    Inv key same le (as ++ [a]) { st with opened := st.opened.insert (key a) ⟨a, []⟩ } where
  perm := by
    classical
    have hset := flatMap_insert_perm st.opened (key a) ⟨a, []⟩
    have hold := h.perm
    rw [flatMap_sessions] at hold ⊢
    rw [SortedMap.others_eq hfind] at hset
    refine (hset.append_left _).trans (List.Perm.trans ?_ (hold.append_right [a]))
    refine List.perm_iff_count.mpr fun x => ?_
    simp only [List.count_append, SortedMap.values, List.flatMap_map, Group.toList]
    omega
  proper g hg := by
    rcases mem_sessions.mp hg with hg | ⟨p, hp, rfl⟩
    · exact (h.proper g (mem_sessions.mpr (.inl hg))).append a
    · rcases SortedMap.mem_insert.mp hp with rfl | ⟨hp, -⟩
      · exact proper_new key same as a
      · exact (h.proper _ (mem_sessions.mpr (.inr ⟨p, hp, rfl⟩))).append a
  keyed p hp := by
    rcases SortedMap.mem_insert.mp hp with rfl | ⟨hp, -⟩
    · rfl
    · exact h.keyed p hp
  reopened g hg := by
    obtain ⟨p, hp, hk⟩ := h.reopened g hg
    exact ⟨p, SortedMap.mem_insert.mpr (.inr ⟨hp, SortedMap.find?_eq_none.mp hfind p hp⟩), hk⟩
  closed := h.closed
  opened g hg p hp := by
    rcases SortedMap.mem_insert.mp hp with rfl | ⟨hp, -⟩
    · -- a complete session of this key would have been followed by an open one
      intro hkey
      obtain ⟨q, hq, hk⟩ := h.reopened g hg
      exact absurd (hk.trans hkey) (SortedMap.find?_eq_none.mp hfind q hq)
    · exact h.opened g hg p hp

/-- An element in the session that is open. -/
lemma Inv.extend {as : List α} {st : State κ (Group α)} (h : Inv key same le as st) {a : α}
    {s : Group α} (hfind : st.opened.find? (key a) = some s) (hsame : same s.first a = true) :
    Inv key same le (as ++ [a])
      { st with opened := st.opened.insert (key a) ⟨s.first, s.rest ++ [a]⟩ } := by
  have hs := SortedMap.find?_eq_some.mp hfind
  have hkey : key s.first = key a := h.keyed _ hs
  refine ⟨?_, fun g hg => ?_, fun p hp => ?_, fun g hg => ?_, h.closed, fun g hg p hp => ?_⟩
  · exact h.perm_insert hfind (by simp [Group.toList])
  · rcases mem_sessions.mp hg with hg | ⟨p, hp, rfl⟩
    · exact (h.proper g (mem_sessions.mpr (.inl hg))).append a
    · rcases SortedMap.mem_insert.mp hp with rfl | ⟨hp, -⟩
      · exact (h.proper s (mem_sessions.mpr (.inr ⟨_, hs, rfl⟩))).extend hkey.symm hsame
      · exact (h.proper _ (mem_sessions.mpr (.inr ⟨p, hp, rfl⟩))).append a
  · rcases SortedMap.mem_insert.mp hp with rfl | ⟨hp, -⟩
    · exact hkey
    · exact h.keyed p hp
  · obtain ⟨p, hp, hk⟩ := h.reopened g hg
    by_cases hpk : p.1 = key a
    · exact ⟨_, SortedMap.mem_insert.mpr (.inl rfl), hpk ▸ hk⟩
    · exact ⟨p, SortedMap.mem_insert.mpr (.inr ⟨hp, hpk⟩), hk⟩
  · rcases SortedMap.mem_insert.mp hp with rfl | ⟨hp, -⟩
    · -- the first element is what it was
      have hsep : Separated key same le g s := h.opened g hg _ hs
      exact hsep
    · exact h.opened g hg p hp

/-- An element after the session that is open: the next one is opened. -/
lemma Inv.reopen (hconvex : ∀ a b c, le a b → le b c → same a c = true → same a b = true)
    {as : List α} {st : State κ (Group α)} (h : Inv key same le as st) {a : α}
    (hlast : ∀ b ∈ as, le b a) {s : Group α} (hfind : st.opened.find? (key a) = some s)
    (hsame : same s.first a = false) :
    Inv key same le (as ++ [a]) ⟨st.opened.insert (key a) ⟨a, []⟩, st.closed ++ [s]⟩ := by
  have hs := SortedMap.find?_eq_some.mp hfind
  have hkey : key s.first = key a := h.keyed _ hs
  have hfirst : ∀ g ∈ st.sessions, le g.first a := fun g hg =>
    hlast _ ((h.proper g hg).sublist.subset g.first_mem)
  have hsmem : s ∈ st.sessions := mem_sessions.mpr (.inr ⟨_, hs, rfl⟩)
  -- the new session is separated from every complete one
  have hnew : ∀ g ∈ st.closed ++ [s], Separated key same le g ⟨a, []⟩ := by
    intro g hg hgkey
    rcases List.mem_append.mp hg with hg | hg
    · refine ⟨hfirst g (mem_sessions.mpr (.inl hg)), ?_⟩
      obtain ⟨hle, hsep⟩ := h.opened g hg _ hs (hgkey.trans hkey.symm)
      by_contra hga
      rw [Bool.not_eq_false] at hga
      rw [hconvex _ _ _ hle (hfirst s hsmem) hga] at hsep
      exact Bool.noConfusion hsep
    · obtain rfl := List.mem_singleton.mp hg
      exact ⟨hfirst g hsmem, hsame⟩
  refine ⟨?_, fun g hg => ?_, fun p hp => ?_, fun g hg => ?_, ?_, fun g hg p hp => ?_⟩
  · exact h.perm_insert hfind (by simp [Group.toList])
  · rcases mem_sessions.mp hg with hg | ⟨p, hp, rfl⟩
    · rcases List.mem_append.mp hg with hg | hg
      · exact (h.proper g (mem_sessions.mpr (.inl hg))).append a
      · obtain rfl := List.mem_singleton.mp hg
        exact (h.proper g hsmem).append a
    · rcases SortedMap.mem_insert.mp hp with rfl | ⟨hp, -⟩
      · exact proper_new key same as a
      · exact (h.proper _ (mem_sessions.mpr (.inr ⟨p, hp, rfl⟩))).append a
  · rcases SortedMap.mem_insert.mp hp with rfl | ⟨hp, -⟩
    · rfl
    · exact h.keyed p hp
  · have hopen : ∀ p ∈ st.opened.entries, ∃ q ∈ (st.opened.insert (key a) ⟨a, []⟩).entries,
        q.1 = p.1 := fun p hp => by
      by_cases hpk : p.1 = key a
      · exact ⟨_, SortedMap.mem_insert.mpr (.inl rfl), hpk.symm⟩
      · exact ⟨p, SortedMap.mem_insert.mpr (.inr ⟨hp, hpk⟩), rfl⟩
    rcases List.mem_append.mp hg with hg | hg
    · obtain ⟨p, hp, hk⟩ := h.reopened g hg
      obtain ⟨q, hq, hqp⟩ := hopen p hp
      exact ⟨q, hq, hqp.trans hk⟩
    · obtain rfl := List.mem_singleton.mp hg
      obtain ⟨q, hq, hqp⟩ := hopen _ hs
      exact ⟨q, hq, hqp.trans hkey.symm⟩
  · refine List.pairwise_append.mpr ⟨h.closed, List.pairwise_singleton _ _, fun g hg g' hg' => ?_⟩
    obtain rfl := List.mem_singleton.mp hg'
    exact h.opened g hg _ hs
  · rcases SortedMap.mem_insert.mp hp with rfl | ⟨hp, hpk⟩
    · exact hnew g hg
    · rcases List.mem_append.mp hg with hg | hg
      · exact h.opened g hg p hp
      · intro hgp
        rw [List.mem_singleton.mp hg, hkey, h.keyed p hp] at hgp
        exact absurd hgp.symm hpk

/-- **One element keeps the invariant.** Being in the same session is convex, and
the stream is in order. -/
lemma Inv.step (hconvex : ∀ a b c, le a b → le b c → same a c = true → same a b = true)
    {as : List α} {st : State κ (Group α)} (h : Inv key same le as st) {a : α}
    (hlast : ∀ b ∈ as, le b a) : Inv key same le (as ++ [a]) ((grouping key same).step st a) := by
  have hkey : (grouping key same).key a = key a := rfl
  rw [Sessionizer.step, hkey]
  cases hfind : st.opened.find? (key a) with
  | none => exact h.open hfind
  | some s =>
      by_cases hsame : same s.first a = true
      · simp only [show (grouping key same).same s a = true from hsame, if_true]
        exact h.extend hfind hsame
      · have hfalse : (grouping key same).same s a = false := Bool.eq_false_iff.mpr hsame
        simp only [hfalse, Bool.false_eq_true, if_false]
        exact h.reopen hconvex hlast hfind (Bool.eq_false_iff.mpr hsame)

/-- The invariant of a whole stream. -/
lemma inv_run (hconvex : ∀ a b c, le a b → le b c → same a c = true → same a b = true)
    {as : List α} (hsorted : as.Pairwise le) :
    Inv key same le as ((grouping key same).run .empty as) := by
  induction as using List.reverseRecOn with
  | nil => exact inv_empty
  | append_singleton as a ih =>
      obtain ⟨has, -, hlast⟩ := List.pairwise_append.mp hsorted
      rw [run_append]
      exact (ih has).step hconvex fun b hb => hlast b hb a List.mem_cons_self

variable (hconvex : ∀ a b c, le a b → le b c → same a c = true → same a b = true)
  {as : List α} (hsorted : as.Pairwise le)

include hconvex hsorted

/-- Every element is in one group, once. -/
lemma groups_perm : ((groups key same as).flatMap Group.toList).Perm as :=
  (inv_run hconvex hsorted).perm

lemma proper_of_mem_groups {g : Group α} (hg : g ∈ groups key same as) : Proper key same as g :=
  (inv_run hconvex hsorted).proper g hg

/-- No two groups of one key could have been one. -/
lemma groups_separated : (groups key same as).Pairwise (Separated key same le) := by
  have h : Inv key same le as _ := inv_run hconvex hsorted
  refine List.pairwise_append.mpr ⟨h.closed, ?_, fun g hg g' hg' => ?_⟩
  · -- open sessions have different keys
    refine List.pairwise_map.mpr (List.Pairwise.imp_of_mem (fun {p q} hp hq hpq hkey => ?_)
      (SortedMap.sorted _))
    rw [h.keyed p hp, h.keyed q hq] at hkey
    exact absurd hkey hpq.ne
  · obtain ⟨p, hp, rfl⟩ := List.mem_map.mp hg'
    exact h.opened g hg p hp

end Groups

end Sessionizer
