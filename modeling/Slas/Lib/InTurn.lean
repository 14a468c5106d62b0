import Mathlib

/-!
Judgements made in turn, each written where the later ones can see it.

* `inTurn`: one after another;
* `atOnce`: all of them by the state at the start;
* `Uninfluenced`: whoever else has been judged at the start, nobody is judged differently;
* `agree_iff_uninfluenced`: the judgements do not depend on the order exactly then.
-/

namespace Slas.InTurn

variable {ι δ σ : Type*} (write : ι → δ → σ → σ) (judge : σ → ι → δ)

/-- One after another, each by the state the earlier ones have left. -/
def inTurn (xs : List ι) (s : σ) : σ :=
  xs.foldl (fun s x => write x (judge s x) s) s

/-- All by the state at the start. -/
def atOnce (xs : List ι) (s : σ) : σ :=
  inTurn write (fun _ => judge s) xs s

/-- Nobody is judged differently when others have been judged before, by the state at the
start. -/
def Uninfluenced (all : List ι) (s : σ) : Prop :=
  ∀ x ∈ all, ∀ done : List ι, done.Nodup → done ⊆ all → x ∉ done →
    judge (atOnce write judge done s) x = judge s x

/-- A judgement is read where it was written, if there is a place for it. -/
structure Reads (read : σ → ι → Option δ) (all : List ι) : Prop where
  self : ∀ x ∈ all, ∀ d s, read (write x d s) x = (read s x).map fun _ => d
  other : ∀ x ∈ all, ∀ y ∈ all, y ≠ x → ∀ d s, read (write x d s) y = read s y

variable {write judge} {all xs : List ι} {s : σ} {x : ι}

lemma inTurn_append (xs ys : List ι) (s : σ) :
    inTurn write judge (xs ++ ys) s = inTurn write judge ys (inTurn write judge xs s) :=
  List.foldl_append

/-- If each is judged as at the start, then so are all. -/
lemma inTurn_eq_atOnce
    (h : ∀ pre y, pre ++ [y] <+: xs → judge (inTurn write judge pre s) y = judge s y) :
    inTurn write judge xs s = atOnce write judge xs s := by
  induction xs using List.reverseRecOn with
  | nil => rfl
  | append_singleton xs x ih =>
      have hxs := ih fun pre y hpre => h pre y (hpre.trans (List.prefix_append xs [x]))
      have hx := h xs x (List.prefix_refl _)
      rw [atOnce, inTurn_append, inTurn_append, ← atOnce, ← hxs]
      exact congrArg (fun d => write x d (inTurn write judge xs s)) hx

/-- Without influence each is judged as at the start. -/
lemma Uninfluenced.inTurn_eq_atOnce (h : Uninfluenced write judge all s) (hnodup : xs.Nodup)
    (hsub : xs ⊆ all) : inTurn write judge xs s = atOnce write judge xs s := by
  induction xs using List.reverseRecOn with
  | nil => rfl
  | append_singleton xs x ih =>
      obtain ⟨hnodup, -, hdisjoint⟩ := List.nodup_append.mp hnodup
      have hsub' : xs ⊆ all := fun y hy => hsub (List.mem_append_left _ hy)
      have hx : x ∉ xs := fun hx => hdisjoint x hx x (by simp) rfl
      have hjudge := h x (hsub (by simp)) xs hnodup hsub' hx
      rw [atOnce, inTurn_append, inTurn_append, ← atOnce, ih hnodup hsub']
      exact congrArg (fun d => write x d (atOnce write judge xs s)) hjudge

/-! ### What is read back -/

section Reads

variable {read : σ → ι → Option δ} (hreads : Reads write read all)
include hreads

lemma read_inTurn_of_not_mem (hsub : xs ⊆ all) (hx : x ∈ all) (hnew : x ∉ xs) (s : σ) :
    read (inTurn write judge xs s) x = read s x := by
  induction xs generalizing s with
  | nil => rfl
  | cons y xs ih =>
      rw [List.mem_cons, not_or] at hnew
      obtain ⟨hy, hsub⟩ := List.cons_subset.mp hsub
      exact (ih hsub hnew.2 _).trans (hreads.other y hy x hx hnew.1 _ s)

lemma isSome_read_inTurn (hsub : xs ⊆ all) (hx : x ∈ all) (s : σ) :
    (read (inTurn write judge xs s) x).isSome = (read s x).isSome := by
  induction xs generalizing s with
  | nil => rfl
  | cons y xs ih =>
      obtain ⟨hy, hsub⟩ := List.cons_subset.mp hsub
      refine (ih hsub _).trans ?_
      by_cases hxy : x = y
      · rw [hxy, hreads.self y hy, Option.isSome_map]
      · rw [hreads.other y hy x hx hxy]

variable (hsome : ∀ x ∈ all, (read s x).isSome)
include hsome

/-- What is read in the end is the judgement when it was made. -/
lemma read_inTurn {pre post : List ι} (hnodup : (pre ++ x :: post).Nodup)
    (hsub : pre ++ x :: post ⊆ all) :
    read (inTurn write judge (pre ++ x :: post) s) x
      = some (judge (inTurn write judge pre s) x) := by
  have hx : x ∈ all := hsub (by simp)
  have hpre : pre ⊆ all := fun y hy => hsub (by simp [hy])
  have hpost : post ⊆ all := fun y hy => hsub (by simp [hy])
  have hnew : x ∉ post := (List.nodup_cons.mp (List.nodup_append.mp hnodup).2.1).1
  have hthere : (read (inTurn write judge pre s) x).isSome := by
    rw [isSome_read_inTurn hreads hpre hx]
    exact hsome x hx
  obtain ⟨d, hd⟩ := Option.isSome_iff_exists.mp hthere
  rw [inTurn_append]
  refine (read_inTurn_of_not_mem hreads hpost hx hnew _).trans ?_
  rw [hreads.self x hx, hd, Option.map_some]

/-- Judged at the start, each is judged by the state at the start. -/
lemma read_atOnce (hnodup : xs.Nodup) (hsub : xs ⊆ all) (hx : x ∈ xs) :
    read (atOnce write judge xs s) x = some (judge s x) := by
  obtain ⟨pre, post, rfl⟩ := List.append_of_mem hx
  exact read_inTurn hreads hsome hnodup hsub

/-- Nobody is influenced if the order does not matter: whoever is judged first is judged by
the state at the start. -/
lemma uninfluenced_of_agree (hall : all.Nodup)
    (h : ∀ xs ys : List ι, xs.Perm all → ys.Perm all → ∀ x ∈ all,
      read (inTurn write judge xs s) x = read (inTurn write judge ys s) x) :
    Uninfluenced write judge all s := by
  have hfirst : ∀ xs : List ι, xs.Perm all → ∀ x ∈ all,
      read (inTurn write judge xs s) x = some (judge s x) := by
    intro xs hxs x hx
    obtain ⟨pre, post, hsplit⟩ := List.append_of_mem hx
    have hperm : ([] ++ x :: (pre ++ post)).Perm all := by
      rw [hsplit]
      exact List.perm_middle.symm
    rw [h xs _ hxs hperm x hx]
    exact read_inTurn hreads hsome (hperm.nodup_iff.mpr hall) hperm.subset
  intro x hx done hdone hsub hnew
  -- `done` first, then `x`
  have hnodup : (done ++ [x]).Nodup := by
    rw [List.nodup_append]
    exact ⟨hdone, List.nodup_singleton x, by rintro y hy z hz rfl; simp_all⟩
  have hsub' : done ++ [x] ⊆ all := fun y hy => by
    rcases List.mem_append.mp hy with hy | hy
    · exact hsub hy
    · rwa [List.mem_singleton.mp hy]
  obtain ⟨l, hl, hsublist⟩ := hnodup.subperm hsub'
  obtain ⟨rest, hrest⟩ := hsublist.exists_perm_append
  have hperm := hrest.trans (hl.append_right rest)
  have hjudge : ∀ pre y, pre ++ [y] <+: done ++ [x] →
      judge (inTurn write judge pre s) y = judge s y := by
    rintro pre y ⟨post, hpost⟩
    have hsplit : (done ++ [x]) ++ rest = pre ++ y :: (post ++ rest) := by
      rw [← hpost]
      simp
    rw [hsplit] at hperm
    have hread : read (inTurn write judge (pre ++ y :: (post ++ rest)) s) y
        = some (judge (inTurn write judge pre s) y) :=
      read_inTurn hreads hsome (hperm.nodup_iff.mp hall) hperm.symm.subset
    have hy : y ∈ all := hperm.symm.subset (by simp)
    exact Option.some.inj (hread.symm.trans (hfirst _ hperm.symm y hy))
  have hbefore := inTurn_eq_atOnce fun pre y hpre =>
    hjudge pre y (hpre.trans (List.prefix_append done [x]))
  rw [← hbefore]
  exact hjudge done x (List.prefix_refl _)

/-- **When the order does not matter.** -/
theorem agree_iff_uninfluenced (hall : all.Nodup) :
    (∀ xs ys : List ι, xs.Perm all → ys.Perm all → ∀ x ∈ all,
      read (inTurn write judge xs s) x = read (inTurn write judge ys s) x) ↔
      Uninfluenced write judge all s := by
  refine ⟨uninfluenced_of_agree hreads hsome hall, fun h => ?_⟩
  have hread : ∀ xs : List ι, xs.Perm all → ∀ x ∈ all,
      read (inTurn write judge xs s) x = some (judge s x) := by
    intro xs hxs x hx
    have hnodup := hxs.nodup_iff.mpr hall
    rw [h.inTurn_eq_atOnce hnodup hxs.subset]
    exact read_atOnce hreads hsome hnodup hxs.subset (hxs.mem_iff.mpr hx)
  exact fun xs ys hxs hys x hx => (hread xs hxs x hx).trans (hread ys hys x hx).symm

end Reads

end Slas.InTurn
