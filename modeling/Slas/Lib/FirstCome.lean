import Mathlib

/-!
A pass over requests that serves an owner only while the owner has nothing.

Every request `i` of an owner asks for some items of that owner; they are
appended to the items given out unless one of those is the owner's already.

* `serveAll`: the pass;
* `of_mem_serveAll`: an item comes from the start, or from a request of an
  owner who had nothing at the start;
* `same_request`: an owner gets the items of one request only;
* `mem_serveAll`: the only request of an owner with nothing is served;
* `nodup_serveAll`: distinct keys stay distinct.
-/

namespace FirstCome

variable {ι α κ μ : Type} [DecidableEq κ]

/-- The requests: who asks, for what, and that nobody asks for another's items. -/
structure Requests (ι α κ : Type) where
  items : ι → List α
  owner : ι → κ
  ownerOf : α → κ
  ownerOf_items : ∀ i, ∀ v ∈ items i, ownerOf v = owner i

variable (q : Requests ι α κ)

/-- One request, after `vals` have been given out. -/
def serve (vals : List α) (i : ι) : List α :=
  if ∃ v ∈ vals, q.ownerOf v = q.owner i then vals else vals ++ q.items i

/-- Requests one after another. -/
def serveAll (vals : List α) (is : List ι) : List α := is.foldl (serve q) vals

variable {q} {vals : List α} {is : List ι} {i : ι} {v : α} {k : κ}

lemma serve_of_owner (h : ∃ v ∈ vals, q.ownerOf v = q.owner i) : serve q vals i = vals := if_pos h

lemma serve_of_not_owner (h : ∀ v ∈ vals, q.ownerOf v ≠ q.owner i) :
    serve q vals i = vals ++ q.items i := if_neg (by push Not; exact h)

lemma mem_serve (hv : v ∈ vals) : v ∈ serve q vals i := by
  unfold serve
  split_ifs
  · exact hv
  · exact List.mem_append_left _ hv

lemma of_mem_serve (hv : v ∈ serve q vals i) :
    v ∈ vals ∨ (v ∈ q.items i ∧ ∀ v' ∈ vals, q.ownerOf v' ≠ q.owner i) := by
  unfold serve at hv
  split_ifs at hv with h
  · exact .inl hv
  · push Not at h
    exact (List.mem_append.mp hv).imp_right fun hv => ⟨hv, h⟩

/-- Nothing is taken back. -/
lemma subset_serveAll (hv : v ∈ vals) : v ∈ serveAll q vals is := by
  induction is generalizing vals with
  | nil => exact hv
  | cons j is ih => exact ih (mem_serve hv)

lemma of_mem_serveAll (hv : v ∈ serveAll q vals is) :
    v ∈ vals ∨ ∃ i ∈ is, v ∈ q.items i ∧ ∀ v' ∈ vals, q.ownerOf v' ≠ q.owner i := by
  induction is generalizing vals with
  | nil => exact .inl hv
  | cons j is ih =>
      rcases ih hv with h | ⟨i, hi, hvi, hno⟩
      · rcases of_mem_serve h with h | ⟨hvj, hno⟩
        · exact .inl h
        · exact .inr ⟨j, List.mem_cons_self, hvj, hno⟩
      · exact .inr ⟨i, List.mem_cons_of_mem _ hi, hvi, fun v' hv' => hno v' (mem_serve hv')⟩

/-- Who has something gets nothing more. -/
lemma mem_of_owner (hk : ∃ v' ∈ vals, q.ownerOf v' = k) (hv : v ∈ serveAll q vals is)
    (hvk : q.ownerOf v = k) : v ∈ vals := by
  rcases of_mem_serveAll hv with h | ⟨i, -, hvi, hno⟩
  · exact h
  · obtain ⟨v', hv', hk'⟩ := hk
    refine absurd ?_ (hno v' hv')
    calc q.ownerOf v' = k := hk'
      _ = q.ownerOf v := hvk.symm
      _ = _ := q.ownerOf_items i v hvi

/-- What an owner with nothing gets comes from one request. -/
lemma same_request {w : α} (hno : ∀ v' ∈ vals, q.ownerOf v' ≠ k) (hv : v ∈ serveAll q vals is)
    (hw : w ∈ serveAll q vals is) (hvk : q.ownerOf v = k) (hwk : q.ownerOf w = k) :
    ∃ i ∈ is, v ∈ q.items i ∧ w ∈ q.items i := by
  induction is generalizing vals with
  | nil => exact absurd hvk (hno v hv)
  | cons j is ih =>
      by_cases hj : ∃ v' ∈ serve q vals j, q.ownerOf v' = k
      · -- the owner is served by `j`, and by no later request
        have hfrom : ∀ {u : α}, u ∈ serveAll q vals (j :: is) → q.ownerOf u = k →
            u ∈ q.items j := fun {u} hu huk =>
          (of_mem_serve (mem_of_owner hj hu huk)).elim (fun h => absurd huk (hno u h)) (·.1)
        exact ⟨j, List.mem_cons_self, hfrom hv hvk, hfrom hw hwk⟩
      · push Not at hj
        obtain ⟨i, hi, h⟩ := ih hj hv hw
        exact ⟨i, List.mem_cons_of_mem _ hi, h⟩

/-- The only request of an owner with nothing is served. -/
lemma mem_serveAll (hno : ∀ v' ∈ vals, q.ownerOf v' ≠ q.owner i) (hi : i ∈ is)
    (hv : v ∈ q.items i)
    (honly : ∀ j ∈ is, q.owner j = q.owner i → q.items j ≠ [] → j = i) :
    v ∈ serveAll q vals is := by
  induction is generalizing vals with
  | nil => exact absurd hi List.not_mem_nil
  | cons j is ih =>
      by_cases hji : j = i
      · subst hji
        show v ∈ serveAll q (serve q vals j) is
        refine subset_serveAll ?_
        rw [serve_of_not_owner hno]
        exact List.mem_append_right _ hv
      · have hi' : i ∈ is := (List.mem_cons.mp hi).resolve_left (Ne.symm hji)
        refine ih ?_ hi' fun l hl => honly l (List.mem_cons_of_mem _ hl)
        intro v' hv'
        rcases of_mem_serve hv' with h | ⟨hv'j, -⟩
        · exact hno v' h
        · intro hown
          exact hji (honly j List.mem_cons_self ((q.ownerOf_items j v' hv'j).symm.trans hown)
            (List.ne_nil_of_mem hv'j))

/-- Distinct keys stay distinct, if a key tells the owner. -/
lemma nodup_serveAll {key : α → μ} (hkey : ∀ v w, key v = key w → q.ownerOf v = q.ownerOf w)
    (hitems : ∀ i, ((q.items i).map key).Nodup) (h : (vals.map key).Nodup) :
    ((serveAll q vals is).map key).Nodup := by
  induction is generalizing vals with
  | nil => exact h
  | cons j is ih =>
      refine ih ?_
      unfold serve
      split_ifs with hj
      · exact h
      · push Not at hj
        rw [List.map_append]
        refine h.append (hitems j) fun x hx hx' => ?_
        obtain ⟨v, hv, rfl⟩ := List.mem_map.mp hx
        obtain ⟨w, hw, hvw⟩ := List.mem_map.mp hx'
        exact hj v hv ((hkey w v hvw).symm.trans (q.ownerOf_items j w hw))

end FirstCome
