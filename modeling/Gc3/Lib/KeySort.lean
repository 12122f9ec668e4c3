import Mathlib.Data.List.Sort
import Mathlib.Data.Set.Function

/-!
# Sorting by a key

A stable sort by a key that need not tell its elements apart. Elements with one key stay
in the order they came in. So whether the order they came in shows in the result depends
on the key alone, and exactly:

* `sortBy_eq_of_perm` — where the key is injective on the elements, the result is a
  function of the elements, whatever order they are given in.
* `injOn_of_sortBy_reverse` — where it is not, sorting the reversed list already comes
  out differently. The list and its reverse are thus all that has to be compared.

The first follows from the result being ordered by the key and from two ordered lists of
the same elements being equal. The second is about pairs: a pair of elements is in a
list in one of two orders, and without repetitions in only one (`pair_sublist_or`,
`not_pair_sublist_swap`); a pair whose keys allow its order keeps it through the sort
(`pair_sublist_sortBy`); and with equal keys both orders are allowed, one of which comes
from the list and the other from its reverse.
-/

namespace KeySort

variable {α κ : Type*}

/-- A list without repetitions has two elements in one order only. -/
theorem not_pair_sublist_swap {x y : α} {l : List α} (hl : l.Nodup) (h : [x, y].Sublist l) :
    ¬ [y, x].Sublist l := by
  induction l with
  | nil => exact absurd h (by simp)
  | cons c l ih =>
    obtain ⟨hc, hl⟩ := List.nodup_cons.mp hl
    intro h'
    cases h with
    | cons _ hxy =>
      have hy : y ∈ l := hxy.subset (by simp)
      cases h' with
      | cons _ hyx => exact ih hl hxy hyx
      | cons_cons _ hx => exact hc hy
    | cons_cons _ hy =>
      have hy : y ∈ l := hy.subset (by simp)
      cases h' with
      | cons _ hyx => exact hc (hyx.subset (by simp))
      | cons_cons _ hx => exact hc hy

/-- Of two different elements of a list one stands before the other. -/
theorem pair_sublist_or {x y : α} {l : List α} (hx : x ∈ l) (hy : y ∈ l) (hne : x ≠ y) :
    [x, y].Sublist l ∨ [y, x].Sublist l := by
  obtain ⟨before, after, rfl⟩ := List.append_of_mem hx
  rcases List.mem_append.mp hy with hbefore | hafter
  · refine Or.inr ?_
    have hpair := (List.singleton_sublist.mpr hbefore).append
      (List.singleton_sublist.mpr (List.mem_cons_self (a := x) (l := after)))
    exact hpair
  · have hmem := (List.mem_cons.mp hafter).resolve_left hne.symm
    have htail := (List.singleton_sublist.mpr hmem).cons_cons x
    exact Or.inl (htail.trans (List.sublist_append_right before _))

variable [LinearOrder κ] (key : α → κ)

/-- The elements in the order of their keys; the sort is stable. -/
def sortBy (l : List α) : List α := l.insertionSort fun a b => key a ≤ key b

/-- Sorting loses nothing and adds nothing. -/
theorem sortBy_perm (l : List α) : (sortBy key l).Perm l := List.perm_insertionSort _ l

/-- And leaves the keys in order. -/
theorem sortBy_pairwise (l : List α) : (sortBy key l).Pairwise fun a b => key a ≤ key b := by
  have htrans : IsTrans α fun a b => key a ≤ key b := ⟨fun _ _ _ => le_trans⟩
  have htotal : Std.Total fun a b => key a ≤ key b := ⟨fun a b => le_total (key a) (key b)⟩
  exact List.pairwise_insertionSort _ l

/-- Two elements in the order of their keys stay in that order, and so do two with
one key. -/
theorem pair_sublist_sortBy {x y : α} {l : List α} (hkey : key x ≤ key y)
    (h : [x, y].Sublist l) : [x, y].Sublist (sortBy key l) :=
  List.pair_sublist_insertionSort hkey h

variable {key}

/-- Where the key tells the elements apart, the order they come in does not show. -/
theorem sortBy_eq_of_perm {l l' : List α} (hperm : l'.Perm l)
    (hinj : Set.InjOn key {x | x ∈ l}) : sortBy key l' = sortBy key l := by
  have hperm' : (sortBy key l').Perm (sortBy key l) :=
    (sortBy_perm key l').trans (hperm.trans (sortBy_perm key l).symm)
  refine hperm'.eq_of_pairwise (fun a b ha hb hab hba => ?_) (sortBy_pairwise key l')
    (sortBy_pairwise key l)
  have ha' : a ∈ l := hperm.mem_iff.mp ((sortBy_perm key l').mem_iff.mp ha)
  exact hinj ha' ((sortBy_perm key l).mem_iff.mp hb) (le_antisymm hab hba)

/-- **Ties show**: a sort that comes out the same for the list reversed tells its
elements apart by their keys. -/
theorem injOn_of_sortBy_reverse {l : List α} (hl : l.Nodup)
    (h : sortBy key l.reverse = sortBy key l) : Set.InjOn key {x | x ∈ l} := by
  have hsorted : (sortBy key l).Nodup := (sortBy_perm key l).nodup_iff.mpr hl
  -- one order survives from the list, the other from its reverse
  have hboth : ∀ {x y}, key x = key y → [x, y].Sublist l → False := by
    intro x y hkey hxy
    have hforth := pair_sublist_sortBy key hkey.le hxy
    have hback := pair_sublist_sortBy key hkey.ge (List.reverse_sublist.mpr hxy)
    rw [h] at hback
    exact not_pair_sublist_swap hsorted hforth hback
  intro x hx y hy hkey
  by_contra hne
  rcases pair_sublist_or hx hy hne with hxy | hyx
  · exact hboth hkey hxy
  · exact hboth hkey.symm hyx

end KeySort
