import Gc3.Hass.BinarySensor
import Gc3.Lib.KeySort
import Gc3.Lib.Pointwise
import Gc3.Py.Latin1
import Mathlib.Data.Prod.Lex

/-!
# The order `_sort_key` puts zones in

A numeric id is keyed by its number alone and every other id by its text behind `10**9`.
So two ids that spell one number share a key, and a number past the sentinel comes after
the ids it should precede; and what `str.isdigit` takes for a number `int()` need not
read. Apart from these three the order is the one the docstring promises:
`numericFirst_iff` says for every set of ids that they are sorted without an exception,
numeric ones first and in numeric order, and in the same way whatever order the set is
iterated in, exactly when none of the three occurs.

Keys are pairs in lexicographic order, so `zoneKey` is a map into Mathlib's `ℤ ×ₗ
String` and the code's sort a stable sort by it (`sortZones_eq`). That such a sort gives
one list for all iteration orders exactly when the key is injective on the set is a
general fact (`Gc3.Lib.KeySort`). `Orderable` is the condition, in the words of the ids,
and the proof is that it is what makes the key injective and puts numbers first
(`Orderable.injOn`, `Orderable.key_lt`).
-/

namespace Gc3.Hass

open Gc3.Py Fallible

section

variable [Runtime]

/-! ## Keys -/

/-- The key of an id that has one. -/
def zoneKey (zoneId : String) : ℤ ×ₗ String :=
  if isdigit zoneId then toLex ((intOfStr zoneId).getD 0, "") else toLex (1000000000, zoneId)

theorem zoneKey_number {zoneId : String} {n : Int} (hdigits : isdigit zoneId = true)
    (hn : intOfStr zoneId = some n) : zoneKey zoneId = toLex (n, "") := by
  unfold zoneKey
  rw [if_pos hdigits, hn, Option.getD_some]

theorem zoneKey_other {zoneId : String} (hother : isdigit zoneId = false) :
    zoneKey zoneId = toLex (1000000000, zoneId) := by
  unfold zoneKey
  rw [hother]
  rfl

theorem sortKey_number {zoneId : String} {n : Int} (hdigits : isdigit zoneId = true)
    (hn : intOfStr zoneId = some n) : sortKey zoneId = .ok (n, "") := by
  unfold sortKey
  rw [if_pos hdigits]
  simp only [Json.pyInt, hn]
  rfl

theorem sortKey_other {zoneId : String} (hother : isdigit zoneId = false) :
    sortKey zoneId = .ok (1000000000, zoneId) := by
  unfold sortKey
  rw [hother]
  rfl

/-- `str.isdigit` says yes and `int()` raises. -/
theorem sortKey_unread {zoneId : String} (hdigits : isdigit zoneId = true)
    (hn : intOfStr zoneId = none) : ∃ err, sortKey zoneId = .error err := by
  unfold sortKey
  rw [if_pos hdigits]
  simp only [Json.pyInt, hn]
  exact ⟨_, rfl⟩

/-- Only an id of digits can be without a key, and is when `int()` does not read it. -/
theorem sortable_iff {zoneId : String} :
    Sortable zoneId ↔ (isdigit zoneId = true → ∃ n, intOfStr zoneId = some n) := by
  unfold Sortable
  cases hdigits : isdigit zoneId with
  | false => simp [sortKey_other hdigits]
  | true =>
    cases hn : intOfStr zoneId with
    | none =>
      obtain ⟨err, herr⟩ := sortKey_unread hdigits hn
      simp [herr]
    | some n => simp [sortKey_number hdigits hn]

theorem sortKey_eq {zoneId : String} (h : Sortable zoneId) :
    sortKey zoneId = .ok (ofLex (zoneKey zoneId)) := by
  cases hdigits : isdigit zoneId with
  | false => rw [zoneKey_other hdigits, sortKey_other hdigits, ofLex_toLex]
  | true =>
    obtain ⟨n, hn⟩ := sortable_iff.mp h hdigits
    rw [zoneKey_number hdigits hn, sortKey_number hdigits hn, ofLex_toLex]

omit [Runtime] in
theorem empty_le (s : String) : "" ≤ s := by
  rw [← not_lt, String.lt_iff_toList_lt]
  exact List.not_lt_nil _

omit [Runtime] in
theorem keyLe_iff (a b : ℤ ×ₗ String) : keyLe (ofLex a) (ofLex b) = true ↔ a ≤ b := by
  unfold keyLe
  rw [Prod.Lex.le_iff]
  simp

/-! ## Sorting -/

theorem withKeys_eq {ids : List String} (h : ∀ z ∈ ids, Sortable z) :
    withKeys ids = .ok (ids.map fun z => (ofLex (zoneKey z), z)) := by
  induction ids with
  | nil => rfl
  | cons zoneId rest ih =>
    obtain ⟨hhead, hrest⟩ := List.forall_mem_cons.mp h
    rw [withKeys_cons, sortKey_eq hhead, ih hrest]
    rfl

/-- Sorting ids that all have a key is a stable sort by that key. -/
theorem sortZones_eq {ids : List String} (h : ∀ z ∈ ids, Sortable z) :
    sortZones ids = .ok (KeySort.sortBy zoneKey ids) := by
  have hsorted : (ids.map fun z => (ofLex (zoneKey z), z)).insertionSort
      (fun a b => keyLe a.1 b.1) =
      (KeySort.sortBy zoneKey ids).map fun z => (ofLex (zoneKey z), z) := by
    unfold KeySort.sortBy
    refine (List.map_insertionSort _ _ _ ids fun a _ b _ => ?_).symm
    exact (keyLe_iff (zoneKey a) (zoneKey b)).symm
  unfold sortZones
  rw [withKeys_eq h]
  show Except.ok _ = _
  rw [hsorted, List.map_map]
  exact congrArg Except.ok (List.map_id _)

/-- A sort that returned. -/
theorem sortBy_of_sortZones {ids sorted : List String} (h : sortZones ids = .ok sorted) :
    (∀ z ∈ ids, Sortable z) ∧ KeySort.sortBy zoneKey ids = sorted := by
  have hsortable := (sortZones_ok_iff ids).mp ⟨sorted, h⟩
  rw [sortZones_eq hsortable] at h
  exact ⟨hsortable, Except.ok.inj h⟩

/-! ## When the order is the one promised -/

/-- Whatever order the set is iterated in, sorting it does not raise and gives one
list, in which every id of digits stands before every other, in numeric order. -/
def NumericFirst (ids : Finset String) : Prop :=
  ∃ sorted, (∀ order : SetOrder String, sortZones (order.list ids) = .ok sorted) ∧
    sorted.Pairwise fun y z => isdigit z = true → isdigit y = true ∧
      ∀ m n, intOfStr y = some m → intOfStr z = some n → m ≤ n

/-- `int()` reads every id of digits, no two of them spell one number, and none of
them reaches the sentinel while there is an id to stand before. -/
structure Orderable (ids : Finset String) : Prop where
  reads : ∀ z ∈ ids, isdigit z = true → ∃ n, intOfStr z = some n
  apart : ∀ y ∈ ids, ∀ z ∈ ids, isdigit y = true → isdigit z = true →
    intOfStr y = intOfStr z → y = z
  below : ∀ y ∈ ids, ∀ z ∈ ids, isdigit y = true → isdigit z = false →
    ∀ n, intOfStr y = some n → n < 1000000000 ∨ n = 1000000000 ∧ z ≠ ""

theorem Orderable.sortable {ids : Finset String} (h : Orderable ids) :
    ∀ z ∈ ids, Sortable z := fun z hz => sortable_iff.mpr (h.reads z hz)

/-- An id of digits has its key below that of any other id. -/
theorem Orderable.key_lt {ids : Finset String} (h : Orderable ids) {y z : String} (hy : y ∈ ids)
    (hz : z ∈ ids) (hdigits : isdigit y = true) (hother : isdigit z = false) :
    zoneKey y < zoneKey z := by
  obtain ⟨n, hn⟩ := h.reads y hy hdigits
  rw [zoneKey_number hdigits hn, zoneKey_other hother, Prod.Lex.toLex_lt_toLex]
  rcases h.below y hy z hz hdigits hother n hn with hlt | ⟨heq, hne⟩
  · exact Or.inl hlt
  · exact Or.inr ⟨heq, lt_of_le_of_ne (empty_le z) (Ne.symm hne)⟩

/-- Different ids have different keys. -/
theorem Orderable.injOn {ids : Finset String} (h : Orderable ids) {l : List String}
    (hl : ∀ z ∈ l, z ∈ ids) : Set.InjOn zoneKey {z | z ∈ l} := by
  intro y hy z hz hkey
  cases hdy : isdigit y with
  | true =>
    cases hdz : isdigit z with
    | true =>
      obtain ⟨m, hm⟩ := h.reads y (hl y hy) hdy
      obtain ⟨n, hn⟩ := h.reads z (hl z hz) hdz
      rw [zoneKey_number hdy hm, zoneKey_number hdz hn] at hkey
      have hmn : m = n := congrArg (fun k => (ofLex k).1) hkey
      exact h.apart y (hl y hy) z (hl z hz) hdy hdz (by rw [hm, hn, hmn])
    | false => exact absurd hkey (h.key_lt (hl y hy) (hl z hz) hdy hdz).ne
  | false =>
    cases hdz : isdigit z with
    | true => exact absurd hkey (h.key_lt (hl z hz) (hl y hy) hdz hdy).ne'
    | false =>
      rw [zoneKey_other hdy, zoneKey_other hdz] at hkey
      exact congrArg (fun k => (ofLex k).2) hkey

omit [Runtime] in
/-- A list of the set's elements, in any order, is a permutation of any other. -/
theorem list_perm (order order' : SetOrder String) (ids : Finset String) :
    (order.list ids).Perm (order'.list ids) := by
  refine (List.perm_ext_iff_of_nodup (order.nodup ids) (order'.nodup ids)).mpr fun z => ?_
  rw [order.mem_list, order'.mem_list]

/-- Orderable ids are sorted alike whatever order the set is iterated in. -/
theorem Orderable.sortZones_eq {ids : Finset String} (h : Orderable ids)
    (order order' : SetOrder String) :
    sortZones (order.list ids) = .ok (KeySort.sortBy zoneKey (order'.list ids)) := by
  have hsortable : ∀ z ∈ order.list ids, Sortable z := fun z hz =>
    h.sortable z ((order.mem_list ids z).mp hz)
  rw [Hass.sortZones_eq hsortable]
  refine congrArg Except.ok (KeySort.sortBy_eq_of_perm (list_perm order order' ids) ?_)
  exact h.injOn fun z hz => (order'.mem_list ids z).mp hz

/-- In the order of the keys, numeric ids come first and in numeric order. -/
theorem Orderable.numeric_of_le {ids : Finset String} (h : Orderable ids) {y z : String}
    (hy : y ∈ ids) (hz : z ∈ ids) (hkey : zoneKey y ≤ zoneKey z) (hdigits : isdigit z = true) :
    isdigit y = true ∧ ∀ m n, intOfStr y = some m → intOfStr z = some n → m ≤ n := by
  cases hother : isdigit y with
  | false => exact absurd hkey (h.key_lt hz hy hdigits hother).not_ge
  | true =>
    refine ⟨rfl, fun m n hm hn => ?_⟩
    rw [zoneKey_number hother hm, zoneKey_number hdigits hn, Prod.Lex.toLex_le_toLex] at hkey
    rcases hkey with hlt | ⟨heq, -⟩
    · exact hlt.le
    · exact heq.le

/-- Sorted alike in any order, the ids have keys, and different ids different ones. -/
theorem injOn_of_sorted {ids : Finset String} {sorted : List String}
    (h : ∀ order : SetOrder String, sortZones (order.list ids) = .ok sorted) :
    (∀ z ∈ ids, Sortable z) ∧ (∀ y ∈ ids, ∀ z ∈ ids, zoneKey y = zoneKey z → y = z) ∧
      (∀ z, z ∈ sorted ↔ z ∈ ids) ∧ sorted.Pairwise fun y z => zoneKey y ≤ zoneKey z := by
  let order := SetOrder.ascending String
  have hmem : ∀ z, z ∈ order.list ids ↔ z ∈ ids := order.mem_list ids
  obtain ⟨hsortable, hforth⟩ := sortBy_of_sortZones (h order)
  obtain ⟨-, hback⟩ := sortBy_of_sortZones (h order.reverse)
  -- a tie would come out the other way round from the reversed set
  have hinj := KeySort.injOn_of_sortBy_reverse (order.nodup ids) (hback.trans hforth.symm)
  refine ⟨fun z hz => hsortable z ((hmem z).mpr hz), ?_, fun z => ?_, ?_⟩
  · exact fun y hy z hz => @hinj y ((hmem y).mpr hy) z ((hmem z).mpr hz)
  · rw [← hforth, (KeySort.sortBy_perm zoneKey _).mem_iff, hmem]
  · rw [← hforth]
    exact KeySort.sortBy_pairwise zoneKey _

/-- **Zones are ordered as promised exactly when** `int()` reads every id of digits,
no two of them spell one number, and none reaches `10**9` in front of an id that is
not a number. -/
theorem numericFirst_iff (ids : Finset String) : NumericFirst ids ↔ Orderable ids := by
  constructor
  · intro ⟨sorted, hsort, hfirst⟩
    obtain ⟨hsortable, hinj, hmem, hpairwise⟩ := injOn_of_sorted hsort
    refine ⟨fun z hz => sortable_iff.mp (hsortable z hz), ?_, ?_⟩
    · intro y hy z hz hdy hdz heq
      refine hinj y hy z hz ?_
      unfold zoneKey
      rw [if_pos hdy, if_pos hdz, heq]
    · intro y hy z hz hdigits hother n hn
      have hne : y ≠ z := by
        rintro rfl
        rw [hdigits] at hother
        contradiction
      rcases KeySort.pair_sublist_or ((hmem y).mpr hy) ((hmem z).mpr hz) hne with hyz | hzy
      · have hkey := List.pairwise_iff_forall_sublist.mp hpairwise hyz
        rw [zoneKey_number hdigits hn, zoneKey_other hother, Prod.Lex.toLex_le_toLex] at hkey
        rcases hkey with hlt | ⟨heq, -⟩
        · exact Or.inl hlt
        · refine Or.inr ⟨heq, fun hempty => hne (hinj y hy z hz ?_)⟩
          -- at the sentinel the empty text leaves the two keys equal
          rw [zoneKey_number hdigits hn, zoneKey_other hother, hempty]
          exact congrArg (fun k => toLex (k, "")) heq
      · have hdz := (List.pairwise_iff_forall_sublist.mp hfirst hzy hdigits).1
        rw [hdz] at hother
        contradiction
  · intro h
    let order := SetOrder.ascending String
    have hmem : ∀ z, z ∈ KeySort.sortBy zoneKey (order.list ids) ↔ z ∈ ids := fun z =>
      (KeySort.sortBy_perm zoneKey _).mem_iff.trans (order.mem_list ids z)
    refine ⟨_, fun order' => h.sortZones_eq order' order, ?_⟩
    refine (KeySort.sortBy_pairwise zoneKey _).imp_of_mem fun hy hz hkey hdigits => ?_
    exact h.numeric_of_le ((hmem _).mp hy) ((hmem _).mp hz) hkey hdigits

end

/-- `"²".isdigit()`, and `int("²")` raises. -/
theorem superscript_raises : ¬ ∀ ids : Finset String, @NumericFirst latin1 ids := by
  intro h
  let _runtime := latin1
  obtain ⟨sorted, hsort, -⟩ := h {"²"}
  obtain ⟨hsortable, -⟩ := injOn_of_sorted hsort
  obtain ⟨n, hn⟩ := sortable_iff.mp (hsortable "²" (by simp)) (by decide)
  have hnone : intOfStr "²" = none := by decide
  rw [hnone] at hn
  contradiction

/-- A number written twice stays in the order it came in; one past the sentinel
comes after the text. -/
example :
    letI := latin1
    sortZones ["1", "01"] = .ok ["1", "01"] ∧ sortZones ["01", "1"] = .ok ["01", "1"] ∧
      sortZones ["2000000000", "keypad", "2"] = .ok ["2", "keypad", "2000000000"] := by
  decide +kernel

end Gc3.Hass
