import Mathlib.Data.List.Infix
import Mathlib.Data.List.Count

/-!
# Consecutive-failure counters

A monitored thing is sampled over and over; a sample is `bad`, `good`, or `missing` when
the thing was not there to be sampled. Two counters read the history, latest sample
first:

* `streak` — how many of the latest samples are `bad` without interruption;
* `tally` — how many `bad` samples there were since the last `good` one, with the
  missing samples passed over.

A watchdog that means the first and keeps the second is right except when a gap falls
inside a bad spell. `tally_alarm_iff_streak` says exactly when the two agree on a
threshold all through a history: when it has no `SplitStreak`, no stretch of bad samples
that reaches the threshold only together with what came before a gap.

One direction exhibits the history at which the two differ, the prefix that ends in the
split streak. The other reads the split off a prefix at which they differ: the history
falls apart at its latest sample that is not bad (`eq_replicate_streak`), and a tally
above the streak means that this is a gap with bad samples behind it
(`exists_count_eq_tally`).
-/

namespace Streak

/-- One reading of the monitored thing. -/
inductive Sample
  | bad
  | good
  | missing
  deriving DecidableEq, Repr

open Sample

/-- Uninterrupted bad samples at the latest end of the history. -/
def streak : List Sample → Nat
  | bad :: ms => streak ms + 1
  | _ => 0

/-- Bad samples since the last good one, gaps passed over. -/
def tally : List Sample → Nat
  | bad :: ms => tally ms + 1
  | missing :: ms => tally ms
  | _ => 0

@[simp] theorem streak_nil : streak [] = 0 := rfl
@[simp] theorem streak_bad (ms : List Sample) : streak (bad :: ms) = streak ms + 1 := rfl
@[simp] theorem streak_good (ms : List Sample) : streak (good :: ms) = 0 := rfl
@[simp] theorem streak_missing (ms : List Sample) : streak (missing :: ms) = 0 := rfl
@[simp] theorem tally_nil : tally [] = 0 := rfl
@[simp] theorem tally_bad (ms : List Sample) : tally (bad :: ms) = tally ms + 1 := rfl
@[simp] theorem tally_good (ms : List Sample) : tally (good :: ms) = 0 := rfl
@[simp] theorem tally_missing (ms : List Sample) : tally (missing :: ms) = tally ms := rfl

/-- What is bad without interruption has been bad since the last good sample. -/
theorem streak_le_tally (ms : List Sample) : streak ms ≤ tally ms := by
  induction ms with
  | nil => simp
  | cons m ms ih => cases m <;> simp [ih]

/-- A streak of `n` is: at least `n` samples, the latest `n` of them all bad. -/
theorem le_streak_iff {n : Nat} {ms : List Sample} :
    n ≤ streak ms ↔ n ≤ ms.length ∧ ∀ m ∈ ms.take n, m = bad := by
  induction ms generalizing n with
  | nil => cases n <;> simp
  | cons m ms ih =>
    cases n with
    | zero => simp
    | succ n =>
      cases m with
      | bad => simp [ih]
      | good => simp
      | missing => simp

/-- Bad samples on end lengthen the streak by their number. -/
theorem streak_replicate_append (k : Nat) (ms : List Sample) :
    streak (List.replicate k bad ++ ms) = k + streak ms := by
  induction k with
  | zero => simp
  | succ k ih =>
    rw [List.replicate_succ, List.cons_append, streak_bad, ih]
    omega

/-- And the tally too. -/
theorem tally_replicate_append (k : Nat) (ms : List Sample) :
    tally (List.replicate k bad ++ ms) = k + tally ms := by
  induction k with
  | zero => simp
  | succ k ih =>
    rw [List.replicate_succ, List.cons_append, tally_bad, ih]
    omega

/-- The history splits at its latest non-bad sample. -/
theorem eq_replicate_streak (ms : List Sample) :
    ∃ rest, ms = List.replicate (streak ms) bad ++ rest ∧ rest.head? ≠ some bad := by
  induction ms with
  | nil => exact ⟨[], rfl, by simp⟩
  | cons m ms ih =>
    cases m with
    | bad =>
      obtain ⟨rest, hms, hrest⟩ := ih
      refine ⟨rest, ?_, hrest⟩
      rw [streak_bad, List.replicate_succ, List.cons_append, ← hms]
    | good => exact ⟨good :: ms, rfl, by simp⟩
    | missing => exact ⟨missing :: ms, rfl, by simp⟩

/-- Older samples never lower the tally of what came after them. -/
theorem count_le_tally {newer : List Sample} (h : good ∉ newer) (older : List Sample) :
    newer.count bad ≤ tally (newer ++ older) := by
  induction newer with
  | nil => simp
  | cons m ms ih =>
    have hms : good ∉ ms := fun hm => h (List.mem_cons_of_mem _ hm)
    cases m with
    | bad => simpa using ih hms
    | good => exact absurd (List.mem_cons_self ..) h
    | missing => simpa using ih hms

/-- The tally counts the bad samples of the good-free end of the history. -/
theorem exists_count_eq_tally (ms : List Sample) :
    ∃ newer older, ms = newer ++ older ∧ good ∉ newer ∧ newer.count bad = tally ms := by
  induction ms with
  | nil => exact ⟨[], [], rfl, by simp, by simp⟩
  | cons m ms ih =>
    obtain ⟨newer, older, hms, hgood, hcount⟩ := ih
    cases m with
    | bad => exact ⟨bad :: newer, older, by simp [hms], by simp [hgood], by simp [hcount]⟩
    | good => exact ⟨[], good :: ms, rfl, by simp, by simp⟩
    | missing => exact ⟨missing :: newer, older, by simp [hms], by simp [hgood], by simp [hcount]⟩

/-- A bad spell of `n` or more samples with a gap close to its end: somewhere in
the history (oldest first) a stretch without good samples, then a gap, then at
least one but fewer than `n` bad samples, with `n` bad ones in all. -/
def SplitStreak (n : Nat) (history : List Sample) : Prop :=
  ∃ before k, before ++ missing :: List.replicate k bad <:+: history ∧ good ∉ before ∧
    0 < k ∧ k < n ∧ n ≤ before.count bad + k

/-- A history ends in a split streak exactly when the tally has reached a
threshold, on a bad sample, that the streak has not. -/
theorem exists_split_iff {n : Nat} {ms : List Sample} :
    (∃ before k older, ms = List.replicate k bad ++ missing :: (before ++ older) ∧
        good ∉ before ∧ 0 < k ∧ k < n ∧ n ≤ before.count bad + k) ↔
      ms.head? = some bad ∧ streak ms < n ∧ n ≤ tally ms := by
  constructor
  · rintro ⟨before, k, older, rfl, hgood, hk0, hkn, hn⟩
    refine ⟨?_, ?_, ?_⟩
    · cases k with
      | zero => omega
      | succ k => simp [List.replicate_succ]
    · rw [streak_replicate_append]
      simpa using hkn
    · rw [tally_replicate_append, tally_missing]
      have := count_le_tally hgood older
      omega
  · rintro ⟨hhead, hlt, hle⟩
    obtain ⟨rest, hms, hrest⟩ := eq_replicate_streak ms
    have hpos : 0 < streak ms := by
      cases ms with
      | nil => simp at hhead
      | cons m ms =>
        obtain rfl : m = bad := by simpa using hhead
        simp
    have htally : tally ms = streak ms + tally rest := by
      conv_lhs => rw [hms]
      exact tally_replicate_append _ _
    cases rest with
    | nil => simp at htally; omega
    | cons m rest =>
      cases m with
      | bad => exact absurd rfl hrest
      | good => simp at htally; omega
      | missing =>
        obtain ⟨before, older, hrest', hgood, hcount⟩ := exists_count_eq_tally rest
        refine ⟨before, streak ms, older, ?_, hgood, hpos, hlt, ?_⟩
        · rw [← hrest']
          exact hms
        · rw [tally_missing] at htally
          omega

/-- **The two counters agree on the threshold `n` at the end of every prefix of
the history exactly when the history has no split streak.** The histories are
oldest first here, so the counters read them reversed. -/
theorem tally_alarm_iff_streak {n : Nat} (hn : 0 < n) (history : List Sample) :
    (∀ pre, pre <+: history →
        (pre.reverse.head? = some bad ∧ n ≤ tally pre.reverse ↔ n ≤ streak pre.reverse)) ↔
      ¬ SplitStreak n history := by
  have hbad : ∀ ms, n ≤ streak ms → ms.head? = some bad ∧ n ≤ tally ms := by
    intro ms h
    refine ⟨?_, h.trans (streak_le_tally ms)⟩
    cases ms with
    | nil => simp at h; omega
    | cons m ms => cases m <;> simp at h ⊢ <;> omega
  constructor
  · rintro h ⟨before, k, ⟨older, newer, hinfix⟩, hgood, hk0, hkn, hle⟩
    have hpre : older ++ (before ++ missing :: List.replicate k bad) <+: history :=
      ⟨newer, by rw [← hinfix]⟩
    have hsplit := exists_split_iff.mp ⟨before.reverse, k, older.reverse,
      (by simp : (older ++ (before ++ missing :: List.replicate k bad)).reverse = _),
      by simpa using hgood, hk0, hkn, by simpa using hle⟩
    have := (h _ hpre).mp ⟨hsplit.1, hsplit.2.2⟩
    omega
  · intro h pre hpre
    refine ⟨fun ⟨hhead, htally⟩ => ?_, hbad _⟩
    by_contra hlt
    obtain ⟨before, k, older, hrev, hgood, hk0, hkn, hle⟩ :=
      exists_split_iff.mpr ⟨hhead, Nat.lt_of_not_le hlt, htally⟩
    refine h ⟨before.reverse, k, ?_, by simpa using hgood, hk0, hkn, by simpa using hle⟩
    have hpre' : pre = older.reverse ++ (before.reverse ++ missing :: List.replicate k bad) := by
      rw [← List.reverse_reverse pre, hrev]
      simp
    obtain ⟨newer, rfl⟩ := hpre
    exact ⟨older.reverse, newer, by rw [hpre']⟩

end Streak
