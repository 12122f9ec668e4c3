import Mathlib.Data.List.Forall2
import Mathlib.Data.Option.Basic

/-!
# Lists related element by element

What `List.Forall₂` says of single elements. Two lists are related element by element
when one is read off the other, by a parser or by another machine in step with the
first, and a result about the whole is then wanted of the whole: that one exists, that
all have an image, that two images are equal.

Each element has its partner on the other side (`exists_left`), and what holds of
partners carries over from one list to the other: to an existential (`exists_mem_iff`),
to images (`map_eq`), to what a filter keeps (`filter`) and to the last element
(`getLast?`). Where the condition is known only of members of the two lists, `mem_both`
puts the membership into the relation. In the other direction a relation that gives
every element a partner gives a whole list of them (`forall_mem_exists_iff`), which
turns "every element can be parsed" into "the list can be parsed". The same follows for
`Option.Rel`, where there is one element or none.
-/

namespace Pointwise

variable {α β γ δ : Type*} {R : α → β → Prop} {as : List α} {bs : List β}

/-- Partners are members of their lists. -/
theorem mem_both (h : List.Forall₂ R as bs) :
    List.Forall₂ (fun a b => a ∈ as ∧ b ∈ bs ∧ R a b) as bs := by
  induction h with
  | nil => exact .nil
  | cons hab _ ih =>
    refine .cons ⟨List.mem_cons_self .., List.mem_cons_self .., hab⟩ (ih.imp ?_)
    intro a b ⟨ha, hb, hR⟩
    exact ⟨List.mem_cons_of_mem _ ha, List.mem_cons_of_mem _ hb, hR⟩

/-- The partner of an element on the right. -/
theorem exists_left (h : List.Forall₂ R as bs) {b : β} (hb : b ∈ bs) : ∃ a ∈ as, R a b := by
  induction h with
  | nil => exact absurd hb List.not_mem_nil
  | cons hab _ ih =>
    rcases List.mem_cons.mp hb with rfl | hb
    · exact ⟨_, List.mem_cons_self .., hab⟩
    · obtain ⟨a, ha, hR⟩ := ih hb
      exact ⟨a, List.mem_cons_of_mem _ ha, hR⟩

/-- What partners have alike one list has exactly when the other does. -/
theorem exists_mem_iff {P : β → Prop} {Q : α → Prop} (h : List.Forall₂ R as bs)
    (hiff : ∀ a, ∀ b ∈ bs, R a b → (P b ↔ Q a)) : (∃ b ∈ bs, P b) ↔ ∃ a ∈ as, Q a := by
  constructor
  · intro ⟨b, hb, hP⟩
    obtain ⟨a, ha, hR⟩ := exists_left h hb
    exact ⟨a, ha, (hiff a b hb hR).mp hP⟩
  · intro ⟨a, ha, hQ⟩
    have hflip : List.Forall₂ (fun b a => R a b) bs as := List.Forall₂.flip h
    obtain ⟨b, hb, hR⟩ := exists_left hflip ha
    exact ⟨b, hb, (hiff a b hb hR).mpr hQ⟩

/-- Lists whose partners have equal images have equal images. -/
theorem map_eq {f : α → γ} {g : β → γ} (h : List.Forall₂ R as bs)
    (hfg : ∀ a ∈ as, ∀ b ∈ bs, R a b → f a = g b) : as.map f = bs.map g := by
  rw [← List.forall₂_eq_eq_eq, List.forall₂_map_left_iff, List.forall₂_map_right_iff]
  exact (mem_both h).imp fun a b ⟨ha, hb, hR⟩ => hfg a ha b hb hR

/-- Filters that agree on partners keep the same partners. -/
theorem filter {p : α → Bool} {q : β → Bool} (h : List.Forall₂ R as bs)
    (hpq : ∀ a ∈ as, ∀ b ∈ bs, R a b → p a = q b) :
    List.Forall₂ R (as.filter p) (bs.filter q) := by
  induction h with
  | nil => exact .nil
  | cons hab _ ih =>
    have hhead := hpq _ (List.mem_cons_self ..) _ (List.mem_cons_self ..) hab
    have htail := ih fun a ha b hb =>
      hpq a (List.mem_cons_of_mem _ ha) b (List.mem_cons_of_mem _ hb)
    rw [List.filter_cons, List.filter_cons, hhead]
    split
    · exact .cons hab htail
    · exact htail

/-- The last elements are partners. -/
theorem getLast? (h : List.Forall₂ R as bs) : Option.Rel R as.getLast? bs.getLast? := by
  induction h with
  | nil => exact .none
  | @cons a b as bs hab _ ih =>
    rw [List.getLast?_cons, List.getLast?_cons]
    generalize as.getLast? = last at ih ⊢
    generalize bs.getLast? = last' at ih ⊢
    cases ih with
    | none => exact .some hab
    | some hlast => exact .some hlast

/-- Choosing an image for every element of a list is choosing a list of images. -/
theorem forall_mem_exists_iff (R : α → β → Prop) (P : β → Prop) (as : List α) :
    (∀ a ∈ as, ∃ b, R a b ∧ P b) ↔ ∃ bs, List.Forall₂ R as bs ∧ ∀ b ∈ bs, P b := by
  induction as with
  | nil => simp
  | cons a as ih =>
    rw [List.forall_mem_cons, ih]
    constructor
    · intro ⟨⟨b, hab, hb⟩, bs, hbs, hP⟩
      exact ⟨b :: bs, .cons hab hbs, List.forall_mem_cons.mpr ⟨hb, hP⟩⟩
    · intro ⟨bs, hbs, hP⟩
      cases hbs with
      | cons hab hbs =>
        obtain ⟨hb, hP⟩ := List.forall_mem_cons.mp hP
        exact ⟨⟨_, hab, hb⟩, _, hbs, hP⟩

/-! ## Options -/

variable {x x' : Option α} {y y' : Option β}

/-- One of the two is there when the other is. -/
theorem isSome_eq (h : Option.Rel R x y) : x.isSome = y.isSome := by
  cases h with
  | none => rfl
  | some _ => rfl

/-- The first of two that is there has its partner. -/
theorem or (h : Option.Rel R x y) (h' : Option.Rel R x' y') : Option.Rel R (x.or x') (y.or y') := by
  cases h with
  | none => exact h'
  | some hab => exact .some hab

/-- Partners with equal images. -/
theorem option_map_eq {f : α → γ} {g : β → γ} (h : Option.Rel R x y)
    (hfg : ∀ a b, R a b → f a = g b) : x.map f = y.map g := by
  cases h with
  | none => rfl
  | some hab => exact congrArg some (hfg _ _ hab)

/-- One step after another, each of which may come to nothing. -/
theorem option_bind {S : γ → δ → Prop} {f : α → Option γ} {g : β → Option δ}
    (h : Option.Rel R x y) (hfg : ∀ a b, R a b → Option.Rel S (f a) (g b)) :
    Option.Rel S (x.bind f) (y.bind g) := by
  cases h with
  | none => exact .none
  | some hab => exact hfg _ _ hab

end Pointwise
