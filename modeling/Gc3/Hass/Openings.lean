import Gc3.Hass.OpenZones

/-!
# Descriptors that name a way into the house

A descriptor whose last word is *Door*, *Window*, *Slider* or *Gate* names an opening.
`zone_device_class` asks about the openings last, after seven groups of keywords that it
looks for anywhere in the text, inside other words too: a "Heather Bedroom Window" is a
heat detector. `namedOpening_counted_iff` says that the earlier groups are the only
thing that can stand between such a zone and the open-zone count.

The earlier groups are `claimedEarlier`, one list of substrings on the lower-cased text,
and the openings `openingClass`. `isOpeningZone_iff` reads the classification off these
two: past the transient keywords, a zone counts unless an earlier group has it.

What is left is about lower case. The descriptor is lower-cased as a whole before
anything is looked for in it, and Unicode lower-casing of a text is not that of its
words: a final sigma goes by what precedes it. Over a word of ASCII letters it is
(`lowerFrom_ascii`), which is what the four words are made of.
-/

namespace Gc3.Hass

open Gc3.Py Gc3.Pygc3

/-! ## Lower case -/

section

variable [Runtime]

/-- What comes last is lower-cased on its own, but for what precedes it. -/
theorem lowerFrom_append (before xs ys : List Char) :
    ∃ out, lowerFrom before (xs ++ ys) = out ++ lowerFrom (xs.reverse ++ before) ys := by
  induction xs generalizing before with
  | nil => exact ⟨[], rfl⟩
  | cons x xs ih =>
    obtain ⟨out, hout⟩ := ih (x :: before)
    rw [List.cons_append, lowerFrom, hout, List.reverse_cons, List.append_assoc]
    exact ⟨_, (List.append_assoc _ _ _).symm⟩

omit [Runtime] in
/-- Only ASCII letters have an ASCII letter for their ASCII lower case. -/
theorem ascii_of_toLower {c : Char} (h : c.toLower.toNat < 128) : c.toNat < 128 := by
  unfold Char.toLower at h
  split at h
  next hupper =>
    have hle : c.val ≤ 90 := by
      simp only [ge_iff_le] at hupper
      exact hupper.2
    have hnat : c.val.toNat ≤ 90 := hle
    show c.val.toNat < 128
    omega
  next => exact h

/-- A word of ASCII letters is lower-cased letter by letter, wherever it stands. -/
theorem lowerFrom_ascii {word : List Char} (h : ∀ c ∈ word, c.toLower.toNat < 128)
    (before after : List Char) :
    ∃ out, lowerFrom before (word ++ after) = word.map Char.toLower ++ out := by
  induction word generalizing before with
  | nil => exact ⟨_, rfl⟩
  | cons c word ih =>
    obtain ⟨out, hout⟩ := ih (fun d hd => h d (List.mem_cons_of_mem c hd)) (c :: before)
    have hascii := ascii_of_toLower (h c (List.mem_cons_self ..))
    have hsigma : c ≠ 'Σ' := by
      intro heq
      rw [heq] at hascii
      exact absurd hascii (by decide)
    refine ⟨out, ?_⟩
    rw [List.cons_append, lowerFrom, hout, if_neg hsigma, Runtime.lowerMap_ascii c hascii]
    rfl

/-! ## Named as an opening, and classed as something else -/

/-- The last words that name a way into the house. -/
def OPENING_WORDS : List String := ["door", "window", "slider", "gate"]

/-- `word` is the last word of the descriptor; words are set apart by white space. -/
def LastWord (name word : String) : Prop :=
  ∃ before after : List Char, name.toList = before ++ (word.toList ++ after) ∧
    (∀ c, before.getLast? = some c → Runtime.isSpace c = true) ∧
    ∀ c ∈ after, Runtime.isSpace c = true

/-- The last word is one of these, in any letter case. -/
def NamedOpening (name : String) : Prop :=
  ∃ word kind, kind ∈ OPENING_WORDS ∧ word.toList.map Char.toLower = kind.toList ∧
    LastWord name word

omit [Runtime] in
/-- The tests of `zone_device_class` between the transient keywords and the openings. -/
def claimedEarlier (n : String) : Bool :=
  anyIn ["motion", "pir", "occup"] n || anyIn ["flood", "leak", "water", "moisture", "sump"] n ||
    inStr "glass" n || (inStr "smoke" n || inStr "fire" n) ||
    (inStr "co " n || endswith n " co" || inStr "carbon" n) ||
    (inStr "freeze" n || inStr "cold" n) || inStr "heat" n

omit [Runtime] in
/-- The tests of `zone_device_class` from the openings on. -/
def openingClass (n : String) : Option BinarySensorDeviceClass :=
  if inStr "overhead" n || inStr "garage door" n then some .garageDoor
  else if inStr "window" n then some .window
  else if anyIn ["door", "slider", "gate"] n then some .door
  else some .opening

omit [Runtime] in
theorem isOpeningClass_openingClass (n : String) : isOpeningClass (openingClass n) = true := by
  unfold openingClass
  split
  · rfl
  · split
    · rfl
    · split <;> rfl

omit [Runtime] in
/-- A test that gives a class other than an opening must fail. -/
theorem isOpeningClass_ite {test : Bool} {cls rest : Option BinarySensorDeviceClass}
    (h : isOpeningClass cls = false) :
    isOpeningClass (if test then cls else rest) = true ↔
      test = false ∧ isOpeningClass rest = true := by
  cases test with
  | true => simp [h]
  | false => simp

/-- Past the transient keywords, a zone is an opening unless an earlier test claims it. -/
theorem isOpeningZone_iff {name : String} (h : isTransientZone name = false) :
    isOpeningZone name = true ↔ claimedEarlier (lower name) = false := by
  have hrest := isOpeningClass_openingClass (lower name)
  unfold openingClass at hrest
  unfold isTransientZone at h
  unfold isOpeningZone zoneDeviceClass claimedEarlier
  dsimp only
  -- one step for each group of keywords, in the order of the code
  rw [h, isOpeningClass_ite rfl, isOpeningClass_ite rfl, isOpeningClass_ite rfl,
    isOpeningClass_ite rfl, isOpeningClass_ite rfl, isOpeningClass_ite rfl, isOpeningClass_ite rfl,
    isOpeningClass_ite rfl, hrest]
  simp only [Bool.or_eq_false_iff, and_true, true_and, and_assoc]

/-- What no earlier test claims is left to the openings. -/
theorem zoneDeviceClass_of_unclaimed {name : String} (h : isTransientZone name = false)
    (hclaimed : claimedEarlier (lower name) = false) :
    zoneDeviceClass name = openingClass (lower name) := by
  unfold isTransientZone at h
  unfold claimedEarlier at hclaimed
  simp only [Bool.or_eq_false_iff] at hclaimed
  unfold zoneDeviceClass openingClass
  simp only [h, hclaimed, Bool.or_self, Bool.false_eq_true, if_false]

omit [Runtime] in
/-- Among the openings, a word that names one settles which. -/
theorem openingClass_of_word {kind n : String} (hkind : kind ∈ OPENING_WORDS)
    (h : inStr kind n = true) :
    openingClass n ∈ [some .garageDoor, some .window, some .door] := by
  unfold openingClass
  split
  · simp
  · split
    · simp
    next hwindow =>
      have hdoor : anyIn ["door", "slider", "gate"] n = true := by
        refine List.any_eq_true.mpr ⟨kind, ?_, h⟩
        have hne : kind ≠ "window" := fun heq => hwindow (heq ▸ h)
        simp only [OPENING_WORDS, List.mem_cons, List.not_mem_nil, or_false] at hkind ⊢
        tauto
      rw [if_pos hdoor]
      simp

/-! ## The count -/

/-- The zone is an opening; its name is listed once for each open zone that bears
it, and the count is the number of names listed. -/
def CountedWhenOpen (name : String) : Prop :=
  isOpeningZone name = true ∧ ∀ d : GC3Data String,
    (openZones (some d)).count name =
      (d.zones.filter fun zone => zone.status.isOpen && zone.name == name).length ∧
    nativeValue (some d) = some (openZones (some d)).length

/-- A zone is counted, when open, if its name is that of an opening. -/
theorem countedWhenOpen_iff (name : String) :
    CountedWhenOpen name ↔ isOpeningZone name = true := by
  refine ⟨fun h => h.1, fun h => ⟨h, fun d => ⟨?_, rfl⟩⟩⟩
  show ((d.zones.filter fun zone => zone.status.isOpen && isOpeningZone zone.name).map
    (·.name)).count name = _
  rw [List.count, List.countP_map, List.countP_filter, List.countP_eq_length_filter]
  refine congrArg List.length (List.filter_congr fun zone _ => ?_)
  by_cases hname : zone.name = name
  · simp [hname, h]
  · show (zone.name == name && (zone.status.isOpen && isOpeningZone zone.name)) = _
    rw [beq_eq_false_iff_ne.mpr hname, Bool.false_and, Bool.and_false]

/-- The lower-cased descriptor of a named opening has the word that names it. -/
theorem inStr_of_named {name : String} (h : NamedOpening name) :
    ∃ kind ∈ OPENING_WORDS, inStr kind (lower name) = true := by
  obtain ⟨word, kind, hkind, hword, before, after, hname, -, -⟩ := h
  refine ⟨kind, hkind, ?_⟩
  have hascii : ∀ c ∈ word.toList, c.toLower.toNat < 128 := by
    have hkinds : ∀ kind ∈ OPENING_WORDS, (kind.toList.all fun c => c.toNat < 128) = true := by
      decide
    intro c hc
    refine of_decide_eq_true (List.all_eq_true.mp (hkinds kind hkind) c.toLower ?_)
    rw [← hword]
    exact List.mem_map_of_mem hc
  obtain ⟨out, hout⟩ := lowerFrom_append [] before (word.toList ++ after)
  obtain ⟨rest, hrest⟩ := lowerFrom_ascii hascii (before.reverse ++ []) after
  refine decide_eq_true ⟨out, rest, ?_⟩
  unfold lower
  rw [String.toList_ofList, hname, hout, hrest, hword, List.append_assoc]

/-- **Named as an opening, counted as one — exactly when.** For every descriptor
without a transient keyword whose last word is *door*, *window*, *slider* or *gate*
in any letter case: its zone is counted whenever it is open if and only if no
earlier test of `zone_device_class` claims the descriptor; and then its class is a
door's, a window's or a garage door's. -/
theorem namedOpening_counted_iff {name : String} (hname : NamedOpening name)
    (htransient : isTransientZone name = false) :
    (CountedWhenOpen name ↔ claimedEarlier (lower name) = false) ∧
      (claimedEarlier (lower name) = false →
        zoneDeviceClass name ∈ [some .garageDoor, some .window, some .door]) := by
  refine ⟨(countedWhenOpen_iff name).trans (isOpeningZone_iff htransient), fun hclaimed => ?_⟩
  obtain ⟨kind, hkind, hin⟩ := inStr_of_named hname
  rw [zoneDeviceClass_of_unclaimed htransient hclaimed]
  exact openingClass_of_word hkind hin

end

/-- A patio slider, open, is counted. -/
theorem patioSlider_counted : @CountedWhenOpen latin1 "Patio Slider" := by
  have hspace : ∀ c, "Patio ".toList.getLast? = some c → latin1.isSpace c = true := by
    intro c hc
    have hlast : "Patio ".toList.getLast? = some ' ' := by decide
    obtain rfl := Option.some.inj (hlast.symm.trans hc)
    decide
  have hnamed : @NamedOpening latin1 "Patio Slider" :=
    ⟨"Slider", "slider", by decide, by decide, "Patio ".toList, [], by decide, hspace, by simp⟩
  exact (@namedOpening_counted_iff latin1 "Patio Slider" hnamed (by decide +kernel)).1.mpr
    (by decide +kernel)

/-- Heather's window is taken for a heat detector. -/
theorem heatherWindow_missed :
    ¬ ∀ name, @NamedOpening latin1 name → @isTransientZone latin1 name = false →
      @CountedWhenOpen latin1 name := by
  intro h
  have hspace : ∀ c, "Heather Bedroom ".toList.getLast? = some c → latin1.isSpace c = true := by
    intro c hc
    have hlast : "Heather Bedroom ".toList.getLast? = some ' ' := by decide
    obtain rfl := Option.some.inj (hlast.symm.trans hc)
    decide
  have hnamed : @NamedOpening latin1 "Heather Bedroom Window" :=
    ⟨"Window", "window", by decide, by decide, "Heather Bedroom ".toList, [], by decide, hspace,
      by simp⟩
  have hcounted := (h _ hnamed (by decide +kernel)).1
  have hheat : @isOpeningZone latin1 "Heather Bedroom Window" = false := by decide +kernel
  rw [hheat] at hcounted
  exact absurd hcounted (by decide)

end Gc3.Hass
