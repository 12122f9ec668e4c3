import Gc3.Py.Json

/-!
# `async_redact_data`

Home Assistant's redaction of a nested value, as far as it is documented: whatever is
stored under a listed key becomes one marker, at any depth, unless it is `None` or an
empty string; everything else is copied. A `Redaction` is a function that does so, and
`homeAssistant` is one, by structural recursion through lists and dicts at once.

`Agree` is what a redaction cannot tell apart: two values of one shape that differ under
listed keys only, in values that are not blank. It is an inductive relation over the
three sorts of node, so that the induction of `Agree.redact_eq` has a case for each, and
the same cases serve for what else is asked of agreeing values: that they are blank
together, that they have one truth value, and that what they hold under an unlisted key
agrees again (`Agree.field`), which is how a parser sees no difference between them.
-/

namespace Gc3.Hass

open Gc3.Py

/-! ## Redaction -/

/-- `None` and the empty string, which stay as they are under any key. -/
def isBlank : Json → Bool
  | .null => true
  | .str s => s == ""
  | _ => false

/-- A redaction of nested values, with its marker. -/
structure Redaction where
  redacted : Json
  asyncRedactData : Json → List String → Json
  atom : ∀ v keys, ¬ v.IsObj → (∀ items, v ≠ .arr items) → asyncRedactData v keys = v
  list : ∀ items keys,
    asyncRedactData (.arr items) keys = .arr (items.map (asyncRedactData · keys))
  dict : ∀ fields keys,
    asyncRedactData (.obj fields) keys = .obj (fields.map fun kv =>
      (kv.1, if kv.1 ∈ keys ∧ isBlank kv.2 = false then redacted else asyncRedactData kv.2 keys))

mutual

/-- The redaction written out, with the marker Home Assistant uses. -/
def redactValue (keys : List String) : Json → Json
  | .arr items => .arr (redactItems keys items)
  | .obj fields => .obj (redactFields keys fields)
  | v => v

def redactItems (keys : List String) : List Json → List Json
  | [] => []
  | v :: rest => redactValue keys v :: redactItems keys rest

def redactFields (keys : List String) : List (String × Json) → List (String × Json)
  | [] => []
  | (key, v) :: rest =>
    (key, if key ∈ keys ∧ isBlank v = false then .str "**REDACTED**" else redactValue keys v)
      :: redactFields keys rest

end

theorem redactItems_eq (keys : List String) (items : List Json) :
    redactItems keys items = items.map (redactValue keys) := by
  induction items with
  | nil => rfl
  | cons v rest ih => rw [redactItems, ih, List.map_cons]

/-- A field is marked if its key is listed and its value not blank, and else goes on
inwards. -/
theorem redactFields_eq (keys : List String) (fields : List (String × Json)) :
    redactFields keys fields = fields.map fun kv =>
      (kv.1, if kv.1 ∈ keys ∧ isBlank kv.2 = false then .str "**REDACTED**"
        else redactValue keys kv.2) := by
  induction fields with
  | nil => rfl
  | cons kv rest ih =>
    obtain ⟨key, v⟩ := kv
    rw [redactFields, ih, List.map_cons]

/-- The redaction of Home Assistant. -/
def homeAssistant : Redaction where
  redacted := .str "**REDACTED**"
  asyncRedactData v keys := redactValue keys v
  atom := by
    intro v keys hobj harr
    cases v with
    | arr items => exact absurd rfl (harr items)
    | obj fields => exact absurd ⟨fields, rfl⟩ hobj
    | _ => rfl
  list := by
    intro items keys
    rw [redactValue, redactItems_eq]
  dict := by
    intro fields keys
    rw [redactValue, redactFields_eq]

/-! ## Values that agree but for what is redacted -/

mutual

/-- Two values agree but for what they hold under `keys`. -/
inductive Agree (keys : List String) : Json → Json → Prop
  | refl (v : Json) : Agree keys v v
  | list {xs ys : List Json} : AgreeItems keys xs ys → Agree keys (.arr xs) (.arr ys)
  | dict {xs ys : List (String × Json)} : AgreeFields keys xs ys → Agree keys (.obj xs) (.obj ys)

inductive AgreeItems (keys : List String) : List Json → List Json → Prop
  | nil : AgreeItems keys [] []
  | cons {x y : Json} {xs ys : List Json} :
    Agree keys x y → AgreeItems keys xs ys → AgreeItems keys (x :: xs) (y :: ys)

/-- Fields with one key: agreeing values, or under a listed key any that are not blank. -/
inductive AgreeFields (keys : List String) : List (String × Json) → List (String × Json) → Prop
  | nil : AgreeFields keys [] []
  | secret {key : String} {x y : Json} {xs ys : List (String × Json)} : key ∈ keys →
    isBlank x = false → isBlank y = false → AgreeFields keys xs ys →
    AgreeFields keys ((key, x) :: xs) ((key, y) :: ys)
  | cons {key : String} {x y : Json} {xs ys : List (String × Json)} :
    Agree keys x y → AgreeFields keys xs ys → AgreeFields keys ((key, x) :: xs) ((key, y) :: ys)

end

theorem AgreeItems.isEmpty_eq {keys : List String} {xs ys : List Json}
    (h : AgreeItems keys xs ys) : xs.isEmpty = ys.isEmpty := by
  cases h <;> rfl

theorem AgreeFields.isEmpty_eq {keys : List String} {xs ys : List (String × Json)}
    (h : AgreeFields keys xs ys) : xs.isEmpty = ys.isEmpty := by
  cases h <;> rfl

/-- Agreeing values are blank together. -/
theorem Agree.isBlank_eq {keys : List String} {x y : Json} (h : Agree keys x y) :
    isBlank x = isBlank y := by
  cases h <;> rfl

/-- What two dicts that agree hold under a key that is not listed agrees. -/
theorem AgreeFields.field {keys : List String} {key : String} (hkey : key ∉ keys)
    {xs ys : List (String × Json)} :
    AgreeFields keys xs ys → Agree keys (Json.field xs key) (Json.field ys key)
  | .nil => .refl _
  | .secret hmem _ _ hrest => by
    have hne : key ≠ _ := fun heq => hkey (heq ▸ hmem)
    rw [Json.field_cons, Json.field_cons, if_neg hne, if_neg hne]
    exact hrest.field hkey
  | .cons hxy hrest => by
    rw [Json.field_cons, Json.field_cons]
    dsimp only
    split
    · exact hxy
    · exact hrest.field hkey

/-- What two agreeing objects hold under a key that is not listed agrees, or is missing
in both. -/
theorem Agree.field {keys : List String} {key : String} (hkey : key ∉ keys)
    {xs ys : List (String × Json)} (h : Agree keys (.obj xs) (.obj ys)) :
    Agree keys (Json.field xs key) (Json.field ys key) := by
  cases h with
  | refl => exact .refl _
  | dict h => exact h.field hkey

/-- Agreeing values have one truth value. -/
theorem Agree.truthy_eq {keys : List String} {x y : Json} (h : Agree keys x y) :
    x.truthy = y.truthy := by
  cases h with
  | refl => rfl
  | list h => exact congrArg (! ·) h.isEmpty_eq
  | dict h => exact congrArg (! ·) h.isEmpty_eq

theorem Agree.or {keys : List String} {x y : Json} (h : Agree keys x y) (z : Json) :
    Agree keys (x.or z) (y.or z) := by
  unfold Json.or
  rw [h.truthy_eq]
  split
  · exact h
  · exact .refl z

mutual

/-- **A redaction does not tell apart** values that agree but for what it redacts. -/
theorem Agree.redact_eq (r : Redaction) {keys : List String} {x y : Json} :
    Agree keys x y → r.asyncRedactData x keys = r.asyncRedactData y keys
  | .refl _ => rfl
  | .list h => by rw [r.list, r.list, h.redact_eq r]
  | .dict h => by rw [r.dict, r.dict, h.redact_eq r]

theorem AgreeItems.redact_eq (r : Redaction) {keys : List String} {xs ys : List Json} :
    AgreeItems keys xs ys → xs.map (r.asyncRedactData · keys) = ys.map (r.asyncRedactData · keys)
  | .nil => rfl
  | .cons hxy hrest => by
    rw [List.map_cons, List.map_cons, hxy.redact_eq r, hrest.redact_eq r]

theorem AgreeFields.redact_eq (r : Redaction) {keys : List String} {xs ys : List (String × Json)} :
    AgreeFields keys xs ys →
      xs.map (fun kv => (kv.1, if kv.1 ∈ keys ∧ isBlank kv.2 = false then r.redacted
        else r.asyncRedactData kv.2 keys)) =
      ys.map (fun kv => (kv.1, if kv.1 ∈ keys ∧ isBlank kv.2 = false then r.redacted
        else r.asyncRedactData kv.2 keys))
  | .nil => rfl
  | .secret hkey hx hy hrest => by
    rw [List.map_cons, List.map_cons, if_pos ⟨hkey, hx⟩, if_pos ⟨hkey, hy⟩, hrest.redact_eq r]
  | .cons hxy hrest => by
    rw [List.map_cons, List.map_cons, hxy.isBlank_eq, hxy.redact_eq r, hrest.redact_eq r]

end

end Gc3.Hass
