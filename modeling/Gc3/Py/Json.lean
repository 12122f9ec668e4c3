import Gc3.Py.Runtime

/-!
# JSON values as Python sees them

What `json.loads` hands the models: `None`, bools, ints of any size, floats, strings,
lists, and dicts in the order of their keys. The operations are those the models chain
on such a value, each partial exactly where Python's is:

* `.get(key)` — on a dict, the value or `None`; on anything else an `AttributeError`
  that names the type (`get_obj`, `get_error`);
* truth value — total, and what `or` chooses by (`Json.or`);
* `str()` — total, with the `repr` of what is nested inside;
* `int()` — on numbers and on strings that read as one, up to the limit on digits; a
  `TypeError`, a `ValueError` or an `OverflowError` elsewhere.

A value may be nested to any depth. That `json.loads` gives up on a text nested deeper
than the interpreter's stack is said where a body is read, of the answer; once a value
is there, the operations on it are taken to return.
-/

namespace Gc3.Py

inductive Json
  | null
  | bool (b : Bool)
  | int (n : Int)
  | float (x : PyFloat)
  | str (s : String)
  | arr (items : List Json)
  | obj (fields : List (String × Json))

theorem lookup_cons_ite (k key : String) (v : Json) (d : List (String × Json)) :
    ((k, v) :: d).lookup key = if key = k then some v else d.lookup key := by
  rw [List.lookup_cons]
  by_cases h : key = k
  · rw [if_pos h, beq_iff_eq.mpr h]
  · rw [if_neg h, beq_eq_false_iff_ne.mpr h]

namespace Json

/-- `type(v).__name__` -/
def typeName : Json → String
  | null => "NoneType"
  | bool _ => "bool"
  | int _ => "int"
  | float _ => "float"
  | str _ => "str"
  | arr _ => "list"
  | obj _ => "dict"

/-- `bool(v)` -/
def truthy : Json → Bool
  | null => false
  | bool b => b
  | int n => n != 0
  | float x => x.nonzero
  | str s => s != ""
  | arr items => !items.isEmpty
  | obj fields => !fields.isEmpty

/-- `a or b` -/
def or (a b : Json) : Json := if a.truthy then a else b

/-- The value a dict holds under `key`, `None` when it holds none. -/
def field (fields : List (String × Json)) (key : String) : Json := (fields.lookup key).getD null

/-- `v.get(key)` -/
def get (v : Json) (key : String) : Except Exc Json :=
  match v with
  | obj fields => .ok (field fields key)
  | _ => .error ⟨.attributeError, "'" ++ v.typeName ++ "' object has no attribute 'get'"⟩

/-! ## `str()` and `repr()` -/

/-- `width` hexadecimal digits of `n`. -/
def hex (width n : Nat) : String :=
  let digits := (Nat.toDigits 16 n)
  String.ofList (List.replicate (width - digits.length) '0' ++ digits)

section Repr

variable [Runtime]

/-- One character inside a string literal delimited by `quote`. -/
def reprChar (quote c : Char) : String :=
  if c = quote ∨ c = '\\' then String.ofList ['\\', c]
  else if c = '\t' then "\\t"
  else if c = '\n' then "\\n"
  else if c = '\r' then "\\r"
  else if Runtime.isPrintable c then c.toString
  else if c.toNat ≤ 0xff then "\\x" ++ hex 2 c.toNat
  else if c.toNat ≤ 0xffff then "\\u" ++ hex 4 c.toNat
  else "\\U" ++ hex 8 c.toNat

/-- `repr(s)`: single quotes unless only they occur in the text. -/
def reprStr (s : String) : String :=
  let quote := if s.toList.contains '\'' && !s.toList.contains '"' then '"' else '\''
  quote.toString ++ String.join (s.toList.map (reprChar quote)) ++ quote.toString

mutual

/-- `repr(v)` -/
def repr : Json → String
  | null => "None"
  | bool b => if b then "True" else "False"
  | int n => toString n
  | float x => Runtime.floatRepr x
  | str s => reprStr s
  | arr items => "[" ++ ", ".intercalate (reprItems items) ++ "]"
  | obj fields => "\x7b" ++ ", ".intercalate (reprFields fields) ++ "\x7d"

def reprItems : List Json → List String
  | [] => []
  | v :: rest => repr v :: reprItems rest

def reprFields : List (String × Json) → List String
  | [] => []
  | (k, v) :: rest => (reprStr k ++ ": " ++ repr v) :: reprFields rest

end

/-- `str(v)` -/
def pyStr : Json → String
  | str s => s
  | v => v.repr

/-! ## `int()` -/

/-- `int(v)` -/
def pyInt : Json → Except Exc Int
  | bool b => .ok (if b then 1 else 0)
  | int n => .ok n
  | float (.finite x) => .ok x.trunc
  | float (.inf _) => .error ⟨.overflowError, "cannot convert float infinity to integer"⟩
  | float .nan => .error ⟨.valueError, "cannot convert float NaN to integer"⟩
  | str s =>
    match intOfStr s with
    | some n => .ok n
    | none => .error ⟨.valueError, "invalid literal for int() with base 10: " ++ reprStr s⟩
  | v => .error ⟨.typeError,
      "int() argument must be a string, a bytes-like object or a real number, not '"
        ++ v.typeName ++ "'"⟩

end Repr

/-- `int(v)` returns. -/
def IsInt [Runtime] (v : Json) : Prop := ∃ n, v.pyInt = .ok n

/-- The value is a dict. -/
def IsObj (v : Json) : Prop := ∃ fields, v = obj fields

/-- The value is a string. -/
def IsStr (v : Json) : Prop := ∃ s, v = str s

theorem get_obj (fields : List (String × Json)) (key : String) :
    (obj fields).get key = .ok (field fields key) := rfl

theorem field_cons (kv : String × Json) (rest : List (String × Json)) (key : String) :
    field (kv :: rest) key = if key = kv.1 then kv.2 else field rest key := by
  unfold field
  rw [lookup_cons_ite]
  split <;> rfl

/-- `.get` raises on everything but a dict, and then `AttributeError`. -/
theorem get_error {v : Json} (h : ¬ v.IsObj) (key : String) :
    ∃ text, v.get key = .error ⟨.attributeError, text⟩ := by
  cases v with
  | obj fields => exact absurd ⟨fields, rfl⟩ h
  | _ => exact ⟨_, rfl⟩

end Json

end Gc3.Py
