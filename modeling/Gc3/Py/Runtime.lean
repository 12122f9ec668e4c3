import Mathlib.Data.List.DropRight
import Mathlib.Data.List.Infix
import Mathlib.Data.Finset.Basic
import Mathlib.Data.List.Sort
import Mathlib.Data.String.Basic

/-!
# The parts of Python the program leans on

String methods, `int()` on text, exceptions and set iteration, as far as the client
library, the integration and the tools use them. Two things differ between the
interpreters the package admits and are therefore parameters:

* the Unicode character database and the float formatter (`Runtime`): the string methods
  below are Python's algorithms over whatever tables the interpreter ships, pinned on
  ASCII by the laws in the structure;
* the order in which a set is iterated (`SetOrder`), which may be any order of the
  elements and another one each time.

Exceptions are values: a class, of those that some `except` clause of the program tells
apart, and the text that `str(exc)` gives. Which clause catches what is a predicate on
the class (`Exc.isException`, `Exc.isOSError`, `Exc.isClientError`), with the
subclassing that matters to it; whether one is caught is then decided where the clause
stands.

A `str` is a `String`; the lone surrogates a Python string may hold besides are the one
thing left out. Floats are kept in the canonical form of binary64, with the non-finite
ones that `json.loads` also yields.
-/

namespace Gc3.Py

/-! ## Floats -/

/-- A finite binary64 value, `± mant · 2 ^ exp` in its canonical form. -/
structure Binary64 where
  neg : Bool
  mant : Nat
  exp : Int
  mant_lt : mant < 2 ^ 53
  exp_ge : -1074 ≤ exp
  exp_le : exp ≤ 971
  normal : exp = -1074 ∨ 2 ^ 52 ≤ mant
  deriving DecidableEq, Repr

/-- A Python `float`. `json.loads` yields the non-finite ones too. -/
inductive PyFloat
  | finite (x : Binary64)
  | inf (neg : Bool)
  | nan
  deriving DecidableEq, Repr

/-- `x != 0`; a NaN differs from everything. -/
def PyFloat.nonzero : PyFloat → Bool
  | .finite x => x.mant != 0
  | _ => true

/-- Truncation toward zero. -/
def Binary64.trunc (x : Binary64) : Int :=
  let magnitude : Nat :=
    match x.exp with
    | .ofNat e => x.mant * 2 ^ e
    | .negSucc e => x.mant / 2 ^ (e + 1)
  if x.neg then -magnitude else magnitude

/-! ## The interpreter -/

/-- What one interpreter build brings along: its Unicode tables and its float
formatter, with the laws that hold for every build. -/
class Runtime where
  /-- `str.isspace`, one character. -/
  isSpace : Char → Bool
  /-- `str.isdigit`, one character: decimal digits, and digits such as superscripts. -/
  isDigit : Char → Bool
  /-- The value of a decimal digit, the only digits `int()` reads. -/
  decimal : Char → Option Nat
  /-- Full lower-case mapping of one character, context aside. -/
  lowerMap : Char → List Char
  isCased : Char → Bool
  isCaseIgnorable : Char → Bool
  isPrintable : Char → Bool
  floatRepr : PyFloat → String
  isSpace_ascii : ∀ c : Char, c.toNat < 128 →
    (isSpace c = true ↔ 9 ≤ c.toNat ∧ c.toNat ≤ 13 ∨ 28 ≤ c.toNat ∧ c.toNat ≤ 32)
  isDigit_ascii : ∀ c : Char, c.toNat < 128 → isDigit c = c.isDigit
  decimal_ascii : ∀ c : Char, c.toNat < 128 →
    decimal c = if c.isDigit then some (c.toNat - '0'.toNat) else none
  decimal_lt : ∀ c d, decimal c = some d → d < 10
  decimal_isDigit : ∀ c d, decimal c = some d → isDigit c = true
  lowerMap_ascii : ∀ c : Char, c.toNat < 128 → lowerMap c = [c.toLower]

/-! ## String methods -/

section Str

variable [Runtime]

/-- The first character past the case-ignorable ones is cased. -/
def casedNext (cs : List Char) : Bool :=
  match cs.dropWhile Runtime.isCaseIgnorable with
  | c :: _ => Runtime.isCased c
  | [] => false

/-- A capital sigma is final when a cased character precedes it and none follows. -/
def lowerSigma (before after : List Char) : Char :=
  if casedNext before && !casedNext after then 'ς' else 'σ'

/-- Lower-case `cs`, with what was read before it (latest first) for the sigma rule. -/
def lowerFrom (before : List Char) : List Char → List Char
  | [] => []
  | c :: rest =>
    (if c = 'Σ' then [lowerSigma before rest] else Runtime.lowerMap c)
      ++ lowerFrom (c :: before) rest

/-- `s.lower()` -/
def lower (s : String) : String := String.ofList (lowerFrom [] s.toList)

/-- `s.strip()` -/
def strip (s : String) : String :=
  String.ofList ((s.toList.dropWhile Runtime.isSpace).rdropWhile Runtime.isSpace)

/-- `s.rstrip()` -/
def rstrip (s : String) : String := String.ofList (s.toList.rdropWhile Runtime.isSpace)

/-- `s.isdigit()` -/
def isdigit (s : String) : Bool := !s.toList.isEmpty && s.toList.all Runtime.isDigit

/-- `needle in hay` -/
def inStr (needle hay : String) : Bool := decide (needle.toList <:+: hay.toList)

/-- `s.endswith(tail)` -/
def endswith (s tail : String) : Bool := decide (tail.toList <:+ s.toList)

/-- The blanks `int()` skips: ASCII white space below 127, any white space above. -/
def intSpace (c : Char) : Bool :=
  if c.toNat < 127 then 9 ≤ c.toNat && c.toNat ≤ 13 || c == ' ' else Runtime.isSpace c

/-- Decimal digits with single underscores between them. -/
def readDigits : List Char → Option (List Nat)
  | [] => none
  | [c] => (Runtime.decimal c).map ([·])
  | c :: '_' :: rest => do return (← Runtime.decimal c) :: (← readDigits rest)
  | c :: rest => do return (← Runtime.decimal c) :: (← readDigits rest)

/-- CPython refuses to convert longer decimal texts. -/
def INT_MAX_STR_DIGITS : Nat := 4300

/-- The number `int(s)` reads, or `none` where it raises `ValueError`. -/
def intOfStr (s : String) : Option Int :=
  let body := (s.toList.dropWhile intSpace).rdropWhile intSpace
  let (neg, unsigned) : Bool × List Char :=
    match body with
    | '-' :: rest => (true, rest)
    | '+' :: rest => (false, rest)
    | cs => (false, cs)
  match readDigits unsigned with
  | none => none
  | some ds =>
    if INT_MAX_STR_DIGITS < ds.length then none
    else
      let n : Nat := ds.foldl (fun acc d => 10 * acc + d) 0
      some (if neg then -n else n)

end Str

/-! ## Exceptions -/

/-- The exception classes an `except` clause of the program can tell apart. -/
inductive ExcClass
  | attributeError
  | typeError
  | valueError
  | overflowError
  /-- `RecursionError`: what `json.loads` raises over a value that is nested too deep. -/
  | recursionError
  /-- A `TimeoutError` that is no `ClientError`: what a total time-out raises. -/
  | timeoutError
  /-- An `OSError` of none of the classes below and above. -/
  | osError
  /-- `aiohttp.ClientError` and its subclasses, `ContentTypeError` aside. -/
  | clientError
  /-- `aiohttp.ContentTypeError`, a `ClientError`. -/
  | contentTypeError
  /-- Any other subclass of `Exception`. -/
  | otherException
  /-- A `BaseException` that is no `Exception`, such as `asyncio.CancelledError`. -/
  | baseException
  deriving DecidableEq, Repr

/-- A raised exception: its class and its text, `str(err)`. -/
structure Exc where
  cls : ExcClass
  text : String
  deriving DecidableEq, Repr

/-- `except aiohttp.ClientError` -/
def Exc.isClientError (e : Exc) : Bool := e.cls == .clientError || e.cls == .contentTypeError

/-- `except OSError`, with no `aiohttp` about; a `TimeoutError` is one. -/
def Exc.isOSError (e : Exc) : Bool := e.cls == .osError || e.cls == .timeoutError

/-- `except Exception` -/
def Exc.isException (e : Exc) : Bool := e.cls != .baseException

/-! ## Sets -/

/-- One order in which a set may be iterated. -/
structure SetOrder (α : Type) [DecidableEq α] where
  list : Finset α → List α
  nodup : ∀ s, (list s).Nodup
  mem_list : ∀ s a, a ∈ list s ↔ a ∈ s

/-- Ascending order, by insertion. -/
def SetOrder.ascending (α : Type) [LinearOrder α] : SetOrder α where
  list s := Quot.liftOn s.val (List.insertionSort (· ≤ ·)) fun a b h =>
    ((List.perm_insertionSort _ a).trans
      (h.trans (List.perm_insertionSort _ b).symm)).eq_of_pairwise'
      (List.pairwise_insertionSort _ a) (List.pairwise_insertionSort _ b)
  nodup := by
    rintro ⟨⟨l⟩, h⟩
    exact (List.perm_insertionSort _ l).nodup_iff.mpr h
  mem_list := by
    rintro ⟨⟨l⟩, h⟩ a
    exact (List.perm_insertionSort _ l).mem_iff

/-- The same order, last to first. -/
def SetOrder.reverse {α : Type} [DecidableEq α] (order : SetOrder α) : SetOrder α where
  list s := (order.list s).reverse
  nodup s := List.nodup_reverse.mpr (order.nodup s)
  mem_list s a := by rw [List.mem_reverse, order.mem_list]

end Gc3.Py
