import Gc3.Py.Json

/-!
# A concrete interpreter for Latin-1 text

The tables of any Python 3 up to U+00FF, with every character above it taken for a
caseless printable symbol, and the float formatter on whole numbers below 10^16. Runs on
the panel's own vocabulary stay inside it.

No result depends on this module. The theorems hold for every `Runtime`, that is for
every set of tables that is Python's on ASCII, and an instance of that structure is
needed where a definition is to be evaluated: in the runs on fixed inputs that show a
hypothesis can be met, and in those that show a statement false. Latin-1 is as much as these
runs ask for. It has letters beyond ASCII that lower-case, and the superscript digits
(`²`, `³` and `¹`), which `str.isdigit` accepts and `int()` does not; with ASCII alone
the two could not be told apart. It also has white space beyond ASCII, the next-line
character and the no-break space, which `str.strip` takes off a name.
-/

namespace Gc3.Py

/-- Latin-1 capitals: the ASCII ones, and U+00C0 to U+00DE but for the multiplication sign. -/
def isLatin1Upper (c : Char) : Bool :=
  c.isUpper || 0xc0 ≤ c.toNat && c.toNat ≤ 0xde && c.toNat != 0xd7

/-- Latin-1 small letters, the two ordinal indicators and the micro sign included. -/
def isLatin1Lower (c : Char) : Bool :=
  c.isLower || c.toNat = 0xaa || c.toNat = 0xb5 || c.toNat = 0xba ||
    0xdf ≤ c.toNat && c.toNat ≤ 0xff && c.toNat != 0xf7

/-- Whole numbers below 10^16 print as an integer with `.0`; others are not covered. -/
def wholeFloatRepr : PyFloat → String
  | .finite x => (if x.neg && x.trunc = 0 then "-0" else toString x.trunc) ++ ".0"
  | .inf neg => if neg then "-inf" else "inf"
  | .nan => "nan"

/-- Python on Latin-1 text. -/
@[reducible] def latin1 : Runtime where
  isSpace c := 9 ≤ c.toNat && c.toNat ≤ 13 || 28 ≤ c.toNat && c.toNat ≤ 32 ||
    c.toNat = 0x85 || c.toNat = 0xa0
  isDigit c := c.isDigit || c = '²' || c = '³' || c = '¹'
  decimal c := if c.isDigit then some (c.toNat - '0'.toNat) else none
  lowerMap c :=
    if c.toNat < 128 then [c.toLower]
    else if isLatin1Upper c then [Char.ofNat (c.toNat + 32)] else [c]
  isCased c := isLatin1Upper c || isLatin1Lower c
  isCaseIgnorable c := ['\'', '.', ':', '^', '\u0060', '\u00a8', '\u00ad', '\u00af', '\u00b4',
    '\u00b7', '\u00b8'].contains c
  isPrintable c := 32 ≤ c.toNat && c.toNat ≤ 126 || 0xa1 ≤ c.toNat && c.toNat != 0xad
  floatRepr := wholeFloatRepr
  isSpace_ascii := by
    intro c hc
    simp only [Bool.or_eq_true, Bool.and_eq_true, decide_eq_true_eq]
    omega
  isDigit_ascii := by
    intro c hc
    have h : ∀ d : Char, 128 ≤ d.toNat → (c = d) = False := by
      intro d hd
      simp only [eq_iff_iff, iff_false]
      intro hcd
      rw [hcd] at hc
      omega
    simp [h '²' (by decide), h '³' (by decide), h '¹' (by decide)]
  decimal_ascii := fun _ _ => rfl
  decimal_lt := by
    intro c d h
    have hc : c.isDigit = true := by
      by_contra hn
      simp [hn] at h
    simp only [hc, if_true, Option.some.injEq] at h
    have h9 : c.toNat ≤ 57 := by
      simp only [Char.isDigit, Bool.and_eq_true, decide_eq_true_eq] at hc
      exact hc.2
    have h0 : '0'.toNat = 48 := rfl
    omega
  decimal_isDigit := by
    intro c d h
    have hc : c.isDigit = true := by
      by_contra hn
      simp [hn] at h
    simp [hc]
  lowerMap_ascii := fun c hc => if_pos hc

end Gc3.Py
