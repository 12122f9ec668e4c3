import Gc3.Lib.Fallible
import Gc3.Lib.Utf8
import Gc3.Py.Json
import Mathlib.Tactic.Ring

/-!
# `bytes`, `struct` and the text they come from

A `bytes` object is the list of its bytes. Indexing raises past the end, slicing never
does, `struct.pack` and `struct.unpack` raise on a value or a buffer that does not fit.
Decoding never raises, since every caller asks for replacement, and the string methods
here are those of the tools: `split`, `rstrip` of one character, `splitlines`.

Two parts make the round trips of the packet modules short:

* `packed` — numbers in their widths, one after the other. `struct.pack` of values that
  fit comes to it (`structPack_eq`), and what it holds is read back by `struct.unpack`
  (`structUnpack_packed`), so that a header is written and read by one list of pairs.
* `At` — what lies where in a buffer, which is how a packet's layout is written down
  without reading it. Parts of a layout lie where the parts before them end (`At.left`,
  `At.right`), and a part is what a slice, an index or an unpacking at its offset gives
  (`At.slice_eq`, `At.getElem?`, `At.structUnpack`).
-/

namespace Gc3.Py

abbrev Bytes := List UInt8

namespace Bytes

/-- `b[i:j]`, for indices from 0 on -/
def slice (b : Bytes) (i j : Nat) : Bytes := (b.drop i).take (j - i)

/-- `b[i]` -/
def byteAt (b : Bytes) (i : Nat) : Except Exc Nat :=
  match b[i]? with
  | some x => .ok x.toNat
  | none => .error ⟨.otherException, "index out of range"⟩

/-- `b.decode("utf-8", "replace")` -/
def decodeReplace (b : Bytes) : String := String.ofList (Utf8.decode b)

/-- `b.strip()`: ASCII white space only. -/
def strip (b : Bytes) : Bytes :=
  let blank := fun x : UInt8 => [9, 10, 11, 12, 13, 32].contains x
  (b.dropWhile blank).rdropWhile blank

/-- `b.hex()` -/
def hex (b : Bytes) : String := String.join (b.map fun x => Json.hex 2 x.toNat)

end Bytes

/-- `s.encode("utf-8")` -/
def encodeUtf8 (s : String) : Bytes := Utf8.encode s.toList

/-- A text that was encoded is decoded to itself, with nothing to replace. -/
theorem decodeReplace_encodeUtf8 (s : String) : (encodeUtf8 s).decodeReplace = s := by
  unfold encodeUtf8 Bytes.decodeReplace
  rw [Utf8.decode_encode, String.ofList_toList]

/-! ## Strings in pieces -/

/-- `s.split(sep)`, for a separator of one character -/
def split (sep : Char) (s : String) : List String := (s.toList.splitOn sep).map String.ofList

/-- `s.rstrip(c)`, for one character -/
def rstripChar (c : Char) (s : String) : String := String.ofList (s.toList.rdropWhile (· == c))

/-- The characters `str.splitlines` ends a line at. -/
def LINE_BREAKS : List Char :=
  ['\n', '\x0b', '\x0c', '\r', '\x1c', '\x1d', '\x1e', '\u0085', '\u2028', '\u2029']

/-- The lines of a text, after `line` (latest character first). -/
def linesFrom (line : List Char) : List Char → List (List Char)
  | [] => if line = [] then [] else [line.reverse]
  | '\r' :: '\n' :: rest => line.reverse :: linesFrom [] rest
  | c :: rest =>
    if c ∈ LINE_BREAKS then line.reverse :: linesFrom [] rest else linesFrom (c :: line) rest

/-- `s.splitlines()` -/
def splitlines (s : String) : List String := (linesFrom [] s.toList).map String.ofList

theorem toList_split (sep : Char) (s : String) :
    (split sep s).map (·.toList) = s.toList.splitOn sep := by
  unfold split
  rw [List.map_map]
  refine (List.map_congr_left fun cs _ => ?_).trans (List.map_id _)
  exact String.toList_ofList

/-- Joining undoes splitting. -/
theorem intercalate_split (sep : Char) (s : String) :
    (String.ofList [sep]).intercalate (split sep s) = s := by
  rw [← String.toList_inj, String.toList_intercalate, toList_split, String.toList_ofList,
    List.intercalate_splitOn]

/-! ## `struct`, in network order -/

/-- `n` in `w` bytes, the most significant first. -/
def toBig : Nat → Nat → Bytes
  | 0, _ => []
  | w + 1, n => UInt8.ofNat (n / 256 ^ w) :: toBig w n

def ofBig (b : Bytes) : Nat := b.foldl (fun acc x => 256 * acc + x.toNat) 0

/-- `struct.pack`: each value in as many bytes as its code asks for. -/
def structPack : List Nat → List Int → Except Exc Bytes
  | [], [] => .ok []
  | w :: widths, v :: values => do
    if 0 ≤ v ∧ v.toNat < 256 ^ w then
      return toBig w v.toNat ++ (← structPack widths values)
    else .error ⟨.otherException, "argument out of range"⟩
  | _, _ => .error ⟨.otherException, "pack expected a different number of items"⟩

/-- The numbers of the given widths that a buffer starts with. -/
def fields : List Nat → Bytes → List Nat
  | [], _ => []
  | w :: widths, b => ofBig (b.take w) :: fields widths (b.drop w)

/-- `struct.unpack` -/
def structUnpack (widths : List Nat) (b : Bytes) : Except Exc (List Nat) :=
  if b.length = widths.sum then .ok (fields widths b)
  else .error ⟨.otherException, "unpack requires a buffer of " ++ toString widths.sum ++ " bytes"⟩

/-- What a tuple assignment raises when the tuple has another length. -/
def unpackError : Exc := ⟨.valueError, "not enough values to unpack"⟩

/-- A number takes as many bytes as its code asks for. -/
@[simp] theorem length_toBig (w n : Nat) : (toBig w n).length = w := by
  induction w with
  | zero => rfl
  | succ w ih => rw [toBig, List.length_cons, ih]

theorem foldl_toBig (w n acc : Nat) :
    (toBig w n).foldl (fun acc x => 256 * acc + x.toNat) acc = acc * 256 ^ w + n % 256 ^ w := by
  induction w generalizing acc with
  | zero => simp [toBig, Nat.mod_one]
  | succ w ih =>
    have hbyte : (UInt8.ofNat (n / 256 ^ w)).toNat = n / 256 ^ w % 256 := UInt8.toNat_ofNat'
    have hmod : n % (256 ^ w * 256) = n % 256 ^ w + 256 ^ w * (n / 256 ^ w % 256) := Nat.mod_mul
    rw [toBig, List.foldl_cons, ih, hbyte, Nat.pow_succ, hmod]
    ring

theorem ofBig_toBig {w n : Nat} (h : n < 256 ^ w) : ofBig (toBig w n) = n := by
  unfold ofBig
  rw [foldl_toBig, Nat.zero_mul, Nat.zero_add, Nat.mod_eq_of_lt h]

/-- Numbers in their widths, one after the other. -/
def packed : List (Nat × Nat) → Bytes
  | [] => []
  | (w, n) :: rest => toBig w n ++ packed rest

theorem length_packed (xs : List (Nat × Nat)) : (packed xs).length = (xs.map (·.1)).sum := by
  induction xs with
  | nil => rfl
  | cons x xs ih => rw [packed, List.length_append, length_toBig, ih, List.map_cons, List.sum_cons]

/-- Packed numbers that fit are read back, each in its width. -/
theorem fields_packed {xs : List (Nat × Nat)} (h : ∀ x ∈ xs, x.2 < 256 ^ x.1) :
    fields (xs.map (·.1)) (packed xs) = xs.map (·.2) := by
  induction xs with
  | nil => rfl
  | cons x xs ih =>
    obtain ⟨w, n⟩ := x
    have hn : n < 256 ^ w := h (w, n) (List.mem_cons_self ..)
    rw [packed, List.map_cons, fields, List.take_left' (length_toBig w n),
      List.drop_left' (length_toBig w n), ofBig_toBig hn,
      ih fun x hx => h x (List.mem_cons_of_mem _ hx), List.map_cons]

/-- What was packed is unpacked again. -/
theorem structUnpack_packed {xs : List (Nat × Nat)} (h : ∀ x ∈ xs, x.2 < 256 ^ x.1) :
    structUnpack (xs.map (·.1)) (packed xs) = .ok (xs.map (·.2)) := by
  unfold structUnpack
  rw [if_pos (length_packed xs), fields_packed h]

theorem structPack_eq {xs : List (Nat × Nat)} (h : ∀ x ∈ xs, x.2 < 256 ^ x.1) :
    structPack (xs.map (·.1)) (xs.map fun x => (x.2 : Int)) = .ok (packed xs) := by
  induction xs with
  | nil => rfl
  | cons x xs ih =>
    obtain ⟨w, n⟩ := x
    have hn : n < 256 ^ w := h (w, n) (List.mem_cons_self ..)
    rw [List.map_cons, List.map_cons, structPack, if_pos ⟨Int.natCast_nonneg n, hn⟩,
      ih fun x hx => h x (List.mem_cons_of_mem _ hx)]
    rfl

/-! ## What lies where -/

/-- The bytes `b` lie in `buf` from `off` on. -/
def At (buf : Bytes) (off : Nat) (b : Bytes) : Prop := b <+: buf.drop off

instance (buf : Bytes) (off : Nat) (b : Bytes) : Decidable (At buf off b) :=
  inferInstanceAs (Decidable (b <+: buf.drop off))

namespace At

variable {buf a b : Bytes} {off : Nat}

theorem of_append (pre b post : Bytes) : At (pre ++ b ++ post) pre.length b := by
  unfold At
  rw [List.append_assoc, List.drop_left]
  exact List.prefix_append b post

theorem left (h : At buf off (a ++ b)) : At buf off a := (List.prefix_append a b).trans h

theorem right (h : At buf off (a ++ b)) : At buf (off + a.length) b := by
  obtain ⟨post, hpost⟩ := h
  unfold At
  rw [← List.drop_drop, ← hpost, List.append_assoc, List.drop_left]
  exact List.prefix_append b post

theorem slice_eq (h : At buf off b) : buf.slice off (off + b.length) = b := by
  unfold Bytes.slice
  rw [Nat.add_sub_cancel_left]
  exact (List.prefix_iff_eq_take.mp h).symm

theorem le_length (h : At buf off b) (hb : b ≠ []) : off + b.length ≤ buf.length := by
  have hle := h.length_le
  have hpos := List.length_pos_of_ne_nil hb
  rw [List.length_drop] at hle
  omega

theorem getElem? {x : UInt8} (h : At buf off (x :: b)) : buf[off]? = some x := by
  obtain ⟨post, hpost⟩ := h
  rw [← Nat.add_zero off, ← List.getElem?_drop, ← hpost]
  rfl

end At

theorem byteAt_eq {buf : Bytes} {i : Nat} {x : UInt8} (h : buf[i]? = some x) :
    buf.byteAt i = .ok x.toNat := by
  unfold Bytes.byteAt
  rw [h]

/-- Inside the buffer there is a byte to read. -/
theorem exists_byteAt {buf : Bytes} {i : Nat} (h : i < buf.length) :
    ∃ x : UInt8, buf.byteAt i = .ok x.toNat :=
  ⟨buf[i], byteAt_eq (List.getElem?_eq_getElem h)⟩

/-- A slice is cut short by the end of the buffer. -/
theorem length_slice (b : Bytes) (i j : Nat) :
    (b.slice i j).length = min (j - i) (b.length - i) := by
  unfold Bytes.slice
  rw [List.length_take, List.length_drop]

/-- A full slice unpacks. -/
theorem structUnpack_slice {b : Bytes} {off n : Nat} {widths : List Nat} (hn : widths.sum = n)
    (h : off + n ≤ b.length) :
    structUnpack widths (b.slice off (off + n)) = .ok (fields widths (b.slice off (off + n))) := by
  unfold structUnpack
  rw [if_pos (by rw [length_slice]; omega)]

/-- Numbers that lie in a buffer are unpacked from their slice of it. -/
theorem At.structUnpack {buf : Bytes} {off n : Nat} {xs : List (Nat × Nat)}
    (h : At buf off (packed xs)) (hn : (xs.map (·.1)).sum = n)
    (hfits : ∀ x ∈ xs, x.2 < 256 ^ x.1) :
    structUnpack (xs.map (·.1)) (buf.slice off (off + n)) = .ok (xs.map (·.2)) := by
  have hslice := h.slice_eq
  rw [length_packed, hn] at hslice
  rw [hslice]
  exact structUnpack_packed hfits

end Gc3.Py
