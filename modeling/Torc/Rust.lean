import Mathlib.Algebra.Group.Nat.Basic
import Mathlib.Data.List.Basic
import Mathlib.Data.String.Basic

/-! The parts of Rust's standard library that the scheduler's logic rests on: the `f64` comparison
`<` that matches tasks to offers, and the `str` methods `split`, `replace`, `contains` and
`starts_with` that build command lines and Docker parameters.  `f64` is modelled by its IEEE 754
bits, so the comparison is the one the hardware makes, `NaN` included.  The `str` methods work on
the characters of the string and recurse on them structurally, so they evaluate by `decide`. -/

namespace Torc

/-- An `f64` of the source, as its IEEE 754 bits: sign, 11 exponent bits, 52 fraction bits. -/
structure F64 where
  bits : UInt64
  deriving DecidableEq, Repr

namespace F64

/-- `0.0`. -/
def zero : F64 := ⟨0⟩

/-- A NaN has every exponent bit set and a fraction that is not 0. -/
def isNaN (x : F64) : Bool :=
  x.bits.toNat / 2 ^ 52 % 2 ^ 11 == 2 ^ 11 - 1 && x.bits.toNat % 2 ^ 52 != 0

/-- The position of a value that is not a NaN on the line of `f64` values: bits 0 to 62 read as a
magnitude, negated when the sign bit is set.  Both zeros sit at 0. -/
def key (x : F64) : Int :=
  if x.bits.toNat < 2 ^ 63 then x.bits.toNat else -((x.bits.toNat % 2 ^ 63 : Nat) : Int)

/-- IEEE 754 `<`: false when either side is a NaN. -/
def lt (x y : F64) : Bool := !x.isNaN && !y.isNaN && decide (x.key < y.key)

/-- IEEE 754 `<=`: false when either side is a NaN. -/
def le (x y : F64) : Bool := !x.isNaN && !y.isNaN && decide (x.key ≤ y.key)

end F64

/-! ### `str` methods -/

/-- `s.split(p).filter(|s| !s.is_empty())`: the pieces of `s` between characters satisfying `p`,
empty pieces dropped.  `List.splitOnP` cuts exactly where `str::split` does. -/
def splitNonEmpty (p : Char → Bool) (s : String) : List String :=
  ((s.toList.splitOnP p).filter (fun piece => !piece.isEmpty)).map String.mk

/-- The scan of `str::replace`: `skip` characters of a match still to drop, then at each position
either a match of `pat`, replaced by `rep`, or the character itself.  Matches are found from the
left and do not overlap; an empty `pat` matches before every character and at the end. -/
def replaceAux (pat rep : List Char) : Nat → List Char → List Char
  | _, [] => if pat.isEmpty then rep else []
  | skip + 1, _ :: cs => replaceAux pat rep skip cs
  | 0, c :: cs =>
    if pat.isEmpty then rep ++ c :: replaceAux pat rep 0 cs
    else if pat.isPrefixOf (c :: cs) then rep ++ replaceAux pat rep (pat.length - 1) cs
    else c :: replaceAux pat rep 0 cs

/-- `str::replace(s, pat, rep)`. -/
def replace (s pat rep : String) : String :=
  String.mk (replaceAux pat.toList rep.toList 0 s.toList)

/-- `str::contains(s, pat)`. -/
def contains (s pat : String) : Bool :=
  s.toList.tails.any fun rest => pat.toList.isPrefixOf rest

/-- `str::starts_with(s, pre)`. -/
def startsWith (s pre : String) : Bool :=
  pre.toList.isPrefixOf s.toList

/-- `str::split_at(s, mid)`, with `mid` counted in characters.  The source splits only after an
ASCII prefix it has checked with `starts_with`, where characters and bytes agree, so the split never
falls inside a character and never panics. -/
def splitAt (s : String) (mid : Nat) : String × String :=
  (String.mk (s.toList.take mid), String.mk (s.toList.drop mid))

theorem startsWith_iff {s pre : String} : startsWith s pre ↔ ∃ rest, s = pre ++ rest := by
  unfold startsWith
  rw [List.isPrefixOf_iff_prefix]
  constructor
  · rintro ⟨rest, h⟩
    exact ⟨⟨rest⟩, String.ext h.symm⟩
  · rintro ⟨rest, rfl⟩
    exact ⟨rest.toList, rfl⟩

theorem isEmpty_eq_false_iff {s : String} : s.isEmpty = false ↔ s ≠ "" := by
  rw [← Bool.not_eq_true, String.isEmpty_iff]

/-- Splitting after a prefix gives the prefix and the rest back. -/
theorem splitAt_append (pre rest : String) : splitAt (pre ++ rest) pre.length = (pre, rest) := by
  show (String.mk ((pre.data ++ rest.data).take pre.data.length),
    String.mk ((pre.data ++ rest.data).drop pre.data.length)) = (pre, rest)
  rw [List.take_left, List.drop_left]

/-! ### Splitting at separators -/

theorem splitOnP_append_cons {α : Type} {p : α → Bool} (xs : List α) {c : α} (hc : p c = true)
    (ys : List α) : (xs ++ c :: ys).splitOnP p = xs.splitOnP p ++ ys.splitOnP p := by
  induction xs with
  | nil => simp [hc]
  | cons x xs ih =>
    obtain ⟨piece, pieces, hxs⟩ := List.exists_cons_of_ne_nil (List.splitOnP_ne_nil p xs)
    by_cases hx : p x <;> simp [hx, ih, hxs]

/-- A separator parts the pieces of what stands before it from those of what follows it. -/
theorem splitNonEmpty_append_cons {p : Char → Bool} {c : Char} (hc : p c = true)
    (xs ys : List Char) :
    splitNonEmpty p ⟨xs ++ c :: ys⟩ = splitNonEmpty p ⟨xs⟩ ++ splitNonEmpty p ⟨ys⟩ := by
  simp only [splitNonEmpty, String.toList, splitOnP_append_cons _ hc, List.filter_append,
    List.map_append]

theorem splitNonEmpty_cons {p : Char → Bool} {c : Char} (hc : p c = true) (ys : List Char) :
    splitNonEmpty p ⟨c :: ys⟩ = splitNonEmpty p ⟨ys⟩ :=
  splitNonEmpty_append_cons hc [] ys

/-- A string that is not empty and has no separator is one piece. -/
theorem splitNonEmpty_of_forall {p : Char → Bool} {s : String} (hs : s ≠ "")
    (h : ∀ c ∈ s.data, p c = false) : splitNonEmpty p s = [s] := by
  have hne : s.data ≠ [] := fun h' => hs (String.ext h')
  have hsplit : s.data.splitOnP p = [s.data] :=
    List.splitOnP_eq_single _ _ fun c hc => by simp [h c hc]
  simp [splitNonEmpty, String.toList, hsplit, hne]

/-! ### Panic messages

The texts of the panics the scheduler can reach, without the backquotes Rust puts around the
method names. -/

/-- The message of the panic of `Result::unwrap` on `Err(e)`, with `e` as `Debug` prints it. -/
def unwrapFailed (e : String) : String := "called Result::unwrap() on an Err value: " ++ e

/-- The message of the panic of `Option::unwrap` on `None`. -/
def unwrapNone : String := "called Option::unwrap() on a None value"

/-- The message of the panic of indexing a slice of length `len` at `index`. -/
def indexOutOfBounds (len index : Nat) : String :=
  "index out of bounds: the len is " ++ toString len ++ " but the index is " ++ toString index

end Torc
