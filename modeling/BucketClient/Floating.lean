import BucketClient.Text.Decimal
import BucketClient.Text.Numeral

/-!
# Floating point numbers

A finite floating point number is known by the shortest decimal number that lies nearer to it than to any other
floating point number (`ShortDecimal`). These are also the digits of its text, which has a point or a power of ten, so
that it is never taken for a whole number. What else is asked of the number is asked of the floating point number that
is nearest to the decimal one (`ShortDecimal.nearest`).

Main statement: a number is read off the parts of its text (`ShortDecimal.ofParts_parts`).
-/

namespace BucketClient

/-- A decimal number by its digits and the power of ten of the last one, which is not zero. Zero has no digits. -/
structure ShortDecimal where
  negative : Bool
  digits : Nat
  exponent : Int
  reduced : digits % 10 ≠ 0 ∨ digits = 0 ∧ exponent = 0
  deriving DecidableEq, Repr

/-- The parts of the text of a number: the digits before the point, those behind it, and the power of ten if one is
written. -/
structure NumberParts where
  whole : List Char
  fraction : List Char
  power : Option Int := none
  deriving DecidableEq, Repr

namespace NumberParts

/-- The text of a number with these parts. -/
def text (p : NumberParts) : List Char :=
  Text.Decimal.pointed false p.whole p.fraction ++ p.power.elim [] Text.Decimal.exponent

/-- The number that the digits of the parts write. -/
def digits (p : NumberParts) : Nat :=
  Text.numberOf (p.whole ++ p.fraction)

/-- The power of ten of the last digit. -/
def exponent (p : NumberParts) : Int :=
  p.power.getD 0 - p.fraction.length

end NumberParts

namespace ShortDecimal

/-- The number with these digits and a power of ten of the last one, without the zeros at the end. -/
def reduce (negative : Bool) (digits : Nat) (exponent : Int) : ShortDecimal :=
  if h : digits % 10 = 0 then
    if digits = 0 then ⟨negative, 0, 0, .inr ⟨rfl, rfl⟩⟩ else reduce negative (digits / 10) (exponent + 1)
  else ⟨negative, digits, exponent, .inl h⟩
termination_by digits
decreasing_by omega

/-- The number that parts of a text write. -/
def ofParts (negative : Bool) (p : NumberParts) : ShortDecimal :=
  reduce negative p.digits p.exponent

/-- The parts of the text of a number. The digits are written out if the point stands among the first sixteen of them or
not too far before them, and with a power of ten otherwise. -/
def parts (d : ShortDecimal) : NumberParts :=
  let ds := Nat.toDigits 10 d.digits
  let point : Int := ds.length + d.exponent
  if point ≤ -4 ∨ 16 < point then { whole := ds.take 1, fraction := ds.drop 1, power := some (point - 1) }
  else if 0 ≤ d.exponent then { whole := ds ++ List.replicate d.exponent.toNat '0', fraction := ['0'] }
  else if 0 < point then { whole := ds.take point.toNat, fraction := ds.drop point.toNat }
  else { whole := ['0'], fraction := List.replicate (-point).toNat '0' ++ ds }

/-- The text of a number. -/
def text (d : ShortDecimal) : List Char :=
  (if d.negative then ['-'] else []) ++ d.parts.text

/-- The floating point number nearest to the size of a number, as a natural number and its scale. -/
def nearest (d : ShortDecimal) : Nat × Nat :=
  Text.Decimal.nearest (d.digits * Nat.pow 10 d.exponent.toNat) (Nat.pow 10 (-d.exponent).toNat)

/-- The number without what stands behind the point. -/
def truncated (d : ShortDecimal) : Int :=
  let (n, scale) := d.nearest
  let whole := n / Nat.pow 10 scale
  if d.negative then -whole else whole

/-! ## Reading a number off its parts -/

theorem reduce_of_reduced (d : ShortDecimal) : reduce d.negative d.digits d.exponent = d := by
  obtain ⟨negative, digits, exponent, reduced⟩ := d
  rw [reduce]
  rcases reduced with h | ⟨rfl, rfl⟩
  · rw [dif_neg h]
  · rfl

theorem reduce_zero (negative : Bool) (e : Int) : reduce negative 0 e = ⟨negative, 0, 0, .inr ⟨rfl, rfl⟩⟩ := by
  rw [reduce]
  rfl

theorem reduce_mul_ten (negative : Bool) (n : Nat) (e : Int) :
    reduce negative (n * 10) e = reduce negative n (e + 1) := by
  by_cases hn : n = 0
  · subst hn
    rw [Nat.zero_mul, reduce_zero, reduce_zero]
  · rw [reduce, dif_pos (Nat.mul_mod_left n 10), if_neg (by omega), Nat.mul_div_cancel n (by decide)]

theorem reduce_mul_pow (negative : Bool) (n k : Nat) (e : Int) :
    reduce negative (n * Nat.pow 10 k) e = reduce negative n (e + k) := by
  induction k generalizing e with
  | zero => exact congr (congrArg (reduce negative) (Nat.mul_one n)) (Int.add_zero e).symm
  | succ k ih =>
    show reduce negative (n * (Nat.pow 10 k * 10)) e = _
    rw [← Nat.mul_assoc, reduce_mul_ten, ih]
    congr 1
    omega

/-- A number is read off parts that write its digits, with some zeros behind them that the power of ten makes up for. -/
theorem ofParts_of_zeros (d : ShortDecimal) {p : NumberParts} (k : Nat)
    (hdigits : p.digits = d.digits * Nat.pow 10 k) (hexponent : p.exponent + k = d.exponent) :
    ofParts d.negative p = d := by
  rw [ofParts, hdigits, reduce_mul_pow, hexponent, reduce_of_reduced]

/-- A number is read off the parts of its text. -/
theorem ofParts_parts (d : ShortDecimal) : ofParts d.negative d.parts = d := by
  have hlength : 0 < (Nat.toDigits 10 d.digits).length := List.length_pos_iff.2 Nat.toDigits_ne_nil
  have hzero : ['0'] = List.replicate 1 '0' := rfl
  unfold parts
  dsimp only
  split
  · -- with a power of ten
    refine d.ofParts_of_zeros 0 ?_ ?_
    · rw [NumberParts.digits, List.take_append_drop, Text.numberOf_toDigits]
      exact (Nat.mul_one _).symm
    · simp only [NumberParts.exponent, Option.getD_some, List.length_drop]
      omega
  split
  · -- with zeros before the point, and one behind it
    refine d.ofParts_of_zeros (d.exponent.toNat + 1) ?_ ?_
    · rw [NumberParts.digits, hzero, Text.numberOf_append_zeros, Text.numberOf_append_zeros, Text.numberOf_toDigits,
        Nat.mul_assoc]
      exact congrArg (d.digits * ·) (Nat.pow_add 10 d.exponent.toNat 1).symm
    · simp only [NumberParts.exponent, Option.getD_none, List.length_singleton]
      omega
  split
  · -- with the point among the digits
    refine d.ofParts_of_zeros 0 ?_ ?_
    · rw [NumberParts.digits, List.take_append_drop, Text.numberOf_toDigits]
      exact (Nat.mul_one _).symm
    · simp only [NumberParts.exponent, Option.getD_none, List.length_drop]
      omega
  · -- with zeros behind the point
    refine d.ofParts_of_zeros 0 ?_ ?_
    · rw [NumberParts.digits, hzero, Text.numberOf_zeros_append, Text.numberOf_zeros_append, Text.numberOf_toDigits]
      exact (Nat.mul_one _).symm
    · simp only [NumberParts.exponent, Option.getD_none, List.length_append, List.length_replicate]
      omega

end ShortDecimal

/-- A floating point number. -/
inductive Floating where
  | finite (d : ShortDecimal)
  | infinite (negative : Bool)
  | undefined
  deriving DecidableEq, Repr

namespace Floating

/-- Whether a number is zero, of either sign. -/
def isZero : Floating → Bool
  | .finite d => d.digits == 0
  | _ => false

/-- The text of a number. -/
def text : Floating → List Char
  | .finite d => d.text
  | .infinite negative => (if negative then ['-'] else []) ++ ['i', 'n', 'f']
  | .undefined => ['n', 'a', 'n']

end Floating

end BucketClient
