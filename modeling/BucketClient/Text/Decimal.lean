/-!
# Rounded decimal texts

Texts of numbers that show them to a precision. A number is first rounded to the 53 binary digits of a floating point
number (`nearest`). What comes out is a decimal fraction: a natural number, of whose digits the last ones, as many as
its scale tells, stand behind the point. Its text has a count of decimal places (`fixed`), or keeps only the leading
digits (`leading`) and writes them with a power of ten (`scientific`), or is the shorter of the two kinds (`general`).
Wherever digits are dropped, the nearest number is taken, and of two that are equally near the even one.

Main statements: a rounded quotient is nearest (`two_mul_roundDiv_le`, `le_two_mul_roundDiv`), and even when it is a
tie (`roundDiv_even_of_tie`); whole numbers of at most 53 binary digits are their own nearest ones (`nearest_one`).
-/

namespace BucketClient.Text.Decimal

/-! ## Rounding -/

/-- The quotient rounded to the nearest whole number, a tie to the even one. -/
def roundDiv (n d : Nat) : Nat :=
  if 2 * (n % d) < d then n / d
  else if d < 2 * (n % d) then n / d + 1
  else n / d + n / d % 2

theorem two_mul_roundDiv_le (n d : Nat) : 2 * (d * roundDiv n d) ≤ 2 * n + d := by
  have h := Nat.div_add_mod n d
  unfold roundDiv
  split
  · omega
  · split
    · rw [Nat.mul_add]
      omega
    · have hq : n / d % 2 = 0 ∨ n / d % 2 = 1 := by omega
      rcases hq with hq | hq <;> rw [hq, Nat.mul_add] <;> omega

theorem le_two_mul_roundDiv {n d : Nat} (hd : 0 < d) : 2 * n ≤ 2 * (d * roundDiv n d) + d := by
  have h := Nat.div_add_mod n d
  have hr := Nat.mod_lt n hd
  unfold roundDiv
  split
  · omega
  · split
    · rw [Nat.mul_add]
      omega
    · rw [Nat.mul_add]
      omega

theorem roundDiv_even_of_tie {n d : Nat} (h : 2 * (n % d) = d) : roundDiv n d % 2 = 0 := by
  unfold roundDiv
  rw [if_neg (by omega), if_neg (by omega)]
  omega

theorem roundDiv_one (n : Nat) : roundDiv n 1 = n := by
  simp [roundDiv, Nat.mod_one]

/-- The binary digits that a floating point number keeps. -/
def significantBits : Nat := 53

/-- The power of two below which no floating point number has digits. -/
def leastPower : Int := -1074

/-- The power of two of the leading binary digit of a quotient. -/
def leadingPower (n d : Nat) : Int :=
  let power : Int := n.log2 - d.log2
  if n * Nat.pow 2 (-power).toNat < d * Nat.pow 2 power.toNat then power - 1 else power

/-- The power of two of the last binary digit that is kept of a quotient. -/
def lastPower (n d : Nat) : Int :=
  max (leadingPower n d - (significantBits - 1)) leastPower

/-- The floating point number nearest to a quotient, as a natural number and its scale. -/
def nearest (n d : Nat) : Nat × Nat :=
  let power := lastPower n d
  let kept := roundDiv (n * Nat.pow 2 (-power).toNat) (d * Nat.pow 2 power.toNat)
  (kept * Nat.pow 2 power.toNat * Nat.pow 5 (-power).toNat, (-power).toNat)

theorem nearest_one {n : Nat} (h : n.log2 < significantBits) :
    ∃ scale, nearest n 1 = (n * Nat.pow 10 scale, scale) := by
  refine ⟨(-lastPower n 1).toNat, ?_⟩
  have hone : Nat.log2 1 = 0 := by decide
  have hpower : (lastPower n 1).toNat = 0 := by
    simp only [lastPower, leadingPower, leastPower, significantBits, hone] at h ⊢
    split <;> omega
  have hzero : Nat.pow 2 0 = 1 := rfl
  have hten (k : Nat) : n * Nat.pow 2 k * Nat.pow 5 k = n * Nat.pow 10 k :=
    (Nat.mul_assoc ..).trans (congrArg (n * ·) (Nat.mul_pow 2 5 k).symm)
  simp only [nearest, hpower, hzero, Nat.mul_one, roundDiv_one, hten]

/-- The least number that is too large for a floating point number. -/
def overflow : Nat := Nat.pow 2 1024

/-! ## Texts -/

/-- The decimal digits of a number. -/
def digits (n : Nat) : List Char :=
  Nat.toDigits 10 n

/-- Digits with zeros behind them, up to a count. -/
def padded (count : Nat) (ds : List Char) : List Char :=
  ds ++ List.replicate (count - ds.length) '0'

/-- Digits without the zeros at their end. -/
def stripped (ds : List Char) : List Char :=
  (ds.reverse.dropWhile (· == '0')).reverse

/-- The leading digits of a number, at most `count`, and the power of ten of the first one. -/
def leading (count n scale : Nat) : List Char × Int :=
  let all := digits n
  if all.length ≤ count then (all, if n = 0 then 0 else (all.length : Int) - 1 - scale)
  else
    let rounded := digits (roundDiv n (Nat.pow 10 (all.length - count)))
    (rounded.take count, (all.length : Int) - 1 + (rounded.length - count) - scale)

/-- A whole part and a fraction with a point between them; without a fraction, the point stands only if wanted. -/
def pointed (point : Bool) (whole fraction : List Char) : List Char :=
  if fraction.isEmpty && !point then whole else whole ++ '.' :: fraction

/-- The text of a power of ten, which has a sign and at least two digits. -/
def exponent (e : Int) : List Char :=
  'e' :: (if e < 0 then '-' else '+') :: (digits e.natAbs).leftpad 2 '0'

/-- The text of a number with a count of decimal places. -/
def fixed (point : Bool) (places n scale : Nat) : List Char :=
  let kept := min places scale
  let ds := (digits (roundDiv n (Nat.pow 10 (scale - kept)))).leftpad (kept + 1) '0'
  pointed point (ds.take (ds.length - kept)) (padded places (ds.drop (ds.length - kept)))

/-- The text of a number with one digit, a count of decimal places, and the power of ten. -/
def scientific (point : Bool) (places n scale : Nat) : List Char :=
  let (ds, e) := leading (places + 1) n scale
  pointed point (ds.take 1) (padded places (ds.drop 1)) ++ exponent e

/-- The text of a number with a count of digits, the power of ten being written only if the number has more of them or
is small. Zeros at the end of the fraction stand only if the point is wanted. -/
def general (point : Bool) (precision n scale : Nat) : List Char :=
  let count := max precision 1
  let (ds, e) := leading count n scale
  let finish (places : Nat) (fraction : List Char) := if point then padded places fraction else stripped fraction
  if e < -4 ∨ (count : Int) ≤ e then pointed point (ds.take 1) (finish (count - 1) (ds.drop 1)) ++ exponent e
  else if e < 0 then
    pointed point ['0'] (finish (count - 1 + e.natAbs) (List.replicate (e.natAbs - 1) '0' ++ ds))
  else pointed point (ds.take (e.toNat + 1)) (finish (count - (e.toNat + 1)) (ds.drop (e.toNat + 1)))

/-- The styles of rounded decimal texts. -/
inductive Style where
  | fixed
  | scientific
  | general
  deriving DecidableEq, Repr

namespace Style

/-- The text of a number in a style. -/
def text (point : Bool) (precision n scale : Nat) : Style → List Char
  | .fixed => Decimal.fixed point precision n scale
  | .scientific => Decimal.scientific point precision n scale
  | .general => Decimal.general point precision n scale

/-- The digits that a precision adds to a text of a style. -/
def room (point : Bool) (precision : Nat) : Style → Nat
  | .general => if point then precision else 0
  | _ => precision

end Style

end BucketClient.Text.Decimal
