import BucketClient.Proofs.Part.Chunks
import BucketClient.Proofs.S3.Wire

/-!
# The bytes that a range stands for

HTTP gives the text of a range its meaning: `bytes=a-b` stands for the positions from `a` to `b` or to the last one,
`bytes=a-` for those from `a` on, and without a range all bytes are meant.

* `readRange?` reads the text of a range, whose positions are decimal numerals (`readRange?_between`,
  `readRange?_suffixFrom`); `selected` gives the bytes that it stands for.
* `Writable`: all positions that a read names can be written (`writable_iff`). If so, the read has its range, else it
  fails (`range?_of_writable`, `range?_of_not_writable`).
* `selected_range`: the bytes that the range of a read stands for are the bytes from its offset on, up to its length
  unless that is zero; `selected_range_eq_none`: where there are no such bytes, the range cannot be satisfied.
-/

namespace BucketClient.S3

variable {τ : Type}

/-! ## The text of a range -/

/-- The position that a text writes with decimal digits. -/
def readPosition? (digits : List Char) : Option Nat :=
  if digits.isEmpty || !digits.all Char.isDigit then none else some (Nat.ofDigitChars 10 digits 0)

/-- The last position of a range, which may be left open. -/
def readEnd? (digits : List Char) : Option (Option Nat) :=
  if digits.isEmpty then some none else (readPosition? digits).map some

/-- The positions that a text names: the first one, and the last one unless it is left open. -/
def readRange? (text : String) : Option (Nat × Option Nat) :=
  match text.toList with
  | 'b' :: 'y' :: 't' :: 'e' :: 's' :: '=' :: rest =>
    match rest.dropWhile (· != '-') with
    | '-' :: last => do return (← readPosition? (rest.takeWhile (· != '-')), ← readEnd? last)
    | _ => none
  | _ => none

/-- The bytes that the text of a range stands for, all of them without a text. A range that can be satisfied names
positions in order, and the first of them lies within the bytes. -/
def selected (range : Option String) (data : ByteArray) : Option ByteArray :=
  match range with
  | none => some data
  | some text => (readRange? text).bind fun (first, last) =>
    let last := min (last.getD (data.size - 1)) (data.size - 1)
    if first < data.size ∧ first ≤ last then some (data.extract first (last + 1)) else none

theorem readPosition?_toDigits (n : Nat) : readPosition? (Nat.toDigits 10 n) = some n := by
  have hdigits : (Nat.toDigits 10 n).all Char.isDigit = true :=
    List.all_eq_true.2 fun _ => Text.isDigit_of_mem_toDigits
  rw [readPosition?, hdigits, Text.isEmpty_toDigits, Nat.ofDigitChars_toDigits (by decide) (by decide)]
  rfl

theorem readEnd?_toDigits (n : Nat) : readEnd? (Nat.toDigits 10 n) = some (some n) := by
  rw [readEnd?, Text.isEmpty_toDigits, readPosition?_toDigits]
  rfl

/-- The digits of a position hold no hyphen, so a range is cut behind its first position. -/
theorem ne_hyphen_of_mem_toDigits {n : Nat} {c : Char} (hc : c ∈ Nat.toDigits 10 n) : (c != '-') = true := by
  have hdigit := Text.isDigit_of_mem_toDigits hc
  rw [bne_iff_ne]
  rintro rfl
  cases hdigit

section

variable (first last : Nat)

theorem takeWhile_range (rest : List Char) :
    (Nat.toDigits 10 first ++ '-' :: rest).takeWhile (· != '-') = Nat.toDigits 10 first := by
  rw [List.takeWhile_append_of_pos fun c hc => ne_hyphen_of_mem_toDigits hc]
  simp

theorem dropWhile_range (rest : List Char) :
    (Nat.toDigits 10 first ++ '-' :: rest).dropWhile (· != '-') = '-' :: rest := by
  rw [List.dropWhile_append_of_pos fun c hc => ne_hyphen_of_mem_toDigits hc]
  simp

/-- A range between two positions is read back. -/
theorem readRange?_between : readRange? (ByteRange.between first last).text = some (first, some last) := by
  have htext : (ByteRange.between first last).text.toList =
      'b' :: 'y' :: 't' :: 'e' :: 's' :: '=' :: (Nat.toDigits 10 first ++ '-' :: Nat.toDigits 10 last) := by
    simp only [ByteRange.text, String.toList_append, Text.toList_toString_ofNat, List.append_assoc]
    rfl
  rw [readRange?, htext]
  simp only [takeWhile_range, dropWhile_range, readPosition?_toDigits, readEnd?_toDigits]
  rfl

/-- A range with an open end is read back. -/
theorem readRange?_suffixFrom : readRange? (ByteRange.suffixFrom first).text = some (first, none) := by
  have htext : (ByteRange.suffixFrom first).text.toList =
      'b' :: 'y' :: 't' :: 'e' :: 's' :: '=' :: (Nat.toDigits 10 first ++ ['-']) := by
    simp only [ByteRange.text, String.toList_append, Text.toList_toString_ofNat, List.append_assoc]
    rfl
  rw [readRange?, htext]
  simp only [takeWhile_range, dropWhile_range, readPosition?_toDigits]
  rfl

end

/-! ## The bytes of a read -/

/-- The text of the range of a read. -/
def rangeText (offset length : Int) : Option String :=
  (ByteRange.of? offset length).map ByteRange.text

section

variable {data : ByteArray} {offset length : Nat}

theorem rangeText_of_pos (h : 0 < length) :
    rangeText offset length = some (ByteRange.between offset (offset + length - 1 : Nat)).text := by
  have hlast : (offset : Int) + length - 1 = ((offset + length - 1 : Nat) : Int) := by omega
  rw [rangeText, ByteRange.of?, if_pos (by omega), hlast]
  rfl

theorem rangeText_of_offset (h : 0 < offset) : rangeText offset 0 = some (ByteRange.suffixFrom offset).text := by
  rw [rangeText, ByteRange.of?, if_neg (by decide), if_pos (by omega)]
  rfl

theorem rangeText_zero : rangeText 0 0 = none := rfl

/-- **The bytes that the range of a read stands for**, unless the read starts behind the last byte. -/
theorem selected_range (h : offset < data.size ∨ offset = 0 ∧ length = 0) :
    selected (rangeText offset length) data =
      some (data.extract offset (if length = 0 then data.size else offset + length)) := by
  rcases Nat.eq_zero_or_pos length with rfl | hlength
  · rcases Nat.eq_zero_or_pos offset with rfl | hoffset
    · rw [show ((0 : Nat) : Int) = 0 from rfl, rangeText_zero, if_pos rfl, ByteArray.extract_zero_size]
      rfl
    · have hlt : offset < data.size := by omega
      rw [show ((0 : Nat) : Int) = 0 from rfl, rangeText_of_offset hoffset, selected, readRange?_suffixFrom,
        Option.bind_some]
      dsimp only
      rw [Option.getD_none, Nat.min_self, if_pos (by omega), if_pos rfl, Nat.sub_add_cancel (by omega)]
  · have hlt : offset < data.size := by omega
    rw [rangeText_of_pos hlength, selected, readRange?_between, Option.bind_some]
    dsimp only
    rw [Option.getD_some, if_pos (by omega), if_neg (by omega)]
    -- a range that ends behind the last byte is cut off there
    by_cases hend : offset + length ≤ data.size
    · rw [Nat.min_eq_left (by omega), Nat.sub_add_cancel (by omega)]
    · have hcut : data.extract offset (offset + length) = data.extract offset data.size :=
        Split.extract_of_size_le (by omega)
      rw [Nat.min_eq_right (by omega), Nat.sub_add_cancel (by omega), hcut]

/-- A range that starts behind the last byte cannot be satisfied. -/
theorem selected_range_eq_none (h : ¬(offset < data.size ∨ offset = 0 ∧ length = 0)) :
    selected (rangeText offset length) data = none := by
  rcases Nat.eq_zero_or_pos length with rfl | hlength
  · rw [show ((0 : Nat) : Int) = 0 from rfl, rangeText_of_offset (by omega), selected, readRange?_suffixFrom,
      Option.bind_some]
    exact if_neg (by omega)
  · rw [rangeText_of_pos hlength, selected, readRange?_between, Option.bind_some]
    exact if_neg (by omega)

end

/-! ## Ranges that can be written -/

/-- The first number with more digits than a numeral may have. -/
def digitLimit : Nat :=
  Nat.pow 10 Text.Numeral.maxDigits

theorem lt_digitLimit {n : Nat} (h : n ≤ Text.Numeral.maxDigits) : n < digitLimit := by
  unfold digitLimit
  rw [Nat.pow_eq]
  exact Nat.lt_of_le_of_lt h (Nat.lt_pow_self (by decide))

/-- The positions that a range names. -/
def ByteRange.positions : ByteRange → List Int
  | .between first last => [first, last]
  | .suffixFrom first => [first]

/-- No position of the range has more digits than a numeral may have. -/
def ByteRange.Writable (range : ByteRange) : Prop :=
  ∀ position ∈ range.positions, position.natAbs < digitLimit

theorem isWritable_iff {n : Int} : Text.isWritable n = true ↔ n.natAbs < digitLimit := by
  unfold Text.isWritable digitLimit
  exact decide_eq_true_iff

theorem checkWritable_of_lt {n : Int} (h : n.natAbs < digitLimit) : Text.checkWritable n = .ok () :=
  if_pos (isWritable_iff.2 h)

theorem checkWritable_of_not_lt {n : Int} (h : ¬n.natAbs < digitLimit) :
    Text.checkWritable n = .error .unwritable :=
  if_neg fun hw => h (isWritable_iff.1 hw)

theorem ByteRange.check_of_writable {range : ByteRange} (h : range.Writable) : range.check = .ok () := by
  cases range with
  | between first last =>
    rw [check, checkWritable_of_lt (h first (by simp [positions])), checkWritable_of_lt (h last (by simp [positions]))]
    rfl
  | suffixFrom first => exact checkWritable_of_lt (h first (by simp [positions]))

theorem ByteRange.check_of_not_writable {range : ByteRange} (h : ¬range.Writable) :
    range.check = .error .unwritable := by
  cases range with
  | between first last =>
    by_cases hfirst : first.natAbs < digitLimit
    · have hlast : ¬last.natAbs < digitLimit := fun hlast => h (by simp [Writable, positions, hfirst, hlast])
      rw [check, checkWritable_of_lt hfirst, checkWritable_of_not_lt hlast]
      rfl
    · rw [check, checkWritable_of_not_lt hfirst]
      rfl
  | suffixFrom first => exact checkWritable_of_not_lt fun hfirst => h (by simp [Writable, positions, hfirst])

/-- The range of a read can be written, if the read has one. -/
def Writable (offset length : Int) : Prop :=
  ∀ range ∈ ByteRange.of? offset length, range.Writable

section

variable {offset length : Int}

theorem range?_of_writable (h : Writable offset length) :
    range? (some offset) (some length) = .ok (ByteRange.of? offset length) := by
  unfold range?
  cases hr : ByteRange.of? offset length with
  | none => simp only [hr]
  | some range => simp only [hr, ByteRange.check_of_writable (h range hr)]

theorem range?_of_not_writable (h : ¬Writable offset length) :
    range? (some offset) (some length) = .error (.value (.numeral .unwritable)) := by
  unfold range?
  cases hr : ByteRange.of? offset length with
  | none => exact absurd (fun range hm => by rw [hr] at hm; cases hm) h
  | some range =>
    have hw : ¬range.Writable := fun hw => h fun range' hm => by
      rw [hr] at hm
      cases hm
      exact hw
    simp only [hr, ByteRange.check_of_not_writable hw]

end

/-- A read can be written if the last position that it names can be. -/
theorem writable_iff {offset length : Nat} :
    Writable offset length ↔ offset + (length - 1) < digitLimit := by
  have hpos : 0 < digitLimit := lt_digitLimit (Nat.zero_le _)
  simp only [Writable, ByteRange.Writable, ByteRange.of?]
  split
  · simp only [Option.mem_def, Option.some.injEq, forall_eq', ByteRange.positions, List.mem_cons, List.not_mem_nil,
      or_false, forall_eq_or_imp, forall_eq]
    omega
  · split
    · simp only [Option.mem_def, Option.some.injEq, forall_eq', ByteRange.positions, List.mem_cons, List.not_mem_nil,
        or_false, forall_eq]
      omega
    · simp only [Option.mem_def, reduceCtorEq, false_implies, implies_true, true_iff]
      omega

/-! ## The call of a read -/

/-- The text of a parameter of a call. -/
def Call.text? (name : String) (call : Call) : Option String :=
  match call.parameters.lookup name with
  | some (.value (.text s)) => some s
  | _ => none

theorem Call.text?_range (bucket key : String) (range : Option ByteRange) :
    (Call.getObject bucket key range).text? "Range" = range.map ByteRange.text := by
  cases range <;> rfl

end BucketClient.S3
