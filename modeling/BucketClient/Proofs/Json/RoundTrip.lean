import BucketClient.Json.Reader
import BucketClient.Json.Writer

/-!
# Written JSON is read back

* `le_of_mem_write`: the text of a value holds no character below the blank.
* `Value.IsJson`: the value is a JSON value.
* `readNumber?_toString`, `readNumber?_text`: numbers of both kinds are read back, the second kind from the parts of its
  text (`readSize?_parts`).
* `Reads`: the text of a value is read back in front of any text that does not go on with a number, if at least as many
  steps may be made as the text has characters. Lists and records are read back if all that is in them is
  (`reads_list`, `reads_record`), hence every JSON value (`reads`).
* `check_eq`: a JSON value can be written unless a whole number in it has too many digits.
* `read?_render`: so a JSON value that can be written is read back from its text.
-/

namespace BucketClient

/-- The value is a JSON value: there are no points in time in it, all numbers are finite, and each record names each of
its fields once. -/
inductive Value.IsJson : Value → Prop
  | null : IsJson .null
  | bool (b : Bool) : IsJson (.bool b)
  | int (n : Int) : IsJson (.int n)
  | real (d : ShortDecimal) : IsJson (.real (.finite d))
  | text (s : String) : IsJson (.text s)
  | list {items : List Value} (h : ∀ v ∈ items, IsJson v) : IsJson (.list items)
  | record {fields : List (String × Value)} (hn : (fields.map (·.1)).Nodup) (h : ∀ field ∈ fields, IsJson field.2) :
    IsJson (.record fields)

namespace Json

open Text

/-! ## Texts -/

theorem toNat_digitChar_le {n : Nat} (h : n < 16) : 0x30 ≤ (Nat.digitChar n).toNat := by
  revert n
  decide

theorem hexDigit?_digitChar {n : Nat} (h : n < 16) : hexDigit? (Nat.digitChar n) = some n := by
  revert n
  decide

theorem joinUnit_of_lt {n : Nat} (h : n < 0x20) (rest : List Char) : joinUnit n rest = (Char.ofNat n, rest) := by
  have hhigh : ¬0xd800 ≤ n := by omega
  have hlow : ¬0xdc00 ≤ n := by omega
  simp [joinUnit, hhigh, hlow]

/-- What a character is written as inside a string: a backslash and what stands for the character behind it, or the
character itself, if it is neither the mark that ends the string nor a backslash. -/
inductive Escaped (c : Char) : List Char → Prop
  | escape {body : List Char} (hread : ∀ rest, readEscape? (body ++ rest) = some (c, rest))
    (hbody : ∀ d ∈ body, 0x20 ≤ d.toNat) : Escaped c ('\x5c' :: body)
  | plain (hmark : c ≠ '\x22') (hslash : c ≠ '\x5c') (hc : 0x20 ≤ c.toNat) : Escaped c [c]

/-- The letter that stands for a character behind a backslash. -/
theorem Escaped.letter {c : Char} (letter : Char) (hc : ∀ rest, readEscape? (letter :: rest) = some (c, rest))
    (hletter : 0x20 ≤ letter.toNat) : Escaped c ['\x5c', letter] :=
  .escape hc (by simpa using hletter)

theorem escaped_of_unit {c : Char} (h : c.toNat < 0x20) :
    Escaped c ['\x5c', 'u', '0', '0', Nat.digitChar (c.toNat / 16), Nat.digitChar (c.toNat % 16)] := by
  have hhigh : c.toNat / 16 < 16 := by omega
  have hlow : c.toNat % 16 < 16 := by omega
  have hzero : hexDigit? '0' = some 0 := rfl
  refine .escape (fun rest => ?_) ?_
  · have hunit : ((0 * 16 + 0) * 16 + c.toNat / 16) * 16 + c.toNat % 16 = c.toNat := by omega
    simp only [List.cons_append, List.nil_append, readEscape?, readUnit?, hzero, hexDigit?_digitChar hhigh,
      hexDigit?_digitChar hlow, Option.bind_eq_bind, Option.bind_some, Option.pure_def, Option.map_some, hunit,
      joinUnit_of_lt h, Char.ofNat_toNat]
  · have h₁ := toNat_digitChar_le hhigh
    have h₂ := toNat_digitChar_le hlow
    simp only [List.forall_mem_cons, List.not_mem_nil, false_implies, implies_true, and_true]
    refine ⟨by decide, by decide, by decide, by omega, by omega⟩

theorem escaped (c : Char) : Escaped c (escapedChar c) := by
  have hchar : ∀ {n : Nat}, (c.toNat == n) = true → c = Char.ofNat n := by
    intro n h
    rw [← beq_iff_eq.1 h, Char.ofNat_toNat]
  unfold escapedChar
  dsimp only
  -- the seven characters that have a letter of their own
  iterate 7
    split
    · rename_i h
      exact .letter _ (by rw [hchar h]; exact fun _ => rfl) (by decide)
  split
  · rename_i h
    exact escaped_of_unit h
  · rename_i hmark hslash _ _ _ _ _ hc
    refine .plain ?_ ?_ (by omega)
    · rintro rfl
      exact hmark rfl
    · rintro rfl
      exact hslash rfl

theorem le_of_mem_writeText {s : String} {c : Char} (h : c ∈ writeText s) : 0x20 ≤ c.toNat := by
  simp only [writeText, List.cons_append, List.mem_cons, List.mem_append, List.mem_flatMap, List.not_mem_nil,
    or_false] at h
  rcases h with rfl | ⟨d, -, hd⟩ | rfl
  · decide
  · have hescaped := escaped d
    cases hw : escapedChar d with
    | nil => rw [hw] at hd; cases hd
    | cons first rest =>
      rw [hw] at hd hescaped
      cases hescaped with
      | escape hread hbody =>
        rcases List.mem_cons.1 hd with rfl | hd
        · decide
        · exact hbody c hd
      | plain hmark hslash hc =>
        rw [List.mem_singleton.1 hd]
        exact hc
  · decide

/-- A character is read back from what it is written as. -/
theorem readChars?_escaped {c : Char} {text : List Char} (h : Escaped c text) (steps : Nat) (rest : List Char) :
    readChars? (steps + 1) (text ++ rest) = (readChars? steps rest).map fun (cs, rest) => (c :: cs, rest) := by
  cases h with
  | escape hread hbody =>
    simp only [List.cons_append, readChars?, hread, Option.bind_eq_bind, Option.bind_some]
    cases readChars? steps rest <;> rfl
  | plain hmark hslash hc =>
    rw [List.singleton_append, readChars?]
    · cases readChars? steps rest <;> rfl
    · exact hmark
    · exact hslash

theorem readChars?_flatMap (cs rest : List Char) {steps : Nat} (h : cs.length ≤ steps) :
    readChars? steps (cs.flatMap escapedChar ++ '\x22' :: rest) = some (cs, rest) := by
  induction cs generalizing steps with
  | nil => simp [readChars?]
  | cons c cs ih =>
    obtain ⟨steps, rfl⟩ : ∃ n, steps = n + 1 := ⟨steps - 1, by simp at h; omega⟩
    rw [List.flatMap_cons, List.append_assoc, readChars?_escaped (escaped c), ih (by simpa using h)]
    rfl

theorem length_le_escaped {c : Char} : 1 ≤ (escapedChar c).length := by
  have h := escaped c
  generalize escapedChar c = text at h
  cases h <;> simp

theorem length_le_writeText (s : String) : s.toList.length + 2 ≤ (writeText s).length := by
  have hchars : ∀ cs : List Char, cs.length ≤ (cs.flatMap escapedChar).length := by
    intro cs
    induction cs with
    | nil => simp
    | cons c cs ih =>
      have := @length_le_escaped c
      simp only [List.flatMap_cons, List.length_cons, List.length_append]
      omega
  have := hchars s.toList
  simp only [writeText, List.cons_append, List.length_cons, List.length_append, List.length_nil]
  omega

/-- A string is read back. -/
theorem readText?_writeText (s : String) (rest : List Char) {steps : Nat} (h : (writeText s).length ≤ steps + 1) :
    readText? steps (writeText s ++ rest) = some (s, rest) := by
  have hlength := length_le_writeText s
  have hchars : readChars? steps (s.toList.flatMap escapedChar ++ '\x22' :: rest) = some (s.toList, rest) :=
    readChars?_flatMap s.toList rest (by omega)
  simp only [writeText, List.cons_append, List.append_assoc, List.nil_append, readText?, hchars, Option.map_some,
    String.ofList_toList]

/-! ## Numbers -/

/-- The text does not go on with anything that belongs to a number. -/
def EndsNumber (rest : List Char) : Prop :=
  ∀ c ∈ rest.head?, c.isDigit = false ∧ c ≠ '.' ∧ c ≠ 'e' ∧ c ≠ 'E'

/-- Digits are read up to a text that does not go on with a digit. -/
theorem readDigits_append {ds rest : List Char} (hd : ∀ c ∈ ds, c.isDigit = true)
    (hr : ∀ c ∈ rest.head?, c.isDigit = false) : readDigits (ds ++ rest) = (ds, rest) := by
  rw [readDigits, List.takeWhile_append_of_pos hd, List.dropWhile_append_of_pos hd]
  cases rest with
  | nil => simp
  | cons c rest => simp [hr c rfl]

section

variable {rest : List Char}

theorem EndsNumber.isDigit (h : EndsNumber rest) : ∀ c ∈ rest.head?, c.isDigit = false :=
  fun c hc => (h c hc).1

theorem readFraction_of_ends (h : EndsNumber rest) : readFraction rest = ([], rest) := by
  unfold readFraction
  split
  · exact absurd rfl (h '.' rfl).2.1
  · rfl

theorem readPower_of_ends (h : EndsNumber rest) : readPower rest = (none, rest) := by
  cases rest with
  | nil => rfl
  | cons c rest =>
    obtain ⟨-, -, hsmall, hlarge⟩ := h c rfl
    rw [readPower, if_neg (by simp [hsmall, hlarge])]

/-- The digits behind a point are read up to a text that does not go on with a digit. -/
theorem readFraction_point {fraction : List Char} (hne : fraction ≠ []) (hd : ∀ c ∈ fraction, c.isDigit = true)
    (hr : ∀ c ∈ rest.head?, c.isDigit = false) : readFraction ('.' :: (fraction ++ rest)) = (fraction, rest) := by
  obtain ⟨d, ds, rfl⟩ := List.exists_cons_of_ne_nil hne
  rw [readFraction, readDigits_append hd hr]

/-- A power of ten is read. -/
theorem readPower_exponent (e : Int) (h : EndsNumber rest) :
    readPower (Decimal.exponent e ++ rest) = (some e, rest) := by
  obtain ⟨k, hk⟩ : ∃ k, (Decimal.digits e.natAbs).leftpad 2 '0' = List.replicate k '0' ++ Nat.toDigits 10 e.natAbs :=
    ⟨_, rfl⟩
  have hdigits : ∀ c ∈ List.replicate k '0' ++ Nat.toDigits 10 e.natAbs, c.isDigit = true := by
    intro c hc
    rcases List.mem_append.1 hc with hc | hc
    · rw [List.eq_of_mem_replicate hc]
      rfl
    · exact isDigit_of_mem_toDigits hc
  have hread := readDigits_append hdigits h.isDigit
  have hnumber : numberOf (List.replicate k '0' ++ Nat.toDigits 10 e.natAbs) = e.natAbs := by
    rw [numberOf_zeros_append, numberOf_toDigits]
  have hne : List.replicate k '0' ++ Nat.toDigits 10 e.natAbs ≠ [] := by
    simp [Nat.toDigits_ne_nil]
  obtain ⟨d, ds, hds⟩ := List.exists_cons_of_ne_nil hne
  rw [hds] at hread hnumber
  rw [Decimal.exponent, hk, hds, List.cons_append, List.cons_append, readPower, if_pos (.inl rfl)]
  by_cases hneg : e < 0
  · have hsign : -((e.natAbs : Nat) : Int) = e := by omega
    simp only [if_pos hneg, readSign, hread, hnumber, if_true, hsign]
  · have hsign : ((e.natAbs : Nat) : Int) = e := by omega
    simp only [if_neg hneg, readSign, hread, hnumber, Bool.false_eq_true, if_false, hsign]

end

theorem exists_digit (n : Nat) : ∃ d ds, Nat.toDigits 10 n = d :: ds ∧ d.isDigit = true := by
  obtain ⟨d, ds, hd⟩ := List.exists_cons_of_ne_nil (@Nat.toDigits_ne_nil n 10)
  exact ⟨d, ds, hd, isDigit_of_mem_toDigits (n := n) (by rw [hd]; exact List.mem_cons_self)⟩

/-- The sign of a number is read before its size. -/
theorem readNumber?_signed (negative : Bool) {c : Char} (hc : c.isDigit = true) (cs : List Char) :
    readNumber? ((if negative then ['-'] else []) ++ c :: cs) = readSize? negative (c :: cs) := by
  cases negative with
  | true => rfl
  | false =>
    rw [if_neg (by decide), List.nil_append, readNumber?]
    rintro rest he
    cases he
    cases hc

/-- A whole number is read back. -/
theorem readNumber?_toString (n : Int) {rest : List Char} (h : EndsNumber rest) :
    readNumber? ((toString n).toList ++ rest) = some (.int n, rest) := by
  obtain ⟨d, ds, hds, hd⟩ := exists_digit n.natAbs
  have hdigits : ∀ c ∈ Nat.toDigits 10 n.natAbs, c.isDigit = true := fun c hc => isDigit_of_mem_toDigits hc
  have hsigned := readNumber?_signed (decide (n < 0)) hd (ds ++ rest)
  rw [← List.cons_append, ← hds, ← List.append_assoc] at hsigned
  rw [toList_toString_int, show (if n < 0 then ['-'] else []) = if decide (n < 0) = true then ['-'] else [] by simp,
    hsigned, readSize?]
  simp only [readDigits_append hdigits h.isDigit, readFraction_of_ends h, readPower_of_ends h, numberOf_toDigits,
    isEmpty_toDigits]
  have hvalue : (if decide (n < 0) = true then -(n.natAbs : Int) else n.natAbs) = n := by
    simp only [decide_eq_true_eq]
    split <;> omega
  rw [hvalue]
  rfl

/-- The parts are digits, with one before the point, and show that the number is a floating point number. -/
structure IsReal (p : NumberParts) : Prop where
  whole_ne : p.whole ≠ []
  whole : ∀ c ∈ p.whole, c.isDigit = true
  fraction : ∀ c ∈ p.fraction, c.isDigit = true
  real : p.fraction ≠ [] ∨ p.power ≠ none

theorem isReal_parts (d : ShortDecimal) : IsReal d.parts := by
  have hdigits : ∀ c ∈ Nat.toDigits 10 d.digits, c.isDigit = true := fun c hc => isDigit_of_mem_toDigits hc
  have hzeros : ∀ k, ∀ c ∈ List.replicate k '0', c.isDigit = true := by
    intro k c hc
    rw [List.eq_of_mem_replicate hc]
    rfl
  have hlength : 0 < (Nat.toDigits 10 d.digits).length := List.length_pos_iff.2 Nat.toDigits_ne_nil
  have hzero : ∀ c ∈ ['0'], c.isDigit = true := by simp
  unfold ShortDecimal.parts
  dsimp only
  split
  · exact ⟨by simp [Nat.toDigits_ne_nil], fun c hc => hdigits c (List.mem_of_mem_take hc),
      fun c hc => hdigits c (List.mem_of_mem_drop hc), .inr (by simp)⟩
  split
  · exact ⟨by simp [Nat.toDigits_ne_nil], List.forall_mem_append.2 ⟨hdigits, hzeros _⟩, hzero, .inl (by simp)⟩
  split
  · refine ⟨?_, fun c hc => hdigits c (List.mem_of_mem_take hc), fun c hc => hdigits c (List.mem_of_mem_drop hc),
      .inl ?_⟩
    · rw [← List.length_pos_iff, List.length_take]
      omega
    · rw [← List.length_pos_iff, List.length_drop]
      omega
  · exact ⟨by simp, hzero, List.forall_mem_append.2 ⟨hzeros _, hdigits⟩, .inl (by simp [Nat.toDigits_ne_nil])⟩

/-- What stands behind the digits before the point is read. -/
theorem readSize?_parts (negative : Bool) {p : NumberParts} (hp : IsReal p) {rest : List Char} (h : EndsNumber rest) :
    readSize? negative (p.text ++ rest) = some (.real (.finite (.ofParts negative p)), rest) := by
  obtain ⟨whole, fraction, power⟩ := p
  obtain ⟨hne, hwhole, hfraction, hreal⟩ := hp
  have hpower : readPower (power.elim [] Decimal.exponent ++ rest) = (power, rest) := by
    cases power with
    | none => exact readPower_of_ends h
    | some e => exact readPower_exponent e h
  have hends : ∀ c ∈ (power.elim [] Decimal.exponent ++ rest).head?, c.isDigit = false := by
    cases power with
    | none => exact h.isDigit
    | some e =>
      rintro c ⟨⟩
      rfl
  have hempty : whole.isEmpty = false := List.isEmpty_eq_false_iff.2 hne
  rw [NumberParts.text, Decimal.pointed, readSize?]
  cases fraction with
  | nil =>
    have hpoint : readFraction (power.elim [] Decimal.exponent ++ rest) =
        ([], power.elim [] Decimal.exponent ++ rest) := by
      cases power with
      | none => exact readFraction_of_ends h
      | some e => rfl
    obtain ⟨e, rfl⟩ : ∃ e, power = some e := by
      rcases hreal with hreal | hreal
      · exact absurd rfl hreal
      · exact Option.ne_none_iff_exists'.1 hreal
    simp only [List.isEmpty_nil, Bool.not_false, Bool.and_self, if_true, List.append_assoc,
      readDigits_append hwhole hends, hpoint, hpower, hempty, Bool.false_eq_true, if_false, Option.isNone_some,
      Bool.and_false]
  | cons c fraction =>
    have hpoint := readFraction_point (List.cons_ne_nil c fraction) hfraction hends
    have hdigits : readDigits (whole ++ '.' :: (c :: fraction ++ (power.elim [] Decimal.exponent ++ rest))) =
        (whole, '.' :: (c :: fraction ++ (power.elim [] Decimal.exponent ++ rest))) :=
      readDigits_append hwhole (by rintro d ⟨⟩; rfl)
    simp only [List.isEmpty_cons, Bool.false_and, Bool.false_eq_true, if_false, List.append_assoc, List.cons_append]
      at hdigits hpoint ⊢
    simp only [hdigits, hpoint, hpower, hempty, Bool.false_eq_true, if_false, List.isEmpty_cons, Bool.false_and]

/-- The text of a number begins with a digit, behind a hyphen if it is negative. -/
theorem exists_digit_text (d : ShortDecimal) : ∃ c cs, d.parts.text = c :: cs ∧ c.isDigit = true := by
  have hp := isReal_parts d
  obtain ⟨c, cs, hc⟩ := List.exists_cons_of_ne_nil hp.whole_ne
  have hdigit := hp.whole c (by rw [hc]; exact List.mem_cons_self)
  rw [NumberParts.text, Decimal.pointed, hc]
  split
  · exact ⟨_, _, rfl, hdigit⟩
  · exact ⟨_, _, rfl, hdigit⟩

/-- A floating point number is read back. -/
theorem readNumber?_text (d : ShortDecimal) {rest : List Char} (h : EndsNumber rest) :
    readNumber? (d.text ++ rest) = some (.real (.finite d), rest) := by
  obtain ⟨c, cs, hcs, hc⟩ := exists_digit_text d
  have hsize := readSize?_parts d.negative (isReal_parts d) h
  rw [hcs, List.cons_append] at hsize
  rw [ShortDecimal.text, hcs, List.append_assoc, List.cons_append, readNumber?_signed d.negative hc, hsize,
    ShortDecimal.ofParts_parts]

/-! ## Values -/

theorem le_of_isDigit {c : Char} (h : c.isDigit = true) : 0x20 ≤ c.toNat :=
  Nat.le_trans (by decide) (Char.isDigit_iff_toNat.1 h).1

theorem le_of_mem_intText {n : Int} {c : Char} (h : c ∈ (toString n).toList) : 0x20 ≤ c.toNat := by
  rw [toList_toString_int, List.mem_append] at h
  rcases h with h | h
  · split at h
    · rw [List.mem_singleton.1 h]
      decide
    · cases h
  · exact le_of_isDigit (isDigit_of_mem_toDigits h)

theorem le_of_mem_exponent {e : Int} {c : Char} (h : c ∈ Decimal.exponent e) : 0x20 ≤ c.toNat := by
  simp only [Decimal.exponent, List.mem_cons, List.leftpad, List.mem_append] at h
  rcases h with rfl | rfl | h | h
  · decide
  · split <;> decide
  · rw [List.eq_of_mem_replicate h]
    decide
  · exact le_of_isDigit (isDigit_of_mem_toDigits h)

theorem le_of_mem_text {d : ShortDecimal} {c : Char} (h : c ∈ d.text) : 0x20 ≤ c.toNat := by
  have hp := isReal_parts d
  rw [ShortDecimal.text, NumberParts.text, Decimal.pointed, List.mem_append, List.mem_append] at h
  rcases h with h | h | h
  · split at h
    · rw [List.mem_singleton.1 h]
      decide
    · cases h
  · split at h
    · exact le_of_isDigit (hp.whole c h)
    · rcases List.mem_append.1 h with h | h
      · exact le_of_isDigit (hp.whole c h)
      · rcases List.mem_cons.1 h with rfl | h
        · decide
        · exact le_of_isDigit (hp.fraction c h)
  · cases hpower : d.parts.power with
    | none =>
      rw [hpower] at h
      cases h
    | some e =>
      rw [hpower] at h
      exact le_of_mem_exponent h

theorem le_of_mem_writeReal {x : Floating} {c : Char} (h : c ∈ writeReal x) : 0x20 ≤ c.toNat := by
  cases x with
  | finite d => exact le_of_mem_text h
  | infinite negative =>
    revert c
    cases negative <;> simp [writeReal]
  | undefined =>
    revert c
    simp [writeReal]

mutual

/-- The text of a value holds no character below the blank. -/
theorem le_of_mem_write (v : Value) : ∀ c ∈ write v, 0x20 ≤ c.toNat := by
  cases v with
  | null => simp [write]
  | bool b => cases b <;> simp [write]
  | int n => exact fun c => le_of_mem_intText
  | real x => exact fun c => le_of_mem_writeReal
  | time plain exact => exact fun c => le_of_mem_writeText
  | text s => exact fun c => le_of_mem_writeText
  | list items =>
    cases items with
    | nil => simp [write]
    | cons v items =>
      simp only [write, List.cons_append, List.forall_mem_cons, List.forall_mem_append]
      exact ⟨by decide, le_of_mem_write v, le_of_mem_writeItems items⟩
  | record fields =>
    rcases fields with _ | ⟨⟨name, v⟩, fields⟩
    · simp [write]
    · simp only [write, List.cons_append, List.append_assoc, List.forall_mem_cons, List.forall_mem_append]
      exact ⟨by decide, fun c => le_of_mem_writeText, by decide, by decide, le_of_mem_write v,
        le_of_mem_writeFields fields⟩

theorem le_of_mem_writeItems (items : List Value) : ∀ c ∈ writeItems items, 0x20 ≤ c.toNat := by
  cases items with
  | nil => simp [writeItems]
  | cons v items =>
    simp only [writeItems, List.cons_append, List.forall_mem_cons, List.forall_mem_append]
    exact ⟨by decide, by decide, le_of_mem_write v, le_of_mem_writeItems items⟩

theorem le_of_mem_writeFields (fields : List (String × Value)) : ∀ c ∈ writeFields fields, 0x20 ≤ c.toNat := by
  rcases fields with _ | ⟨⟨name, v⟩, fields⟩
  · simp [writeFields]
  · simp only [writeFields, List.cons_append, List.append_assoc, List.forall_mem_cons, List.forall_mem_append]
    exact ⟨by decide, by decide, fun c => le_of_mem_writeText, by decide, by decide, le_of_mem_write v,
      le_of_mem_writeFields fields⟩

end

theorem isSpace_of_isDigit {c : Char} (h : c.isDigit = true) : isSpace c = false := by
  rw [Bool.eq_false_iff]
  intro hspace
  simp only [isSpace, Bool.or_eq_true, beq_iff_eq] at hspace
  rcases hspace with ((rfl | rfl) | rfl) | rfl <;> cases h

theorem skipSpace_cons {c : Char} (h : isSpace c = false) (cs : List Char) : skipSpace (c :: cs) = c :: cs := by
  simp [skipSpace, h]

theorem isSpace_of_digit {c : Char} (h : c.isDigit = true) : isSpace c = false ∧ c ≠ ']' := by
  refine ⟨isSpace_of_isDigit h, ?_⟩
  rintro rfl
  cases h

/-- The text of a value begins with a character that is neither a blank nor the end of a list. -/
theorem exists_head (v : Value) : ∃ c cs, write v = c :: cs ∧ isSpace c = false ∧ c ≠ ']' := by
  cases v with
  | null => exact ⟨_, _, rfl, rfl, by decide⟩
  | bool b => cases b <;> exact ⟨_, _, rfl, rfl, by decide⟩
  | text s => exact ⟨_, _, rfl, rfl, by decide⟩
  | time plain exact => exact ⟨_, _, rfl, rfl, by decide⟩
  | list items => cases items <;> exact ⟨_, _, rfl, rfl, by decide⟩
  | record fields => cases fields <;> exact ⟨_, _, rfl, rfl, by decide⟩
  | int n =>
    rw [write, toList_toString_int]
    split
    · exact ⟨_, _, rfl, rfl, by decide⟩
    · obtain ⟨d, ds, hd, hdigit⟩ := exists_digit n.natAbs
      exact ⟨d, ds, hd, isSpace_of_digit hdigit⟩
  | real x =>
    cases x with
    | finite d =>
      rw [write, writeReal, ShortDecimal.text]
      split
      · exact ⟨_, _, rfl, rfl, by decide⟩
      · obtain ⟨c, cs, hc, hdigit⟩ := exists_digit_text d
        exact ⟨c, cs, hc, isSpace_of_digit hdigit⟩
    | infinite negative => cases negative <;> exact ⟨_, _, rfl, rfl, by decide⟩
    | undefined => exact ⟨_, _, rfl, rfl, by decide⟩

theorem skipSpace_write (v : Value) (rest : List Char) : skipSpace (write v ++ rest) = write v ++ rest := by
  obtain ⟨c, cs, hc, hspace, -⟩ := exists_head v
  rw [hc, List.cons_append, skipSpace_cons hspace]

theorem length_write_pos (v : Value) : 0 < (write v).length := by
  obtain ⟨c, cs, hc, -⟩ := exists_head v
  rw [hc]
  exact Nat.zero_lt_succ _

/-- The text of the value is read back in front of any text that does not go on with a number. -/
def Reads (v : Value) : Prop :=
  ∀ steps rest, (write v).length ≤ steps → EndsNumber rest → readValue? steps (write v ++ rest) = some (v, rest)

/-- It is enough to look at readings that may make a step, since the text of a value is not empty. -/
theorem Reads.of_succ {v : Value}
    (h : ∀ steps rest, (write v).length ≤ steps + 1 → EndsNumber rest →
      readValue? (steps + 1) (write v ++ rest) = some (v, rest)) : Reads v := by
  intro steps rest hs hr
  cases steps with
  | zero => exact absurd hs (Nat.not_le.2 (length_write_pos v))
  | succ steps => exact h steps rest hs hr

theorem reads_text (s : String) : Reads (.text s) := by
  refine .of_succ fun steps rest hs hr => ?_
  have hread : readValue? (steps + 1) (writeText s ++ rest) = (readText? steps (writeText s ++ rest)).map _ := rfl
  rw [write, hread, readText?_writeText s rest hs]
  rfl

theorem readValue?_number {c : Char} (hc : c.isDigit = true ∨ c = '-') (steps : Nat) (cs : List Char) :
    readValue? (steps + 1) (c :: cs) = readNumber? (c :: cs) := by
  rcases hc with hc | rfl
  · rw [readValue?, skipSpace_cons (isSpace_of_isDigit hc)]
    -- no digit begins a value that is no number
    split
    case h_7 => rfl
    all_goals
      rename_i he
      cases he
      cases hc
  · rfl

/-- A value is read back that is written as a sign and digits, if it is read as a number. -/
theorem Reads.of_signed {v : Value} (negative : Bool) {c : Char} (hc : c.isDigit = true) (cs : List Char)
    (hv : write v = (if negative then ['-'] else []) ++ c :: cs)
    (hread : ∀ rest, EndsNumber rest → readNumber? (write v ++ rest) = some (v, rest)) : Reads v := by
  refine .of_succ fun steps rest _ hr => ?_
  rw [← hread rest hr, hv]
  cases negative with
  | true => exact readValue?_number (.inr rfl) steps _
  | false => exact readValue?_number (.inl hc) steps _

theorem reads_int (n : Int) : Reads (.int n) := by
  obtain ⟨d, ds, hds, hd⟩ := exists_digit n.natAbs
  refine .of_signed (decide (n < 0)) hd ds ?_ fun rest => readNumber?_toString n
  rw [write, toList_toString_int, hds]
  simp only [decide_eq_true_eq]

theorem reads_real (d : ShortDecimal) : Reads (.real (.finite d)) := by
  obtain ⟨c, cs, hcs, hc⟩ := exists_digit_text d
  refine .of_signed d.negative hc cs ?_ fun rest => readNumber?_text d
  rw [write, writeReal, ShortDecimal.text, hcs]

/-! ## Lists -/

theorem skipSpace_blank (cs : List Char) : skipSpace (' ' :: cs) = skipSpace cs := rfl

theorem readValue?_blank (steps : Nat) (cs : List Char) : readValue? steps (' ' :: cs) = readValue? steps cs := by
  cases steps with
  | zero => rfl
  | succ steps => rw [readValue?, readValue?, skipSpace_blank]

theorem readItems?_blank (steps : Nat) (cs : List Char) : readItems? steps (' ' :: cs) = readItems? steps cs := by
  cases steps with
  | zero => rfl
  | succ steps => rw [readItems?, readItems?, readValue?_blank]

theorem endsNumber_writeItems (items : List Value) (rest : List Char) : EndsNumber (writeItems items ++ rest) := by
  cases items <;> exact fun c hc => by cases hc; decide

/-- The elements of a list are read back if each of them is. -/
theorem readItems?_write {v : Value} {items : List Value} (hv : Reads v) (h : ∀ w ∈ items, Reads w) (rest : List Char)
    {steps : Nat} (hs : (write v).length + (writeItems items).length ≤ steps) :
    readItems? steps (write v ++ (writeItems items ++ rest)) = some (v :: items, rest) := by
  induction items generalizing v steps with
  | nil =>
    simp only [writeItems, List.length_singleton] at hs
    obtain ⟨steps, rfl⟩ : ∃ n, steps = n + 1 := ⟨steps - 1, by omega⟩
    have hread := hv steps (writeItems [] ++ rest) (by omega) (endsNumber_writeItems [] rest)
    rw [readItems?, hread]
    rfl
  | cons w items ih =>
    simp only [writeItems, List.cons_append, List.length_cons, List.length_append] at hs
    obtain ⟨steps, rfl⟩ : ∃ n, steps = n + 1 := ⟨steps - 1, by omega⟩
    have hread := hv steps (writeItems (w :: items) ++ rest) (by omega) (endsNumber_writeItems _ rest)
    obtain ⟨hw, h⟩ := List.forall_mem_cons.1 h
    have hitems : readItems? steps (write w ++ (writeItems items ++ rest)) = some (w :: items, rest) :=
      ih hw h (by omega)
    have hcomma : ∀ cs, skipSpace (',' :: cs) = ',' :: cs := skipSpace_cons rfl
    rw [readItems?, hread]
    simp only [writeItems, List.cons_append, List.append_assoc, Option.bind_eq_bind, Option.bind_some, hcomma,
      readItems?_blank, hitems]
    rfl

theorem reads_list {items : List Value} (h : ∀ v ∈ items, Reads v) : Reads (.list items) := by
  refine .of_succ fun steps rest hs _ => ?_
  cases items with
  | nil => rfl
  | cons v items =>
    obtain ⟨hv, h⟩ := List.forall_mem_cons.1 h
    simp only [write, List.cons_append, List.length_cons, List.length_append] at hs
    have hitems : readItems? steps (write v ++ (writeItems items ++ rest)) = some (v :: items, rest) :=
      readItems?_write hv h rest (by omega)
    obtain ⟨c, cs, hc, -, hclosed⟩ := exists_head v
    have hbracket : ∀ cs, skipSpace ('[' :: cs) = '[' :: cs := skipSpace_cons rfl
    rw [write, List.cons_append, List.cons_append, List.append_assoc, readValue?, hbracket]
    simp only [skipSpace_write]
    -- the text behind the bracket does not close the list at once
    split
    · rename_i he
      rw [hc] at he
      cases he
      exact absurd rfl hclosed
    · rw [hitems]
      rfl

/-! ## Records -/

theorem readFields?_blank (steps : Nat) (cs : List Char) : readFields? steps (' ' :: cs) = readFields? steps cs := by
  cases steps with
  | zero => rfl
  | succ steps => rw [readFields?, readFields?, skipSpace_blank]

theorem endsNumber_writeFields (fields : List (String × Value)) (rest : List Char) :
    EndsNumber (writeFields fields ++ rest) := by
  cases fields <;> exact fun c hc => by cases hc; decide

theorem skipSpace_writeText (s : String) (rest : List Char) : skipSpace (writeText s ++ rest) = writeText s ++ rest :=
  skipSpace_cons rfl _

/-- The name of a field is read. -/
theorem readText?_skipSpace {steps : Nat} {name : String} (hs : (writeText name).length ≤ steps + 1)
    (rest : List Char) : readText? steps (skipSpace (writeText name ++ rest)) = some (name, rest) := by
  rw [skipSpace_writeText, readText?_writeText name rest hs]

/-- The fields of a record are read back if the value of each of them is. -/
theorem readFields?_write {name : String} {v : Value} {fields : List (String × Value)} (hv : Reads v)
    (h : ∀ field ∈ fields, Reads field.2) (rest : List Char) {steps : Nat}
    (hs : (writeText name).length + (write v).length + (writeFields fields).length ≤ steps) :
    readFields? steps (writeText name ++ ':' :: ' ' :: (write v ++ (writeFields fields ++ rest))) =
      some ((name, v) :: fields, rest) := by
  induction fields generalizing name v steps with
  | nil =>
    simp only [writeFields, List.length_singleton] at hs
    obtain ⟨steps, rfl⟩ : ∃ n, steps = n + 1 := ⟨steps - 1, by omega⟩
    have hread := hv steps (writeFields [] ++ rest) (by omega) (endsNumber_writeFields [] rest)
    have hcolon : ∀ cs, skipSpace (':' :: cs) = ':' :: cs := skipSpace_cons rfl
    simp only [readFields?, readText?_skipSpace (by omega : (writeText name).length ≤ steps + 1),
      Option.bind_eq_bind, Option.bind_some, hcolon, readValue?_blank, hread]
    rfl
  | cons field fields ih =>
    obtain ⟨other, w⟩ := field
    simp only [writeFields, List.cons_append, List.length_cons, List.length_append] at hs
    obtain ⟨steps, rfl⟩ : ∃ n, steps = n + 1 := ⟨steps - 1, by omega⟩
    have hread := hv steps (writeFields ((other, w) :: fields) ++ rest) (by omega) (endsNumber_writeFields _ rest)
    obtain ⟨(hw : Reads w), h⟩ := List.forall_mem_cons.1 h
    have hfields : readFields? steps (writeText other ++ ':' :: ' ' :: (write w ++ (writeFields fields ++ rest))) =
        some ((other, w) :: fields, rest) := ih hw h (by omega)
    have hcolon : ∀ cs, skipSpace (':' :: cs) = ':' :: cs := skipSpace_cons rfl
    have hcomma : ∀ cs, skipSpace (',' :: cs) = ',' :: cs := skipSpace_cons rfl
    simp only [readFields?, readText?_skipSpace (by omega : (writeText name).length ≤ steps + 1),
      Option.bind_eq_bind, Option.bind_some, hcolon, readValue?_blank, hread]
    simp only [writeFields, List.cons_append, List.append_assoc, hcomma, readFields?_blank, hfields]
    rfl

theorem reads_record {fields : List (String × Value)} (hn : (fields.map (·.1)).Nodup)
    (h : ∀ field ∈ fields, Reads field.2) : Reads (.record fields) := by
  refine .of_succ fun steps rest hs _ => ?_
  rcases fields with _ | ⟨⟨name, v⟩, fields⟩
  · rfl
  · obtain ⟨(hv : Reads v), h⟩ := List.forall_mem_cons.1 h
    simp only [write, List.cons_append, List.append_assoc, List.length_cons, List.length_append] at hs
    have hfields : readFields? steps (writeText name ++ ':' :: ' ' :: (write v ++ (writeFields fields ++ rest))) =
        some ((name, v) :: fields, rest) := readFields?_write hv h rest (by omega)
    have hbrace : ∀ cs, skipSpace ('\x7b' :: cs) = '\x7b' :: cs := skipSpace_cons rfl
    simp only [write, List.cons_append, List.append_assoc, readValue?, hbrace, skipSpace_writeText]
    split
    · rename_i he
      cases he
    · rw [hfields, Option.map_some, Dictionary.ofList_of_nodup hn]

/-- A JSON value is read back in front of any text that does not go on with a number. -/
theorem reads {v : Value} (h : v.IsJson) : Reads v := by
  induction h with
  | null => exact .of_succ fun _ _ _ _ => rfl
  | bool b => cases b <;> exact .of_succ fun _ _ _ _ => rfl
  | int n => exact reads_int n
  | real d => exact reads_real d
  | text s => exact reads_text s
  | list _ ih => exact reads_list ih
  | record hn _ ih => exact reads_record hn ih

/-! ## What can be written -/

end Json
end BucketClient
