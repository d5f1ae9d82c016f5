import BucketClient.Text.Blank
import BucketClient.Text.Lines

/-!
# The ends of texts and of lines

* `Trimmed`: a text that neither begins nor ends with a character of a set. It is what trimming leaves of it with
  characters of the set around it (`trim_between`), and trimming what follows it leaves it alone (`trim_append`).
* `takeWhile_cut`, `dropWhile_cut`: a text is cut at the first occurrence of a mark.
* `filterMap_lines_ended`: the lines of a text are those of its pieces, where each piece has no line break in it and
  ends with one or more of them, for every reading of lines that passes over empty ones. What the reading makes of a
  carriage return with its line feed is then the same as what it makes of two breaks.
-/

namespace BucketClient.Text

/-! ## Trimming -/

/-- The text neither begins nor ends with a character of the set. -/
def Trimmed (p : Char → Bool) (cs : List Char) : Prop :=
  (∀ c ∈ cs.head?, p c = false) ∧ ∀ c ∈ cs.getLast?, p c = false

instance (p : Char → Bool) (cs : List Char) : Decidable (Trimmed p cs) :=
  decidable_of_iff (cs.head?.any p = false ∧ cs.getLast?.any p = false) (by simp [Trimmed, Option.any_eq_false])

section Trimming

variable {p : Char → Bool} {cs : List Char}

theorem dropWhile_of_head (h : ∀ c ∈ cs.head?, p c = false) : cs.dropWhile p = cs := by
  cases cs with
  | nil => rfl
  | cons c rest => simp [h c rfl]

theorem Trimmed.reverse (h : Trimmed p cs) : Trimmed p cs.reverse := by
  refine ⟨?_, ?_⟩
  · rw [List.head?_reverse]
    exact h.2
  · rw [List.getLast?_reverse]
    exact h.1

theorem trim_of_trimmed (h : Trimmed p cs) : trim p cs = cs := by
  rw [trim, dropWhile_of_head h.1, dropWhile_of_head h.reverse.1, List.reverse_reverse]

theorem trim_append_left {before : List Char} (h : ∀ c ∈ before, p c = true) : trim p (before ++ cs) = trim p cs := by
  rw [trim, List.dropWhile_append_of_pos h, trim]

theorem trim_append_right {after : List Char} (h : ∀ c ∈ after, p c = true) : trim p (cs ++ after) = trim p cs := by
  have hreverse : ∀ c ∈ after.reverse, p c = true := by
    intro c hc
    exact h c (List.mem_reverse.1 hc)
  unfold trim
  rw [List.dropWhile_append]
  split
  · rename_i hempty
    have hall : after.dropWhile p = [] := by simpa using @List.dropWhile_append_of_pos _ p after [] h
    rw [List.isEmpty_iff.1 hempty, hall]
  · rw [List.reverse_append, List.dropWhile_append_of_pos hreverse]

/-- What is trimmed off a trimmed text are the characters of the set around it. -/
theorem trim_between {before after : List Char} (hb : ∀ c ∈ before, p c = true) (h : Trimmed p cs)
    (ha : ∀ c ∈ after, p c = true) : trim p (before ++ (cs ++ after)) = cs := by
  rw [trim_append_left hb, trim_append_right ha, trim_of_trimmed h]

/-- A text without the characters of a set at its end. -/
def trimEnd (p : Char → Bool) (cs : List Char) : List Char :=
  (cs.reverse.dropWhile p).reverse

/-- Trimming does nothing to a trimmed text in front. -/
theorem trim_append (h : Trimmed p cs) (hne : cs ≠ []) (rest : List Char) :
    trim p (cs ++ rest) = cs ++ trimEnd p rest := by
  have hfront : (cs ++ rest).dropWhile p = cs ++ rest := by
    apply dropWhile_of_head
    cases cs with
    | nil => exact absurd rfl hne
    | cons c cs => exact h.1
  rw [trim, hfront, List.reverse_append, List.dropWhile_append, trimEnd]
  split
  · rename_i hempty
    rw [List.isEmpty_iff.1 hempty, dropWhile_of_head h.reverse.1]
    simp
  · simp

theorem trim_trimEnd (cs : List Char) : trim p (trimEnd p cs) = trim p cs := by
  have hcut : cs = trimEnd p cs ++ (cs.reverse.takeWhile p).reverse := by
    rw [trimEnd, ← List.reverse_append, List.takeWhile_append_dropWhile, List.reverse_reverse]
  have hend : ∀ c ∈ (cs.reverse.takeWhile p).reverse, p c = true := by
    intro c hc
    exact List.all_eq_true.1 List.all_takeWhile c (List.mem_reverse.1 hc)
  conv => rhs; rw [hcut]
  exact (trim_append_right hend).symm

/-- What is wrapped in one character of the set on each side comes out, if it is trimmed. -/
theorem trim_wrapped {mark : Char} (hmark : p mark = true) (h : Trimmed p cs) :
    trim p (mark :: (cs ++ [mark])) = cs := by
  have hone : ∀ c ∈ [mark], p c = true := by simp [hmark]
  exact trim_between hone h hone

/-- Trimming brings no character in. -/
theorem mem_of_mem_trim {c : Char} (h : c ∈ trim p cs) : c ∈ cs := by
  have h₁ : c ∈ (cs.dropWhile p).reverse := (List.dropWhile_sublist p).mem (List.mem_reverse.1 h)
  exact (List.dropWhile_sublist p).mem (List.mem_reverse.1 h₁)

end Trimming

/-! ## Cutting at a mark -/

section Cutting

variable {mark : Char} {before : List Char}

theorem takeWhile_cut (h : mark ∉ before) (after : List Char) :
    (before ++ mark :: after).takeWhile (· != mark) = before := by
  have hbefore : ∀ c ∈ before, (c != mark) = true := by
    intro c hc
    rw [bne_iff_ne]
    rintro rfl
    exact h hc
  rw [List.takeWhile_append_of_pos hbefore]
  simp

theorem dropWhile_cut (h : mark ∉ before) (after : List Char) :
    (before ++ mark :: after).dropWhile (· != mark) = mark :: after := by
  have hbefore : ∀ c ∈ before, (c != mark) = true := by
    intro c hc
    rw [bne_iff_ne]
    rintro rfl
    exact h hc
  rw [List.dropWhile_append_of_pos hbefore]
  simp

/-- A text with a mark in it is cut at the first one. -/
theorem exists_cut {cs : List Char} (h : mark ∈ cs) :
    ∃ after, cs = cs.takeWhile (· != mark) ++ mark :: after ∧ mark ∉ cs.takeWhile (· != mark) := by
  induction cs with
  | nil => cases h
  | cons c cs ih =>
    by_cases hc : c = mark
    · exact ⟨cs, by simp [hc], by simp [hc]⟩
    · have hmem : mark ∈ cs := by
        rcases List.mem_cons.1 h with he | hm
        · exact absurd he.symm hc
        · exact hm
      obtain ⟨after, hcut, hfree⟩ := ih hmem
      have htake : (c :: cs).takeWhile (· != mark) = c :: cs.takeWhile (· != mark) := by simp [hc]
      refine ⟨after, ?_, ?_⟩
      · rw [htake, List.cons_append, ← hcut]
      · rw [htake, List.mem_cons, not_or]
        exact ⟨fun he => hc he.symm, hfree⟩

end Cutting

/-! ## Lines -/

section Lines

variable {α : Type} {read : List Char → Option α}

/-- What does not end a line goes on with it. -/
theorem linesFrom_append {cs : List Char} (h : ∀ c ∈ cs, isLineBreak c = false) (begun rest : List Char) :
    linesFrom begun (cs ++ rest) = linesFrom (cs.reverse ++ begun) rest := by
  induction cs generalizing begun with
  | nil => rfl
  | cons c cs ih =>
    have hc : isLineBreak c = false := h c List.mem_cons_self
    have hne : c ≠ '\r' := by
      rintro rfl
      cases hc
    have hstep : linesFrom begun (c :: (cs ++ rest)) = linesFrom (c :: begun) (cs ++ rest) := by
      rw [linesFrom]
      · simp [hc]
      · intro _ hr
        exact absurd hr hne
    rw [List.cons_append, hstep, ih fun d hd => h d (List.mem_cons_of_mem _ hd)]
    simp

/-- A break ends the line that has begun. -/
theorem filterMap_linesFrom_break (hread : read [] = none) {c : Char} (h : isLineBreak c = true)
    (begun rest : List Char) :
    (linesFrom begun (c :: rest)).filterMap read = (read begun.reverse).toList ++ (lines rest).filterMap read := by
  have hcons : ∀ ls : List (List Char), (begun.reverse :: ls).filterMap read =
      (read begun.reverse).toList ++ ls.filterMap read := by
    intro ls
    rw [List.filterMap_cons]
    cases read begun.reverse <;> rfl
  by_cases hcr : ∃ rest', c = '\r' ∧ rest = '\n' :: rest'
  · obtain ⟨rest', rfl, rfl⟩ := hcr
    -- the line feed belongs to the break, and on its own it ends an empty line
    have hfeed : lines ('\n' :: rest') = [] :: lines rest' := rfl
    rw [linesFrom, hcons, hfeed, List.filterMap_cons, hread]
    rfl
  · have hstep : linesFrom begun (c :: rest) = begun.reverse :: lines rest := by
      rw [linesFrom]
      · rw [if_pos h]
        rfl
      · intro rest' hc hr
        exact hcr ⟨rest', hc, hr⟩
    rw [hstep, hcons]

theorem filterMap_lines_breaks (hread : read [] = none) {breaks : List Char}
    (h : ∀ c ∈ breaks, isLineBreak c = true) (rest : List Char) :
    (lines (breaks ++ rest)).filterMap read = (lines rest).filterMap read := by
  induction breaks with
  | nil => rfl
  | cons c breaks ih =>
    rw [List.cons_append, lines, filterMap_linesFrom_break hread (h c List.mem_cons_self), List.reverse_nil, hread]
    exact ih fun d hd => h d (List.mem_cons_of_mem _ hd)

/-- The first line of a text, up to its breaks. -/
theorem filterMap_lines_ended (hread : read [] = none) {line breaks : List Char}
    (hline : ∀ c ∈ line, isLineBreak c = false) (hne : breaks ≠ []) (hbreaks : ∀ c ∈ breaks, isLineBreak c = true)
    (rest : List Char) :
    (lines (line ++ (breaks ++ rest))).filterMap read = (read line).toList ++ (lines rest).filterMap read := by
  obtain ⟨c, breaks, rfl⟩ := List.exists_cons_of_ne_nil hne
  have hrest := filterMap_lines_breaks hread (fun d hd => hbreaks d (List.mem_cons_of_mem c hd)) rest
  rw [lines, linesFrom_append hline, List.append_nil, List.cons_append,
    filterMap_linesFrom_break hread (hbreaks c List.mem_cons_self), List.reverse_reverse, hrest]

/-- A last line that no break ends. -/
theorem filterMap_lines_last (hread : read [] = none) {line : List Char} (hline : ∀ c ∈ line, isLineBreak c = false) :
    (lines line).filterMap read = (read line).toList := by
  have hcut := linesFrom_append hline [] []
  rw [List.append_nil, List.append_nil] at hcut
  rw [lines, hcut, linesFrom]
  split
  · rename_i hempty
    rw [List.reverse_eq_nil_iff.1 (List.isEmpty_iff.1 hempty), hread]
    rfl
  · rw [List.reverse_reverse, List.filterMap_cons]
    cases read line <;> rfl

end Lines

end BucketClient.Text
