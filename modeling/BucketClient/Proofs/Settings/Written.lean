import BucketClient.Proofs.Settings.Precedence

/-!
# Written settings files

Settings files as someone writes them, and that they are read as they are meant.

* `WritableBinding`: a binding that can be written on one line; `FileLine`: a blank line, a comment or a binding with
  its layout; `SettingsFile`: lines and what ends them. They carry what a writer has to keep to.
* `FileLine.ofLine?_text`: a written line is read as the binding that was written, if any. The white space around the
  name and the value goes first, then the marks around the value, and nothing of the value goes with them.
* `addFile_written`: a written file adds its bindings, and nothing else, to an environment without their names.
-/

namespace BucketClient

open Text

/-! ## What is written -/

theorem forall_of_all {p : Char → Bool} {cs : List Char} {b : Bool} (h : (cs.all fun c => p c == b) = true) :
    ∀ c ∈ cs, p c = b := by
  simpa using h

/-- White space within a line. -/
structure Gap where
  cs : List Char := []
  blank : ∀ c ∈ cs, isBlank c = true := by exact forall_of_all (by decide)
  plain : ∀ c ∈ cs, isLineBreak c = false := by exact forall_of_all (by decide)

/-- Quotation marks of either kind. -/
def isQuote (c : Char) : Bool :=
  c == '\x22' || c == '\x27'

/-- A binding that can be written on one line: neither the name nor the value has white space at its ends, the name is
not empty, has no equals sign and does not look like a comment, and the value has no quotation mark at its ends. -/
structure WritableBinding extends Binding where
  name_ne : name ≠ "" := by decide
  name_trimmed : Trimmed isBlank name.toList := by decide
  name_unsigned : '=' ∉ name.toList := by decide
  name_uncommented : name.toList.head? ≠ some '#' := by decide
  name_plain : ∀ c ∈ name.toList, isLineBreak c = false := by exact forall_of_all (by decide)
  value_trimmed : Trimmed isBlank value.toList := by decide
  value_unquoted : Trimmed isQuote value.toList := by decide
  value_plain : ∀ c ∈ value.toList, isLineBreak c = false := by exact forall_of_all (by decide)
  nullFree : toBinding.NullFree := by decide

/-- How a value is written: as it is, or between two marks of one kind. -/
inductive Wrapping where
  | bare
  | single
  | double

/-- A text as a wrapping shows it. -/
def Wrapping.wrap (cs : List Char) : Wrapping → List Char
  | .bare => cs
  | .single => '\x27' :: (cs ++ ['\x27'])
  | .double => '\x22' :: (cs ++ ['\x22'])

/-- A line of a settings file, with the white space in it. -/
inductive FileLine where
  | blank (gap : Gap)
  | comment (gap : Gap) (cs : List Char) (plain : ∀ c ∈ cs, isLineBreak c = false)
  | binding (b : WritableBinding) (wrapping : Wrapping) (beforeName afterName beforeValue afterValue : Gap)

/-- What ends a line: one line break or more. -/
structure LineEnd where
  cs : List Char := ['\n']
  ne_nil : cs ≠ [] := by decide
  breaks : ∀ c ∈ cs, isLineBreak c = true := by exact forall_of_all (by decide)

/-- A settings file: lines with their ends, and a last line that nothing ends. -/
structure SettingsFile where
  lines : List (FileLine × LineEnd) := []
  last : FileLine := .blank {}

namespace FileLine

/-- The text of a line. -/
def text : FileLine → List Char
  | .blank gap => gap.cs
  | .comment gap cs _ => gap.cs ++ '#' :: cs
  | .binding b wrapping beforeName afterName beforeValue afterValue =>
    beforeName.cs ++ (b.name.toList ++ (afterName.cs ++
      '=' :: (beforeValue.cs ++ (wrapping.wrap b.value.toList ++ afterValue.cs))))

/-- The binding that is written on a line, if any. -/
def binding? : FileLine → Option Binding
  | .blank _ | .comment _ _ _ => none
  | .binding b _ _ _ _ _ => some b.toBinding

end FileLine

namespace SettingsFile

/-- The text of a settings file. -/
def text (file : SettingsFile) : String :=
  String.ofList (file.lines.flatMap (fun line => line.1.text ++ line.2.cs) ++ file.last.text)

/-- The bindings that are written in a settings file, in their order. -/
def bindings (file : SettingsFile) : List Binding :=
  file.lines.filterMap (fun line => line.1.binding?) ++ file.last.binding?.toList

end SettingsFile

/-! ## Wrapped values -/

section

variable {cs : List Char}

theorem Text.Trimmed.of_imp {p q : Char → Bool} (himp : ∀ c, q c = true → p c = true) (h : Trimmed p cs) :
    Trimmed q cs := by
  have hq : ∀ c, p c = false → q c = false := by
    intro c hp
    rw [Bool.eq_false_iff]
    intro hc
    rw [himp c hc] at hp
    cases hp
  exact ⟨fun c hc => hq c (h.1 c hc), fun c hc => hq c (h.2 c hc)⟩

theorem trimmed_marked {p : Char → Bool} {mark : Char} (h : p mark = false) :
    Trimmed p (mark :: (cs ++ [mark])) := by
  constructor
  · simp [h]
  · rw [← List.cons_append, List.getLast?_append]
    simp [h]

theorem trimmed_wrap (wrapping : Wrapping) (h : Trimmed isBlank cs) : Trimmed isBlank (wrapping.wrap cs) := by
  cases wrapping with
  | bare => exact h
  | single => exact trimmed_marked (by decide)
  | double => exact trimmed_marked (by decide)

/-- A wrapped text comes out as it was, if it has no mark at its ends. -/
theorem bareValue_wrap (wrapping : Wrapping) (hblank : Trimmed isBlank cs) (hquote : Trimmed isQuote cs)
    (beforeValue afterValue : Gap) :
    Binding.bareValue (beforeValue.cs ++ (wrapping.wrap cs ++ afterValue.cs)) = cs := by
  have hdouble : Trimmed (· == '\x22') cs := hquote.of_imp fun c hc => by simp [isQuote, beq_iff_eq.1 hc]
  have hsingle : Trimmed (· == '\x27') cs := hquote.of_imp fun c hc => by simp [isQuote, beq_iff_eq.1 hc]
  rw [Binding.bareValue, trim_between beforeValue.blank (trimmed_wrap wrapping hblank) afterValue.blank]
  cases wrapping with
  | bare => rw [Wrapping.wrap, trim_of_trimmed hdouble, trim_of_trimmed hsingle]
  | single => rw [Wrapping.wrap, trim_of_trimmed (trimmed_marked (by decide)), trim_wrapped (by decide) hsingle]
  | double => rw [Wrapping.wrap, trim_wrapped (by decide) hdouble, trim_of_trimmed hsingle]

theorem bareValue_trimEnd (cs : List Char) : Binding.bareValue (trimEnd isBlank cs) = Binding.bareValue cs := by
  rw [Binding.bareValue, trim_trimEnd, Binding.bareValue]

theorem plain_wrap (wrapping : Wrapping) (h : ∀ c ∈ cs, isLineBreak c = false) :
    ∀ c ∈ wrapping.wrap cs, isLineBreak c = false := by
  intro c hc
  cases wrapping with
  | bare => exact h c hc
  | _ =>
    simp only [Wrapping.wrap, List.mem_cons, List.mem_append, List.not_mem_nil, or_false] at hc
    rcases hc with rfl | hc | rfl
    · decide
    · exact h c hc
    · decide

end

/-! ## Lines -/

namespace FileLine

theorem plain_text (line : FileLine) : ∀ c ∈ line.text, isLineBreak c = false := by
  intro c hc
  cases line with
  | blank gap => exact gap.plain c hc
  | comment gap cs plain =>
    simp only [text, List.mem_append, List.mem_cons] at hc
    rcases hc with hc | rfl | hc
    · exact gap.plain c hc
    · decide
    · exact plain c hc
  | binding b wrapping beforeName afterName beforeValue afterValue =>
    simp only [text, List.mem_append, List.mem_cons] at hc
    rcases hc with hc | hc | hc | rfl | hc | hc | hc
    · exact beforeName.plain c hc
    · exact b.name_plain c hc
    · exact afterName.plain c hc
    · decide
    · exact beforeValue.plain c hc
    · exact plain_wrap wrapping b.value_plain c hc
    · exact afterValue.plain c hc

theorem ofLine?_of_blank (gap : Gap) : Binding.ofLine? gap.cs = none := by
  have htrim : trim isBlank gap.cs = [] := by
    have := @trim_append_left isBlank [] gap.cs gap.blank
    rwa [List.append_nil] at this
  simp [Binding.ofLine?, htrim]

theorem ofLine?_of_comment (gap : Gap) (cs : List Char) : Binding.ofLine? (gap.cs ++ '#' :: cs) = none := by
  have htrim : trim isBlank (gap.cs ++ '#' :: cs) = '#' :: trimEnd isBlank cs := by
    rw [trim_append_left gap.blank]
    exact @trim_append isBlank ['#'] (by decide) (by decide) cs
  simp [Binding.ofLine?, htrim]

/-- The equals sign ends the name, and what is in front of it is kept when the line is trimmed. -/
theorem trim_text (b : WritableBinding) (beforeName afterName : Gap) (rest : List Char) :
    trim isBlank (beforeName.cs ++ (b.name.toList ++ (afterName.cs ++ '=' :: rest))) =
      (b.name.toList ++ afterName.cs) ++ '=' :: trimEnd isBlank rest := by
  have hfront : Trimmed isBlank (b.name.toList ++ afterName.cs ++ ['=']) := by
    constructor
    · intro c hc
      have hne : b.name.toList ≠ [] := fun he => b.name_ne (by simpa using congrArg String.ofList he)
      obtain ⟨first, others, hname⟩ := List.exists_cons_of_ne_nil hne
      rw [hname] at hc
      exact b.name_trimmed.1 c (by rw [hname]; exact hc)
    · intro c hc
      simp only [List.getLast?_append, List.getLast?_singleton, Option.some_or, Option.mem_def,
        Option.some.injEq] at hc
      subst hc
      decide
  have hcut := trim_append hfront (by simp) rest
  rw [trim_append_left beforeName.blank]
  simpa using hcut

/-- **A written line is read as it is meant.** -/
theorem ofLine?_text (line : FileLine) : Binding.ofLine? line.text = line.binding? := by
  cases line with
  | blank gap => exact ofLine?_of_blank gap
  | comment gap cs plain => exact ofLine?_of_comment gap cs
  | binding b wrapping beforeName afterName beforeValue afterValue =>
    have hname : trim isBlank (b.name.toList ++ afterName.cs) = b.name.toList := by
      rw [trim_append_right afterName.blank, trim_of_trimmed b.name_trimmed]
    have hne : b.name.toList ≠ [] := fun he => b.name_ne (by simpa using congrArg String.ofList he)
    have hunsigned : '=' ∉ b.name.toList ++ afterName.cs := by
      rw [List.mem_append, not_or]
      refine ⟨b.name_unsigned, fun hm => ?_⟩
      have := afterName.blank '=' hm
      cases this
    have huncommented : (b.name.toList ++ afterName.cs).head? ≠ some '#' := by
      obtain ⟨first, others, hcons⟩ := List.exists_cons_of_ne_nil hne
      have := b.name_uncommented
      rw [hcons] at this ⊢
      exact this
    have hvalue : Binding.bareValue
        (trimEnd isBlank (beforeValue.cs ++ (wrapping.wrap b.value.toList ++ afterValue.cs))) = b.value.toList := by
      rw [bareValue_trimEnd, bareValue_wrap wrapping b.value_trimmed b.value_unquoted]
    rw [text, binding?, Binding.ofLine?_of_cut (trim_text b beforeName afterName _) hunsigned huncommented
      (by rw [hname]; exact hne), hname, hvalue]
    simp

end FileLine

/-! ## Files -/

theorem filterMap_lines_written (lines : List (FileLine × LineEnd)) (last : FileLine) :
    (Text.lines (lines.flatMap (fun line => line.1.text ++ line.2.cs) ++ last.text)).filterMap Binding.ofLine? =
      lines.filterMap (fun line => line.1.binding?) ++ last.binding?.toList := by
  induction lines with
  | nil =>
    rw [List.flatMap_nil, List.nil_append, filterMap_lines_last (by rfl) last.plain_text, last.ofLine?_text]
    rfl
  | cons line rest ih =>
    obtain ⟨line, ending⟩ := line
    rw [List.flatMap_cons, List.append_assoc, List.append_assoc,
      filterMap_lines_ended (by rfl) line.plain_text ending.ne_nil ending.breaks, ih, line.ofLine?_text,
      List.filterMap_cons]
    cases line.binding? <;> rfl

theorem SettingsFile.ofText_text (file : SettingsFile) : Binding.ofText file.text = file.bindings := by
  rw [Binding.ofText, text, String.toList_ofList, filterMap_lines_written]
  rfl

/-- A binding that is written has no null character in it. -/
theorem SettingsFile.nullFree_of_mem {file : SettingsFile} {b : Binding} (hb : b ∈ file.bindings) : b.NullFree := by
  have hline : ∀ line : FileLine, line.binding? = some b → b.NullFree := by
    intro line h
    cases line with
    | blank => cases h
    | comment => cases h
    | binding w =>
      cases h
      exact w.nullFree
  rw [bindings, List.mem_append, List.mem_filterMap, Option.mem_toList] at hb
  rcases hb with ⟨line, -, h⟩ | h
  · exact hline line.1 h
  · exact hline file.last h

/-- **A written file adds what is written in it**: to an environment without the names that it binds, each of them
once, its bindings are added in their order and with their values, and nothing else is. -/
theorem Environment.addFile_written (env : Environment) (file : SettingsFile)
    (hdistinct : (file.bindings.map (·.name)).Nodup) (hnew : ∀ b ∈ file.bindings, env.get? b.name = none) :
    env.addFile (some file.text.toUTF8) =
      (.ok (), ⟨env.entries ++ file.bindings.map fun b => (b.name, b.value)⟩) := by
  have hf : ∀ b ∈ file.bindings, b.fault? = none := by
    intro b hb
    have hread : b ∈ Binding.ofText file.text := by rwa [file.ofText_text]
    exact Binding.fault?_of_nullFree hread (SettingsFile.nullFree_of_mem hb)
  rw [addFile_text, file.ofText_text]
  exact addMissing_of_distinct hdistinct hnew hf

/-- A comment, a blank line and three bindings, the last of them on a line that nothing ends. -/
theorem Environment.addFile_written_of_three_bindings :
    let env : Environment := ⟨[("E", "1")]⟩
    let file : SettingsFile := {
      lines := [
        (.comment {} " A=0".toList (forall_of_all (by decide)), {}),
        (.binding { name := "A", value := "x = 'y' # z" } .double { cs := [' '] } {} { cs := ['\t'] } {},
          { cs := ['\r', '\n'] }),
        (.blank { cs := [' '] }, {}),
        (.binding { name := "B C", value := "" } .single {} { cs := [' '] } {} {}, {})
      ]
      last := .binding { name := "D", value := "=" } .bare {} {} {} { cs := [' '] }
    }
    file.text = "# A=0\n A=\t\"x = 'y' # z\"\r\n \nB C =''\nD== " ∧ (file.bindings.map (·.name)).Nodup ∧
      (∀ b ∈ file.bindings, env.get? b.name = none) ∧
      env.addFile (some file.text.toUTF8) =
        (.ok (), ⟨[("E", "1"), ("A", "x = 'y' # z"), ("B C", ""), ("D", "=")]⟩) := by
  intro env file
  have hdistinct : (file.bindings.map (·.name)).Nodup := by decide
  have hnew : ∀ b ∈ file.bindings, env.get? b.name = none := by decide
  exact ⟨by decide, hdistinct, hnew, addFile_written env file hdistinct hnew⟩

end BucketClient
