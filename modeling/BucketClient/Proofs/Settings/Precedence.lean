import BucketClient.Proofs.Text.Ends
import BucketClient.Settings.Environment

/-!
# Environments and settings files

What an environment holds after a settings file was added to it.

* `Binding.IsGivenBy`: what it takes for a line to give a binding, said of the line. It is what is read off the line
  (`ofLine?_eq_some_iff`). `Binding.FirstIn`: a line of a text is the first to bind a name, and to a value.
* `takenOver_addMissing`: bindings are taken over up to the first new one that the environment refuses. A name that the
  environment has keeps its value; any other name gets the value of its first binding among those taken over.
* `load_load`: what has been loaded is loaded once more with the same outcome.
* `addFile_precedence`: so names of the environment come before those of the file, and the first line before later ones.
-/

namespace BucketClient

namespace Binding

/-! ## The bindings of a text -/

/-- The value that the first binding of a name gives it. -/
def valueIn (bindings : List Binding) (name : String) : Option String :=
  (bindings.find? fun b => b.name == name).map (·.value)

@[simp] theorem valueIn_nil (name : String) : valueIn [] name = none := rfl

theorem valueIn_cons (b : Binding) (rest : List Binding) (name : String) :
    valueIn (b :: rest) name = if b.name = name then some b.value else valueIn rest name := by
  by_cases h : b.name = name <;> simp [valueIn, h]

theorem isSome_valueIn_of_mem {b : Binding} {bindings : List Binding} (h : b ∈ bindings) :
    (valueIn bindings b.name).isSome = true := by
  rw [valueIn, Option.isSome_map, List.find?_isSome]
  exact ⟨b, h, beq_self_eq_true b.name⟩

/-- The line gives the binding: without the white space around it, it is no comment, and it consists of a name with
white space around it, the first equals sign and the value. -/
def IsGivenBy (b : Binding) (line : List Char) : Prop :=
  ∃ before after, Text.trim Text.isBlank line = before ++ '=' :: after ∧ '=' ∉ before ∧ before.head? ≠ some '#' ∧
    b.name.toList = Text.trim Text.isBlank before ∧ b.name ≠ "" ∧ b.value.toList = bareValue after

/-- Some line of the text gives the name this value, and no line before it gives the name one. -/
def FirstIn (text name value : String) : Prop :=
  ∃ earlier line later, Text.lines text.toList = earlier ++ line :: later ∧ IsGivenBy ⟨name, value⟩ line ∧
    ∀ l ∈ earlier, ∀ v, ¬IsGivenBy ⟨name, v⟩ l

/-- Neither the name nor the value holds a null character. -/
def NullFree (b : Binding) : Prop :=
  '\x00' ∉ b.name.toList ∧ '\x00' ∉ b.value.toList

instance (b : Binding) : Decidable b.NullFree :=
  inferInstanceAs (Decidable ('\x00' ∉ b.name.toList ∧ '\x00' ∉ b.value.toList))

theorem ofLine?_of_cut {line before after : List Char} (hline : Text.trim Text.isBlank line = before ++ '=' :: after)
    (hfree : '=' ∉ before) (hcomment : before.head? ≠ some '#') (hname : Text.trim Text.isBlank before ≠ []) :
    ofLine? line = some ⟨String.ofList (Text.trim Text.isBlank before), String.ofList (bareValue after)⟩ := by
  have hhead : (before ++ '=' :: after).head? ≠ some '#' := by
    cases before with
    | nil => simp
    | cons c rest => simpa using hcomment
  simp only [ofLine?, hline, Text.takeWhile_cut hfree, Text.dropWhile_cut hfree]
  rw [if_neg]
  · rfl
  · rw [Bool.or_eq_true, Bool.or_eq_true, not_or, not_or, beq_iff_eq]
    exact ⟨⟨hhead, by simp⟩, by simpa using hname⟩

theorem ofLine?_eq_some_iff {line : List Char} {b : Binding} : ofLine? line = some b ↔ b.IsGivenBy line := by
  constructor
  · intro h
    simp only [ofLine?] at h
    split at h
    · cases h
    · rename_i hnot
      simp only [Bool.or_eq_true, beq_iff_eq, Bool.not_eq_true', not_or, Bool.not_eq_false, List.isEmpty_iff,
        List.contains_iff_mem] at hnot
      obtain ⟨⟨hcomment, hmark⟩, hname⟩ := hnot
      obtain ⟨after, hcut, hfree⟩ := Text.exists_cut hmark
      generalize hbefore : (Text.trim Text.isBlank line).takeWhile (· != '=') = before at hcut hfree hname h
      rw [hcut, Text.dropWhile_cut hfree] at h
      cases h
      refine ⟨before, after, hcut, hfree, ?_, String.toList_ofList, ?_, String.toList_ofList⟩
      · intro hhead
        apply hcomment
        rw [hcut, List.head?_append, hhead]
        rfl
      · intro he
        apply hname
        simpa using congrArg String.toList he
  · rintro ⟨before, after, hline, hfree, hcomment, hname, hne, hvalue⟩
    have htrim : Text.trim Text.isBlank before ≠ [] := by
      intro he
      apply hne
      rw [← String.toList_inj, hname, he]
      rfl
    rw [ofLine?_of_cut hline hfree hcomment htrim, ← hname, ← hvalue]
    simp

theorem valueIn_ofText_iff {text name value : String} :
    valueIn (ofText text) name = some value ↔ FirstIn text name value := by
  have hgives : ∀ (line : List Char) (n : String), (ofLine? line).any (fun b => b.name == n) = true ↔
      ∃ v, IsGivenBy ⟨n, v⟩ line := by
    intro line n
    constructor
    · intro h
      obtain ⟨b, hb, hn⟩ := (Option.any_eq_true _ _).1 h
      exact ⟨b.value, by rw [← beq_iff_eq.1 hn]; exact ofLine?_eq_some_iff.1 hb⟩
    · rintro ⟨v, hv⟩
      rw [ofLine?_eq_some_iff.2 hv]
      simp
  rw [valueIn, ofText, List.find?_filterMap, Option.map_eq_some_iff]
  constructor
  · rintro ⟨b, hb, rfl⟩
    obtain ⟨line, hline, hbinding⟩ := Option.bind_eq_some_iff.1 hb
    obtain ⟨hany, earlier, later, hcut, hfirst⟩ := List.find?_eq_some_iff_append.1 hline
    have hname : b.name = name := by
      rw [hbinding] at hany
      simpa using hany
    refine ⟨earlier, line, later, hcut, ?_, ?_⟩
    · rw [← hname]
      exact ofLine?_eq_some_iff.1 hbinding
    · intro l hl v hv
      have hno := hfirst l hl
      rw [(hgives l name).2 ⟨v, hv⟩] at hno
      cases hno
  · rintro ⟨earlier, line, later, hcut, hgiven, hfirst⟩
    refine ⟨⟨name, value⟩, Option.bind_eq_some_iff.2 ⟨line, ?_, ofLine?_eq_some_iff.2 hgiven⟩, rfl⟩
    refine List.find?_eq_some_iff_append.2 ⟨(hgives line name).2 ⟨value, hgiven⟩, earlier, later, hcut, ?_⟩
    intro l hl
    rw [Bool.not_eq_true', ← Bool.not_eq_true, hgives]
    rintro ⟨v, hv⟩
    exact hfirst l hl v hv

/-- The environment refuses a binding of a text only for a null character. -/
theorem fault?_of_nullFree {text : String} {b : Binding} (hb : b ∈ ofText text) (h : b.NullFree) : b.fault? = none := by
  obtain ⟨line, -, hline⟩ := List.mem_filterMap.1 hb
  obtain ⟨before, after, -, hfree, -, hname, hne, -⟩ := ofLine?_eq_some_iff.1 hline
  have hsign : '=' ∉ b.name.toList := by
    rw [hname]
    intro hm
    exact hfree (Text.mem_of_mem_trim hm)
  simp [fault?, h.1, h.2, hsign, hne]

end Binding

namespace Environment

open Binding

variable {env : Environment} {b : Binding} {rest : List Binding}

/-! ## One binding -/

theorem contains_eq_true_iff {name : String} : env.contains name = true ↔ (env.get? name).isSome = true := Iff.rfl

theorem contains_eq_false_iff {name : String} : env.contains name = false ↔ env.get? name = none := by
  rw [Dictionary.contains, Option.isSome_eq_false_iff, Option.isNone_iff_eq_none]

theorem addMissing_of_contains (h : env.contains b.name = true) : env.addMissing (b :: rest) = env.addMissing rest := by
  rw [addMissing, if_pos h]

theorem addMissing_of_fault {e : Failure} (hnew : env.contains b.name = false) (hf : b.fault? = some e) :
    env.addMissing (b :: rest) = (.error e, env) := by
  simp [addMissing, hnew, assign, hf]

theorem addMissing_of_new (hnew : env.contains b.name = false) (hf : b.fault? = none) :
    env.addMissing (b :: rest) = addMissing (env.insert b.name b.value) rest := by
  simp [addMissing, hnew, assign, hf]

/-! ## All bindings of a file -/

/-- Of some bindings, these are taken over with this outcome: all of them, or those in front of a new one that is
refused. -/
inductive TakenOver (env : Environment) : List Binding → List Binding → Except Failure Unit → Prop
  | all (bindings : List Binding) : TakenOver env bindings bindings (.ok ())
  | refused {taken : List Binding} {b : Binding} {e : Failure} (rest : List Binding) (hnew : env.get? b.name = none)
      (hfirst : valueIn taken b.name = none) (hf : b.fault? = some e) :
      TakenOver env (taken ++ b :: rest) taken (.error e)

/-- Bindings are taken over behind one of a name that the environment has. -/
theorem TakenOver.cons_of_some {bindings taken : List Binding} {outcome : Except Failure Unit}
    (h : TakenOver env bindings taken outcome) (hb : env.contains b.name = true) :
    TakenOver env (b :: bindings) (b :: taken) outcome := by
  cases h with
  | all => exact .all _
  | @refused _ b' _ rest hnew hfirst hf =>
    have hne : b.name ≠ b'.name := by
      intro he
      rw [contains_eq_true_iff, he, hnew] at hb
      cases hb
    exact @refused env (b :: taken) b' _ rest hnew (by rw [valueIn_cons, if_neg hne, hfirst]) hf

/-- Bindings are taken over behind a new one. -/
theorem TakenOver.cons_of_insert {bindings taken : List Binding} {outcome : Except Failure Unit}
    (h : TakenOver (env.insert b.name b.value) bindings taken outcome) :
    TakenOver env (b :: bindings) (b :: taken) outcome := by
  cases h with
  | all => exact .all _
  | @refused _ b' _ rest hnew hfirst hf =>
    rw [Dictionary.get?_insert] at hnew
    by_cases he : b'.name = b.name
    · rw [if_pos he] at hnew
      cases hnew
    · rw [if_neg he] at hnew
      have hne : b.name ≠ b'.name := fun h => he h.symm
      exact @refused env (b :: taken) b' _ rest hnew (by rw [valueIn_cons, if_neg hne, hfirst]) hf

/-- Without a failure, all bindings are taken over. -/
theorem TakenOver.eq_of_ok {bindings taken : List Binding} (h : TakenOver env bindings taken (.ok ())) :
    taken = bindings := by
  generalize hok : (Except.ok () : Except Failure Unit) = outcome at h
  cases h with
  | all => rfl
  | refused => cases hok

/-- **What is taken over of bindings**, and what the environment holds then. -/
theorem takenOver_addMissing (env : Environment) (bindings : List Binding) :
    ∃ taken, TakenOver env bindings taken (env.addMissing bindings).1 ∧
      (∀ name, (env.addMissing bindings).2.get? name = (env.get? name).or (valueIn taken name)) ∧
      ((∀ b ∈ taken, env.contains b.name = true) → (env.addMissing bindings).2 = env) := by
  induction bindings generalizing env with
  | nil => exact ⟨[], .all [], by simp [addMissing], fun _ => rfl⟩
  | cons b rest ih =>
    cases hc : env.contains b.name with
    | true =>
      obtain ⟨taken, htaken, hget, hsame⟩ := ih env
      rw [addMissing_of_contains hc]
      refine ⟨b :: taken, htaken.cons_of_some hc, ?_, fun h => hsame fun b' hb' => h b' (List.mem_cons_of_mem _ hb')⟩
      intro name
      rw [hget, valueIn_cons]
      split
      · rename_i he
        obtain ⟨v, hv⟩ := Option.isSome_iff_exists.1 (contains_eq_true_iff.1 hc)
        rw [← he, hv, Option.some_or, Option.some_or]
      · rfl
    | false =>
      have hnew : env.get? b.name = none := contains_eq_false_iff.1 hc
      cases hf : b.fault? with
      | some e =>
        rw [addMissing_of_fault hc hf]
        exact ⟨[], .refused rest hnew (valueIn_nil _) hf, by simp, fun _ => rfl⟩
      | none =>
        obtain ⟨taken, htaken, hget, -⟩ := ih (env.insert b.name b.value)
        rw [addMissing_of_new hc hf]
        refine ⟨b :: taken, htaken.cons_of_insert, ?_, fun h => ?_⟩
        · intro name
          rw [hget, Dictionary.get?_insert, valueIn_cons]
          by_cases he : name = b.name
          · rw [he, if_pos rfl, if_pos rfl, hnew, Option.some_or, Option.none_or]
          · rw [if_neg he, if_neg fun h => he h.symm]
        · have hb := h b List.mem_cons_self
          rw [hc] at hb
          cases hb

/-- Bindings of names that the environment has change nothing. -/
theorem addMissing_of_forall_contains {bindings : List Binding} (h : ∀ b ∈ bindings, env.contains b.name = true) :
    env.addMissing bindings = (.ok (), env) := by
  induction bindings with
  | nil => rfl
  | cons b rest ih =>
    rw [addMissing_of_contains (h b List.mem_cons_self)]
    exact ih fun b' hb' => h b' (List.mem_cons_of_mem _ hb')

/-- New bindings of different names are added behind the others. -/
theorem addMissing_of_distinct {bindings : List Binding} (hdistinct : (bindings.map (·.name)).Nodup)
    (hnew : ∀ b ∈ bindings, env.get? b.name = none) (hf : ∀ b ∈ bindings, b.fault? = none) :
    env.addMissing bindings = (.ok (), ⟨env.entries ++ bindings.map fun b => (b.name, b.value)⟩) := by
  induction bindings generalizing env with
  | nil => simp [addMissing]
  | cons b rest ih =>
    rw [List.map_cons, List.nodup_cons] at hdistinct
    have hb : env.get? b.name = none := hnew b List.mem_cons_self
    have hinsert := Dictionary.insert_of_get?_eq_none b.value hb
    have hrest : ∀ b' ∈ rest, (env.insert b.name b.value).get? b'.name = none := by
      intro b' hb'
      have hne : b'.name ≠ b.name := fun he => hdistinct.1 (he ▸ List.mem_map_of_mem hb')
      rw [Dictionary.get?_insert_of_ne env b.value hne]
      exact hnew b' (List.mem_cons_of_mem _ hb')
    rw [addMissing_of_new (contains_eq_false_iff.2 hb) (hf b List.mem_cons_self),
      ih hdistinct.2 hrest fun b' hb' => hf b' (List.mem_cons_of_mem _ hb'), hinsert]
    simp

/-- Names that were bound without a failure are there. -/
theorem contains_of_addMissing {bindings : List Binding} (h : (env.addMissing bindings).1 = .ok ()) :
    ∀ b ∈ bindings, (env.addMissing bindings).2.contains b.name = true := by
  intro b hb
  obtain ⟨taken, htaken, hget, -⟩ := takenOver_addMissing env bindings
  rw [h] at htaken
  rw [contains_eq_true_iff, hget, htaken.eq_of_ok, Option.isSome_or, isSome_valueIn_of_mem hb, Bool.or_true]

/-! ## Settings files -/

theorem fromUTF8?_toUTF8 (text : String) : String.fromUTF8? text.toUTF8 = some text := by
  rw [String.toUTF8_eq_toByteArray, String.fromUTF8?, dif_pos text.isValidUTF8]
  rfl

theorem addFile_text (env : Environment) (text : String) :
    env.addFile (some text.toUTF8) = env.addMissing (Binding.ofText text) := by
  simp only [addFile, fromUTF8?_toUTF8]

/-- A file that was added without a failure is added once more without a change. -/
theorem addFile_addFile {file : Option ByteArray} {after : Environment} (h : env.addFile file = (.ok (), after)) :
    after.addFile file = (.ok (), after) := by
  cases file with
  | none => rfl
  | some bytes =>
    unfold addFile at h ⊢
    cases htext : String.fromUTF8? bytes with
    | none => simp [htext] at h
    | some text =>
      simp only [htext] at h ⊢
      apply addMissing_of_forall_contains
      intro b hb
      have hthere := contains_of_addMissing (congrArg Prod.fst h) b hb
      rw [h] at hthere
      exact hthere

end Environment

open Environment

section

variable {file : Option ByteArray} {env after : Environment}

theorem Settings.load_of_added (h : env.addFile file = (.ok (), after)) :
    Settings.load file env = (after.settings, after) := by
  simp only [Settings.load, h]

theorem Settings.load_of_not_added {e : Failure} (h : env.addFile file = (.error e, after)) :
    Settings.load file env = (.error e, after) := by
  simp only [Settings.load, h]

/-- What has been loaded is loaded once more with the same outcome. -/
theorem Settings.load_load {settings : Settings} (h : Settings.load file env = (.ok settings, after)) :
    Settings.load file after = (.ok settings, after) := by
  cases hadd : env.addFile file with
  | mk outcome env' =>
    cases outcome with
    | error e =>
      rw [load_of_not_added hadd] at h
      cases h
    | ok =>
      rw [load_of_added hadd] at h
      have hafter : env' = after := congrArg Prod.snd h
      subst hafter
      rw [load_of_added (addFile_addFile hadd)]
      exact h

/-- **What an environment holds after a settings file**, none of whose bindings holds a null character. A name has a
value iff it had this value before, or it had none and the first line that binds it gives it this value. The same file
once more changes nothing, and loading the settings once more leads to the same settings and the same environment. -/
theorem Environment.addFile_precedence (env : Environment) (text : String)
    (h : ∀ b ∈ Binding.ofText text, b.NullFree) :
    let file := some text.toUTF8
    let after := (env.addFile file).2
    (env.addFile file).1 = .ok () ∧
    (∀ name value, after.get? name = some value ↔
      env.get? name = some value ∨ env.get? name = none ∧ Binding.FirstIn text name value) ∧
    after.addFile file = (.ok (), after) ∧
    ∀ settings env', Settings.load file env = (.ok settings, env') →
      env' = after ∧ Settings.load file env' = (.ok settings, env') := by
  intro file after
  obtain ⟨taken, htaken, hget, -⟩ := takenOver_addMissing env (Binding.ofText text)
  have hfile : env.addFile file = env.addMissing (Binding.ofText text) := addFile_text env text
  have hadded : (env.addFile file).1 = .ok () ∧ taken = Binding.ofText text := by
    rw [hfile]
    generalize (env.addMissing (Binding.ofText text)).1 = outcome at htaken
    generalize hbs : Binding.ofText text = bindings at htaken
    cases htaken with
    | all => exact ⟨rfl, rfl⟩
    | @refused _ b e rest hnew hfirst hf =>
      have hb : b ∈ Binding.ofText text := by
        rw [hbs]
        simp
      rw [Binding.fault?_of_nullFree hb (h b hb)] at hf
      cases hf
  obtain ⟨hok, rfl⟩ := hadded
  have heq : env.addFile file = (.ok (), after) := Prod.ext hok rfl
  refine ⟨hok, ?_, addFile_addFile heq, ?_⟩
  · intro name value
    have hname : after.get? name = (env.get? name).or (Binding.valueIn (Binding.ofText text) name) := by
      rw [← hget name, ← hfile]
    rw [hname, Option.or_eq_some_iff, Binding.valueIn_ofText_iff]
  · intro settings env' hload
    refine ⟨?_, Settings.load_load hload⟩
    rw [Settings.load_of_added heq] at hload
    exact (congrArg Prod.snd hload).symm

/-- The environment has an empty value for the name A, and the file binds A once and B twice. -/
theorem Environment.addFile_precedence_of_repeated_name :
    let env : Environment := .ofList [("A", "")]
    let text := "# kept\nA=1\n B = '2'\nB=3\n=4"
    let after := (env.addFile (some text.toUTF8)).2
    (∀ b ∈ Binding.ofText text, b.NullFree) ∧ after.get? "A" = some "" ∧ after.get? "B" = some "2" ∧
      after.addFile (some text.toUTF8) = (.ok (), after) := by
  intro env text after
  have hfree : ∀ b ∈ Binding.ofText text, b.NullFree := by decide
  obtain ⟨-, hget, hagain, -⟩ := addFile_precedence env text hfree
  refine ⟨hfree, (hget "A" "").2 (.inl (by decide)), (hget "B" "2").2 (.inr ⟨by decide, ?_⟩), hagain⟩
  exact Binding.valueIn_ofText_iff.1 (by decide)

end

end BucketClient
