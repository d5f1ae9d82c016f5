import BucketClient.Proofs.Settings.Precedence

/-!
# What a failed load leaves behind

Loading settings adds the settings file to the environment before the settings are read, and nothing is taken back when
that fails.

* `Binding.ofFile`: the bindings of a settings file, none if there is no file or it is not UTF-8.
* `settings_congr`: settings are read from the values of nine names (`Settings.names`).
* `Alike`: two environments to which the same bindings are still to be added, so that the same settings will be read
  from them. One more binding keeps them alike (`Alike.step`), so adding all of them has the same outcome
  (`addMissing_of_alike`).
* `Settings.load_of_failure`: what is in the environment after a failed load, and when the next load goes as if the
  failed one had not been made.
-/

namespace BucketClient

open Environment

/-! ## The bindings of a file -/

/-- The bindings of a settings file; a file that is not UTF-8 has none. -/
def Binding.ofFile : Option ByteArray → List Binding
  | none => []
  | some bytes => (String.fromUTF8? bytes).elim [] Binding.ofText

/-- A file is not UTF-8, or its bindings are added. -/
theorem Environment.addFile_cases (file : Option ByteArray) :
    (Binding.ofFile file = [] ∧ ∀ env : Environment, env.addFile file = (.error .undecodable, env)) ∨
      ∀ env : Environment, env.addFile file = env.addMissing (Binding.ofFile file) := by
  cases file with
  | none => exact .inr fun env => rfl
  | some bytes =>
    cases htext : String.fromUTF8? bytes with
    | none =>
      left
      simp [Binding.ofFile, addFile, htext]
    | some text =>
      right
      simp [Binding.ofFile, addFile, htext]

/-! ## The names of settings -/

/-- The names that settings are read from. -/
def Settings.names : List String :=
  ["S3_ENDPOINT_URL", "S3_REGION", "S3_ACCESS_KEY_ID", "S3_SECRET_ACCESS_KEY", "S3_USE_SSL", "S3_ADDRESSING_STYLE",
    "S3_CONTENT_TYPE", "S3_LIST_MAX_KEYS", "ENABLE_METRICS"]

/-- The same settings are read from environments that agree on their names. -/
theorem Environment.settings_congr {env env' : Environment}
    (h : ∀ name ∈ Settings.names, env.get? name = env'.get? name) : env.settings = env'.settings := by
  simp only [Settings.names, List.forall_mem_cons] at h
  obtain ⟨h₁, h₂, h₃, h₄, h₅, h₆, h₇, h₈, h₉, -⟩ := h
  simp only [settings, h₁, h₂, h₃, h₄, h₅, h₆, h₇, h₈, h₉]

/-! ## Environments that are alike -/

/-- The bindings make up for a value of a name in one environment that the other one lacks: they give the name this
value first, or no setting is read from the name, and they are not refused there. -/
def Binding.MakesUp (bindings : List Binding) (name value : String) : Prop :=
  valueIn bindings name = some value ∨
    name ∉ Settings.names ∧ ∀ b ∈ bindings, b.name = name → b.fault? = none

section

variable {b : Binding} {rest : List Binding} {value : String}

/-- Bindings of other names still make up for a value. -/
theorem Binding.MakesUp.of_cons {name : String} (h : MakesUp (b :: rest) name value) (hne : b.name ≠ name) :
    MakesUp rest name value := by
  rcases h with h | ⟨hunread, hf⟩
  · rw [valueIn_cons, if_neg hne] at h
    exact .inl h
  · exact .inr ⟨hunread, fun b' hb' => hf b' (List.mem_cons_of_mem _ hb')⟩

/-- A binding that makes up for a value of its name is not refused. -/
theorem Binding.MakesUp.fault?_eq_none (h : MakesUp (b :: rest) b.name value)
    (hf : (⟨b.name, value⟩ : Binding).fault? = none) : b.fault? = none := by
  rcases h with hfirst | ⟨-, hall⟩
  · rw [valueIn_cons, if_pos rfl] at hfirst
    cases hfirst
    exact hf
  · exact hall b List.mem_cons_self rfl

end

namespace Environment

open Binding

/-- No setting is read from the name, and it has a value in both environments. -/
def Idle (env env' : Environment) (name : String) : Prop :=
  name ∉ Settings.names ∧ env.contains name = true ∧ env'.contains name = true

/-- The same settings will be read from the two environments when the bindings have been added to both. A name has the
same value in both; or no setting is read from it, and it has one in both; or it has a value only in the first one, and
the bindings make up for it. -/
def Alike (bindings : List Binding) (env env' : Environment) : Prop :=
  ∀ name, (env.get? name = env'.get? name ∨ Idle env env' name) ∨
    ∃ value, env.get? name = some value ∧ env'.get? name = none ∧ (⟨name, value⟩ : Binding).fault? = none ∧
      MakesUp bindings name value

variable {env env' : Environment} {b : Binding} {rest : List Binding}

/-- Environments stay alike when a binding is done with, and only its name may have changed in them. -/
theorem Alike.step (h : Alike (b :: rest) env env') {next next' : Environment}
    (hother : ∀ name, name ≠ b.name → next.get? name = env.get? name ∧ next'.get? name = env'.get? name)
    (hname : next.get? b.name = next'.get? b.name ∨ Idle next next' b.name) : Alike rest next next' := by
  intro name
  by_cases he : name = b.name
  · rw [he]
    exact .inl hname
  · obtain ⟨hget, hget'⟩ := hother name he
    rw [Idle, contains_eq_true_iff, contains_eq_true_iff, hget, hget']
    refine (h name).imp id ?_
    rintro ⟨value, hv, hnone, hf, hup⟩
    exact ⟨value, hv, hnone, hf, hup.of_cons fun h => he h.symm⟩

/-- They do when the binding is passed over in both. -/
theorem Alike.skip (h : Alike (b :: rest) env env')
    (hname : env.get? b.name = env'.get? b.name ∨ Idle env env' b.name) : Alike rest env env' :=
  h.step (fun _ _ => ⟨rfl, rfl⟩) hname

/-- They do when the binding is added to both. -/
theorem Alike.insert_both (h : Alike (b :: rest) env env') :
    Alike rest (env.insert b.name b.value) (env'.insert b.name b.value) := by
  apply h.step
  · intro name he
    exact ⟨Dictionary.get?_insert_of_ne _ _ he, Dictionary.get?_insert_of_ne _ _ he⟩
  · left
    rw [Dictionary.get?_insert_self, Dictionary.get?_insert_self]

/-- They do when the binding is added to the second one and makes up for the value in the first one. -/
theorem Alike.insert_second (h : Alike (b :: rest) env env') {value : String} (hv : env.get? b.name = some value)
    (hup : MakesUp (b :: rest) b.name value) : Alike rest env (env'.insert b.name b.value) := by
  apply h.step
  · intro name he
    exact ⟨rfl, Dictionary.get?_insert_of_ne _ _ he⟩
  · rcases hup with hfirst | ⟨hunread, -⟩
    · rw [valueIn_cons, if_pos rfl] at hfirst
      left
      rw [hv, Dictionary.get?_insert_self, hfirst]
    · right
      rw [Idle, contains_eq_true_iff, contains_eq_true_iff, hv, Dictionary.get?_insert_self]
      exact ⟨hunread, rfl, rfl⟩

/-- **Adding bindings to environments that are alike has the same outcome**, and if it succeeds, then the same settings
are read from both. -/
theorem addMissing_of_alike {bindings : List Binding} (h : Alike bindings env env') :
    (env.addMissing bindings).1 = (env'.addMissing bindings).1 ∧
      ((env.addMissing bindings).1 = .ok () →
        (env.addMissing bindings).2.settings = (env'.addMissing bindings).2.settings) := by
  induction bindings generalizing env env' with
  | nil =>
    refine ⟨rfl, fun _ => settings_congr fun name hread => ?_⟩
    rcases h name with (hsame | ⟨hunread, -⟩) | ⟨value, -, -, -, hfirst | ⟨hunread, -⟩⟩
    · exact hsame
    · exact absurd hread hunread
    · cases hfirst
    · exact absurd hread hunread
  | cons b rest ih =>
    rcases h b.name with (hsame | hidle) | ⟨value, hv, hnone, hf, hup⟩
    · cases hc : env.contains b.name with
      | true =>
        have hc' : env'.contains b.name = true := by rwa [contains_eq_true_iff, ← hsame]
        rw [addMissing_of_contains hc, addMissing_of_contains hc']
        exact ih (h.skip (.inl hsame))
      | false =>
        have hc' : env'.contains b.name = false := by
          rw [contains_eq_false_iff] at hc ⊢
          rw [← hsame, hc]
        cases hf : b.fault? with
        | some e =>
          rw [addMissing_of_fault hc hf, addMissing_of_fault hc' hf]
          exact ⟨rfl, fun he => nomatch he⟩
        | none =>
          rw [addMissing_of_new hc hf, addMissing_of_new hc' hf]
          exact ih h.insert_both
    · rw [addMissing_of_contains hidle.2.1, addMissing_of_contains hidle.2.2]
      exact ih (h.skip (.inr hidle))
    · have hc : env.contains b.name = true := by
        rw [contains_eq_true_iff, hv]
        rfl
      rw [addMissing_of_contains hc, addMissing_of_new (contains_eq_false_iff.2 hnone) (hup.fault?_eq_none hf)]
      exact ih (h.insert_second hv hup)

/-- What bindings have added was not refused. -/
theorem fault?_of_added {bindings : List Binding} {name value : String}
    (h : (env.addMissing bindings).2.get? name = some value) :
    env.get? name = some value ∨ (⟨name, value⟩ : Binding).fault? = none := by
  induction bindings generalizing env with
  | nil => exact .inl h
  | cons b rest ih =>
    cases hc : env.contains b.name with
    | true =>
      rw [addMissing_of_contains hc] at h
      exact ih h
    | false =>
      cases hf : b.fault? with
      | some e =>
        rw [addMissing_of_fault hc hf] at h
        exact .inl h
      | none =>
        rw [addMissing_of_new hc hf] at h
        rcases ih h with hget | hfree
        · by_cases he : name = b.name
          · rw [he, Dictionary.get?_insert_self] at hget
            cases hget
            rw [he]
            exact .inr hf
          · rw [Dictionary.get?_insert_of_ne _ _ he] at hget
            exact .inl hget
        · exact .inr hfree

end Environment

/-! ## Failed loads -/

section

variable {file : Option ByteArray} {env : Environment} {e : Failure}

/-- Loading from environments that are alike gives the same settings, or fails alike. -/
theorem Settings.load_of_alike {env' : Environment} (h : Alike (Binding.ofFile file) env env') :
    (Settings.load file env).1 = (Settings.load file env').1 := by
  rcases addFile_cases file with ⟨-, hundecodable⟩ | hadd
  · rw [load_of_not_added (hundecodable env), load_of_not_added (hundecodable env')]
  · obtain ⟨houtcome, hsettings⟩ := addMissing_of_alike h
    cases hbs : env.addMissing (Binding.ofFile file) with
    | mk outcome after =>
      cases hbs' : env'.addMissing (Binding.ofFile file) with
      | mk outcome' after' =>
        rw [hbs, hbs'] at houtcome hsettings
        have hsame : outcome = outcome' := houtcome
        subst hsame
        cases outcome with
        | error e =>
          rw [load_of_not_added ((hadd env).trans hbs), load_of_not_added ((hadd env').trans hbs')]
        | ok =>
          rw [load_of_added ((hadd env).trans hbs), load_of_added ((hadd env').trans hbs')]
          exact hsettings rfl

/-- What a load adds to the environment are bindings of the file: all of them, or those in front of the one that the
environment refuses. -/
theorem Settings.taken_of_failure (h : (Settings.load file env).1 = .error e) :
    ∃ taken, (taken = Binding.ofFile file ∨ TakenOver env (Binding.ofFile file) taken (.error e)) ∧
      (∀ name, (Settings.load file env).2.get? name = (env.get? name).or (Binding.valueIn taken name)) ∧
      ((∀ b ∈ taken, env.contains b.name = true) → (Settings.load file env).2 = env) := by
  rcases addFile_cases file with ⟨hnone, hundecodable⟩ | hadd
  · rw [load_of_not_added (hundecodable env)]
    exact ⟨[], .inl hnone.symm, by simp, fun _ => rfl⟩
  · obtain ⟨taken, htaken, hget, hsame⟩ := takenOver_addMissing env (Binding.ofFile file)
    cases hbs : env.addMissing (Binding.ofFile file) with
    | mk outcome after =>
      rw [hbs] at htaken hget hsame
      cases outcome with
      | error e' =>
        rw [load_of_not_added ((hadd env).trans hbs)] at h ⊢
        cases h
        exact ⟨taken, .inr htaken, hget, hsame⟩
      | ok =>
        rw [load_of_added ((hadd env).trans hbs)]
        exact ⟨taken, .inl htaken.eq_of_ok, hget, hsame⟩

/-- What a load has added was not refused. -/
theorem Settings.fault?_of_left {name value : String} (hnew : env.get? name = none)
    (h : (Settings.load file env).2.get? name = some value) : (⟨name, value⟩ : Binding).fault? = none := by
  have hafter : (Settings.load file env).2 = (env.addFile file).2 := by
    unfold load
    split <;> rename_i hadd <;> rw [hadd]
  rw [hafter] at h
  rcases addFile_cases file with ⟨-, hundecodable⟩ | hadd
  · rw [hundecodable env, hnew] at h
    cases h
  · rw [hadd env] at h
    rcases fault?_of_added h with hget | hf
    · rw [hnew] at hget
      cases hget
    · exact hf

theorem SettingsCache.get_of_kept {cache : SettingsCache} {settings : Settings} (h : cache.kept = some settings) :
    cache.get file env = (.ok settings, cache, env) := by
  simp only [get, h]

theorem SettingsCache.get_fst_of_none {cache : SettingsCache} (h : cache.kept = none) :
    (cache.get file env).1 = (Settings.load file env).1 := by
  simp only [get, h]
  split <;> rename_i hload <;> rw [hload]

/-- A failed load is not kept. -/
theorem SettingsCache.get_of_failure {cache : SettingsCache} (h : cache.kept = none)
    (hload : (Settings.load file env).1 = .error e) :
    cache.get file env = (.error e, cache, (Settings.load file env).2) := by
  cases hl : Settings.load file env with
  | mk outcome after =>
    rw [hl] at hload
    cases hload
    simp only [get, h, hl]

/-- What is got depends on the environment only through what is loaded. -/
theorem SettingsCache.get_congr {cache : SettingsCache} {env' : Environment}
    (h : (Settings.load file env).1 = (Settings.load file env').1) :
    (cache.get file env).1 = (cache.get file env').1 := by
  cases hk : cache.kept with
  | some settings => rw [get_of_kept hk, get_of_kept hk]
  | none => rw [get_fst_of_none hk, get_fst_of_none hk, h]

theorem SettingsCache.kept_of_failure {cache : SettingsCache} (h : (cache.get file env).1 = .error e) :
    cache.kept = none := by
  cases hk : cache.kept with
  | none => rfl
  | some settings =>
    rw [get_of_kept hk] at h
    cases h

/-- An environment with the values that were left behind is like the one before, if a corrected file makes up for
them. -/
theorem Settings.alike_of_left {corrected : Option ByteArray}
    (hkeeps : ∀ name value, env.get? name = some value → (Settings.load file env).2.get? name = some value)
    (hup : ∀ name value, env.get? name = none → (Settings.load file env).2.get? name = some value →
      Binding.MakesUp (Binding.ofFile corrected) name value) :
    Alike (Binding.ofFile corrected) (Settings.load file env).2 env := by
  intro name
  cases hc : env.get? name with
  | some value =>
    left; left
    exact hkeeps name value hc
  | none =>
    cases ha : (Settings.load file env).2.get? name with
    | none => exact .inl (.inl rfl)
    | some value => exact .inr ⟨value, rfl, rfl, fault?_of_left hc ha, hup name value hc ha⟩

/-- **What a failed load leaves behind.** The names of the environment keep their values; it gains the names of the
bindings that were taken over, with the first of their values, and nothing else: so it is what it was exactly if it had
all these names. Nothing is cached. The next load, from a corrected file, gives what it would have given had the failed
one not been made, if the corrected file makes up for each value that was left behind. -/
theorem Settings.load_of_failure {cache : SettingsCache}
    (h : (Settings.load file env).1 = .error e ∨ (cache.get file env).1 = .error e) :
    let after := (Settings.load file env).2
    (∃ taken, (taken = Binding.ofFile file ∨ TakenOver env (Binding.ofFile file) taken (.error e)) ∧
      (∀ name, after.get? name = (env.get? name).or (Binding.valueIn taken name)) ∧
      (after = env ↔ ∀ b ∈ taken, env.contains b.name = true)) ∧
    ((cache.get file env).1 = .error e → cache.get file env = (.error e, cache, after)) ∧
    ∀ corrected, (∀ name value, env.get? name = none → after.get? name = some value →
        Binding.MakesUp (Binding.ofFile corrected) name value) →
      (Settings.load corrected after).1 = (Settings.load corrected env).1 ∧
        (cache.get corrected after).1 = (cache.get corrected env).1 := by
  intro after
  have hload : (Settings.load file env).1 = .error e := by
    rcases h with h | h
    · exact h
    · exact (SettingsCache.get_fst_of_none (SettingsCache.kept_of_failure h)).symm.trans h
  obtain ⟨taken, htaken, hget, hsame⟩ := taken_of_failure hload
  refine ⟨⟨taken, htaken, hget, ?_, hsame⟩, ?_, ?_⟩
  · -- a name that was taken over has a value afterwards
    intro hafter b hb
    have hb' := hget b.name
    rw [show (Settings.load file env).2 = env from hafter] at hb'
    rw [contains_eq_true_iff, hb', Option.isSome_or, Binding.isSome_valueIn_of_mem hb, Bool.or_true]
  · intro hfail
    exact SettingsCache.get_of_failure (SettingsCache.kept_of_failure hfail) hload
  · intro corrected hup
    have hkeeps : ∀ name value, env.get? name = some value → after.get? name = some value := by
      intro name value hv
      rw [show after.get? name = _ from hget name, hv, Option.some_or]
    have hnext := load_of_alike (alike_of_left hkeeps hup)
    exact ⟨hnext, SettingsCache.get_congr hnext⟩

end

/-- The third line of a file is refused. Of the two that stay, the corrected file repeats one and changes the other,
which no setting is read from. -/
theorem Settings.load_of_failure_of_null_character :
    let env : Environment := ⟨[("S3_REGION", "eu")]⟩
    let file := some "S3_CONTENT_TYPE=text\nNOTE=1\nTAG=a\x00".toUTF8
    let corrected := some "S3_CONTENT_TYPE=text\nNOTE=2\nTAG=a".toUTF8
    let after := (Settings.load file env).2
    (Settings.load file env).1 = .error (.value .nullByte) ∧
      after.entries = [("S3_REGION", "eu"), ("S3_CONTENT_TYPE", "text"), ("NOTE", "1")] ∧
      (∀ name value, env.get? name = none → after.get? name = some value →
        Binding.MakesUp (Binding.ofFile corrected) name value) ∧
      (Settings.load corrected after).1 = (Settings.load corrected env).1 := by
  intro env file corrected after
  have hfail : (Settings.load file env).1 = .error (.value .nullByte) := rfl
  have hafter : after.entries = [("S3_REGION", "eu"), ("S3_CONTENT_TYPE", "text"), ("NOTE", "1")] := by
    decide
  have hup : ∀ name value, env.get? name = none → after.get? name = some value →
      Binding.MakesUp (Binding.ofFile corrected) name value := by
    intro name value hnew hget
    have hmem := Dictionary.mem_of_get? hget
    rw [hafter] at hmem
    simp only [List.mem_cons, List.not_mem_nil, or_false, Prod.mk.injEq] at hmem
    rcases hmem with ⟨rfl, rfl⟩ | ⟨rfl, rfl⟩ | ⟨rfl, rfl⟩
    · cases hnew
    · exact .inl (by decide)
    · exact .inr (by decide)
  obtain ⟨-, -, hnext⟩ := @load_of_failure file env _ {} (.inl hfail)
  exact ⟨hfail, hafter, hup, (hnext corrected hup).1⟩

/-- A value that is no number stays in the environment and comes before that of the corrected file, from which ten
would have been read. -/
theorem Settings.load_leaves_value :
    let file := some "S3_LIST_MAX_KEYS=abc".toUTF8
    let corrected := some "S3_LIST_MAX_KEYS=10".toUTF8
    let env : Environment := ⟨[]⟩
    let after := (Settings.load file env).2
    (Settings.load file env).1 = .error (.value (.numeral (.malformed "abc"))) ∧
      after.entries = [("S3_LIST_MAX_KEYS", "abc")] ∧
      (Settings.load corrected after).1 = .error (.value (.numeral (.malformed "abc"))) ∧
      (Settings.load corrected env).1.toOption.map (·.maxKeys) = some 10 :=
  ⟨rfl, by decide, rfl, by decide +kernel⟩

end BucketClient
