/-!
# Dictionaries

Finite maps that remember the order in which their keys first came in. Storing under a key that is present keeps the
key's place; a new key goes to the end; removing a key closes its gap.

Main statements: a look-up after a change (`get?_insert`, `get?_insertAll`, `get?_erase`), and the order of the keys
after a change (`keys_insert_of_contains`, `keys_insert_of_not_contains`, `keys_insertAll`, `keys_erase`), in which no
key is there twice (`nodup_keys_insert`, `nodup_keys_erase`).
-/

namespace BucketClient

/-- A finite map as the list of its entries, in the order in which the keys first came in. -/
structure Dictionary (α β : Type) where
  entries : List (α × β) := []

namespace Dictionary

variable {α β : Type} [DecidableEq α]

/-- The map without entries. -/
def empty : Dictionary α β := {}

instance : EmptyCollection (Dictionary α β) := ⟨{}⟩

/-- The keys, in their order. -/
def keys (d : Dictionary α β) : List α :=
  d.entries.map (·.1)

/-- The values, in the order of their keys. -/
def values (d : Dictionary α β) : List β :=
  d.entries.map (·.2)

/-- The value under a key in a list of entries: that of the first entry with the key. -/
def findEntry (key : α) : List (α × β) → Option β
  | [] => none
  | entry :: rest => if entry.1 = key then some entry.2 else findEntry key rest

/-- The value under a key. -/
def get? (d : Dictionary α β) (key : α) : Option β :=
  findEntry key d.entries

/-- Whether a key is present. -/
def contains (d : Dictionary α β) (key : α) : Bool :=
  (d.get? key).isSome

/-- A list of entries with a value stored under a key. -/
def insertEntry (key : α) (value : β) : List (α × β) → List (α × β)
  | [] => [(key, value)]
  | entry :: rest => if entry.1 = key then (key, value) :: rest else entry :: insertEntry key value rest

/-- The map with a value stored under a key. -/
def insert (d : Dictionary α β) (key : α) (value : β) : Dictionary α β :=
  ⟨insertEntry key value d.entries⟩

/-- The map with further entries stored, in their order. -/
def insertAll (d : Dictionary α β) (entries : List (α × β)) : Dictionary α β :=
  entries.foldl (fun d entry => d.insert entry.1 entry.2) d

/-- The map without a key. -/
def erase (d : Dictionary α β) (key : α) : Dictionary α β :=
  ⟨d.entries.filter fun entry => entry.1 ≠ key⟩

/-- The map of a list of entries, where a later entry replaces an earlier one of the same key. -/
def ofList (entries : List (α × β)) : Dictionary α β :=
  empty.insertAll entries

/-! ## Look-ups -/

@[simp] theorem get?_empty (key : α) : (empty : Dictionary α β).get? key = none := rfl

theorem findEntry_insertEntry (key other : α) (value : β) (entries : List (α × β)) :
    findEntry other (insertEntry key value entries) = if other = key then some value else findEntry other entries := by
  induction entries with
  | nil => grind [insertEntry, findEntry]
  | cons entry rest ih => grind [insertEntry, findEntry]

theorem get?_insert (d : Dictionary α β) (key other : α) (value : β) :
    (d.insert key value).get? other = if other = key then some value else d.get? other :=
  findEntry_insertEntry key other value d.entries

@[simp] theorem get?_insert_self (d : Dictionary α β) (key : α) (value : β) :
    (d.insert key value).get? key = some value := by
  simp [get?_insert]

theorem get?_insert_of_ne (d : Dictionary α β) {key other : α} (value : β) (h : other ≠ key) :
    (d.insert key value).get? other = d.get? other := by
  simp [get?_insert, h]

theorem findEntry_filter_ne (key other : α) (entries : List (α × β)) :
    findEntry other (entries.filter fun entry => entry.1 ≠ key) =
      if other = key then none else findEntry other entries := by
  induction entries with
  | nil => simp [findEntry]
  | cons entry rest ih => grind [findEntry]

theorem get?_erase (d : Dictionary α β) (key other : α) :
    (d.erase key).get? other = if other = key then none else d.get? other :=
  findEntry_filter_ne key other d.entries

/-! ## The order of the keys -/

theorem isSome_findEntry (key : α) (entries : List (α × β)) :
    (findEntry key entries).isSome = true ↔ key ∈ entries.map (·.1) := by
  induction entries with
  | nil => simp [findEntry]
  | cons entry rest ih =>
    by_cases h : entry.1 = key
    · simp [findEntry, h]
    · have h' : key ≠ entry.1 := fun e => h e.symm
      simp only [findEntry, h, if_false, List.map_cons, List.mem_cons, h', false_or, ih]

theorem contains_iff_mem_keys (d : Dictionary α β) (key : α) : d.contains key = true ↔ key ∈ d.keys :=
  isSome_findEntry key d.entries

theorem map_fst_insertEntry (key : α) (value : β) (entries : List (α × β)) :
    (insertEntry key value entries).map (·.1) =
      if key ∈ entries.map (·.1) then entries.map (·.1) else entries.map (·.1) ++ [key] := by
  induction entries with
  | nil => simp [insertEntry]
  | cons entry rest ih =>
    by_cases h : entry.1 = key
    · simp [insertEntry, h]
    · have h' : key ≠ entry.1 := fun e => h e.symm
      simp only [insertEntry, h, if_false, List.map_cons, ih, List.mem_cons, h', false_or]
      split <;> simp

theorem keys_insert_of_contains {d : Dictionary α β} {key : α} (value : β) (h : d.contains key = true) :
    (d.insert key value).keys = d.keys := by
  have h' := (contains_iff_mem_keys d key).1 h
  simp only [keys, insert, map_fst_insertEntry] at h' ⊢
  simp [h']

theorem keys_insert_of_not_contains {d : Dictionary α β} {key : α} (value : β) (h : d.contains key = false) :
    (d.insert key value).keys = d.keys ++ [key] := by
  have h' : key ∉ d.keys := fun hm => by simp [(contains_iff_mem_keys d key).2 hm] at h
  simp only [keys, insert, map_fst_insertEntry] at h' ⊢
  simp [h']

theorem keys_erase (d : Dictionary α β) (key : α) : (d.erase key).keys = d.keys.filter (· ≠ key) := by
  simp only [keys, erase, List.filter_map]
  rfl

theorem nodup_keys_insert {d : Dictionary α β} (h : d.keys.Nodup) (key : α) (value : β) :
    (d.insert key value).keys.Nodup := by
  cases hc : d.contains key with
  | true =>
    rw [keys_insert_of_contains value hc]
    exact h
  | false =>
    have hnew : key ∉ d.keys := fun hm => by simp [(contains_iff_mem_keys d key).2 hm] at hc
    rw [keys_insert_of_not_contains value hc, List.nodup_append]
    refine ⟨h, by simp, fun a ha b hb => ?_⟩
    rintro rfl
    exact hnew (List.mem_singleton.1 hb ▸ ha)

theorem nodup_keys_erase {d : Dictionary α β} (h : d.keys.Nodup) (key : α) : (d.erase key).keys.Nodup := by
  rw [keys_erase]
  exact h.filter _

/-! ## Entries -/

theorem mem_insertEntry {key : α} {value : β} {entry : α × β} {entries : List (α × β)}
    (h : entry ∈ insertEntry key value entries) : entry = (key, value) ∨ entry ∈ entries := by
  induction entries with
  | nil => exact .inl (List.mem_singleton.1 h)
  | cons first rest ih =>
    unfold insertEntry at h
    split at h
    · rcases List.mem_cons.1 h with h | h
      · exact .inl h
      · exact .inr (List.mem_cons_of_mem _ h)
    · rcases List.mem_cons.1 h with h | h
      · exact .inr (List.mem_cons.2 (.inl h))
      · exact (ih h).imp id (List.mem_cons_of_mem _)

theorem findEntry_of_mem {key : α} {value : β} {entries : List (α × β)} (hn : (entries.map (·.1)).Nodup)
    (h : (key, value) ∈ entries) : findEntry key entries = some value := by
  induction entries with
  | nil => cases h
  | cons first rest ih =>
    rw [List.map_cons, List.nodup_cons] at hn
    rcases List.mem_cons.1 h with rfl | h
    · simp [findEntry]
    · have hne : first.1 ≠ key := fun he => hn.1 (he ▸ List.mem_map_of_mem h)
      rw [findEntry, if_neg hne]
      exact ih hn.2 h

theorem mem_of_findEntry {key : α} {value : β} {entries : List (α × β)} (h : findEntry key entries = some value) :
    (key, value) ∈ entries := by
  induction entries with
  | nil => cases h
  | cons first rest ih =>
    unfold findEntry at h
    split at h
    · rename_i hk
      cases h
      rw [← hk]
      exact List.mem_cons_self
    · exact List.mem_cons_of_mem _ (ih h)

theorem insertEntry_of_findEntry_eq_none {key : α} (value : β) {entries : List (α × β)}
    (h : findEntry key entries = none) : insertEntry key value entries = entries ++ [(key, value)] := by
  induction entries with
  | nil => rfl
  | cons first rest ih =>
    unfold findEntry at h
    split at h
    · cases h
    · rename_i hne
      rw [insertEntry, if_neg hne, ih h, List.cons_append]

/-- An entry under a new key comes last. -/
theorem insert_of_get?_eq_none {d : Dictionary α β} {key : α} (value : β) (h : d.get? key = none) :
    d.insert key value = ⟨d.entries ++ [(key, value)]⟩ :=
  congrArg mk (insertEntry_of_findEntry_eq_none value h)

/-- Entries under new keys come last, each under a key of its own. -/
theorem insertAll_of_nodup {d : Dictionary α β} {entries : List (α × β)}
    (h : (d.keys ++ entries.map (·.1)).Nodup) : d.insertAll entries = ⟨d.entries ++ entries⟩ := by
  induction entries generalizing d with
  | nil => simp [insertAll]
  | cons entry entries ih =>
    have hnew : d.get? entry.1 = none := by
      have hc : d.contains entry.1 = false := by
        rw [Bool.eq_false_iff]
        intro hc
        have hmem := (contains_iff_mem_keys d entry.1).1 hc
        exact (List.nodup_append.1 h).2.2 _ hmem _ List.mem_cons_self rfl
      simpa [contains] using hc
    have hinsert := insert_of_get?_eq_none entry.2 hnew
    have hkeys : (d.insert entry.1 entry.2).keys = d.keys ++ [entry.1] := by
      rw [hinsert, keys, List.map_append]
      rfl
    rw [insertAll, List.foldl_cons, ← insertAll, ih (by rw [hkeys]; simpa using h), hinsert]
    simp

/-- A list of entries that has each key once is the map of it. -/
theorem ofList_of_nodup {entries : List (α × β)} (h : (entries.map (·.1)).Nodup) :
    ofList entries = ⟨entries⟩ :=
  insertAll_of_nodup h

/-- What is found under a key is an entry. -/
theorem mem_of_get? {d : Dictionary α β} {key : α} {value : β} (h : d.get? key = some value) :
    (key, value) ∈ d.entries :=
  mem_of_findEntry h

/-- An entry is found under its key, if each key is there once. -/
theorem get?_of_mem {d : Dictionary α β} (hn : d.keys.Nodup) {key : α} {value : β} (h : (key, value) ∈ d.entries) :
    d.get? key = some value :=
  findEntry_of_mem hn h

/-! ## Further entries -/

theorem findEntry_eq_lookup (key : α) (entries : List (α × β)) : findEntry key entries = entries.lookup key := by
  induction entries with
  | nil => rfl
  | cons entry rest ih =>
    obtain ⟨other, value⟩ := entry
    by_cases h : other = key
    · simp [findEntry, h]
    · have h' : (key == other) = false := by simpa using fun e : key = other => h e.symm
      simp only [findEntry, List.lookup_cons, h, if_false, h', ih]

theorem eraseDups_concat (ks : List α) (key : α) :
    (ks ++ [key]).eraseDups = if key ∈ ks then ks.eraseDups else ks.eraseDups ++ [key] := by
  rw [List.eraseDups_append]
  by_cases h : key ∈ ks <;> simp [List.removeAll, h, List.eraseDups_cons]

theorem nodup_eraseDups (ks : List α) : ks.eraseDups.Nodup := by
  induction h : ks.length using Nat.strongRecOn generalizing ks with
  | ind n ih =>
    cases ks with
    | nil => exact .nil
    | cons key rest =>
      rw [List.eraseDups_cons, List.nodup_cons]
      refine ⟨by simp [List.mem_eraseDups], ih _ ?_ _ rfl⟩
      have := List.length_filter_le (fun other => !other == key) rest
      simp only [List.length_cons] at h
      omega

/-- The keys stand in the order in which they first come in. -/
theorem keys_insertAll {d : Dictionary α β} {ks : List α} (h : d.keys = ks.eraseDups) (entries : List (α × β)) :
    (d.insertAll entries).keys = (ks ++ entries.map (·.1)).eraseDups := by
  induction entries generalizing d ks with
  | nil => simpa [insertAll] using h
  | cons entry entries ih =>
    have hkeys : (d.insert entry.1 entry.2).keys = (ks ++ [entry.1]).eraseDups := by
      have hmem : entry.1 ∈ d.entries.map (·.1) ↔ entry.1 ∈ ks := by
        rw [← List.mem_eraseDups (l := ks), ← h]
        rfl
      rw [eraseDups_concat, ← h]
      simp only [keys, insert, map_fst_insertEntry, hmem]
    rw [insertAll, List.foldl_cons, ← insertAll, ih hkeys, List.map_cons, List.append_assoc, List.singleton_append]

/-- The further entries go before what was there. -/
theorem get?_insertAll (d : Dictionary α β) {entries : List (α × β)} (h : (entries.map (·.1)).Nodup) (key : α) :
    (d.insertAll entries).get? key = (entries.lookup key).or (d.get? key) := by
  induction entries generalizing d with
  | nil => simp [insertAll]
  | cons entry entries ih =>
    obtain ⟨other, value⟩ := entry
    rw [List.map_cons, List.nodup_cons] at h
    rw [insertAll, List.foldl_cons, ← insertAll, ih _ h.2, get?_insert, List.lookup_cons]
    by_cases hkey : key = other
    · subst hkey
      have hnone : entries.lookup key = none := by
        rw [← findEntry_eq_lookup, ← Option.not_isSome_iff_eq_none, isSome_findEntry]
        exact h.1
      simp [hnone]
    · have hne : (key == other) = false := by simpa using hkey
      rw [if_neg hkey, hne]

end Dictionary

end BucketClient
