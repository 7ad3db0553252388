/-
# RecordQuery.Proofs.Refiltering -- filtering what a filter printed

The filter command prints the records it accepts as one array, and such an array is an input of
the command.  Given its own output it answers as before: the records are read back, each was
judged and accepted and is again, and so the same array is printed, with the same outcome
(`filter_again`).  This needs nothing but that the array is read as the records printed.

Only floating point numbers can stand in the way of that.  What was read once is regular, and a
regular value is printed so that it is read back, provided that each floating point number in it
is (`prints_pretty`): whole numbers, texts, names and their order, and the depth of nesting come
back in any case.
-/
import RecordQuery.Proofs.FilterStages
import RecordQuery.Proofs.JsonNumbers

namespace RecordQuery

set_option autoImplicit false

/-! ## Printed values -/

namespace JsonValue

mutual

/-- The floating point numbers in a value. -/
def floats : JsonValue → List Binary64
  | .number (.binary x) => [x]
  | .array items => floatsInItems items
  | .object entries => floatsInEntries entries
  | .null | .bool _ | .number _ | .text _ => []

def floatsInItems : List JsonValue → List Binary64
  | [] => []
  | item :: rest => floats item ++ floatsInItems rest

def floatsInEntries : List (String × JsonValue) → List Binary64
  | [] => []
  | (_, value) :: rest => floats value ++ floatsInEntries rest

end

/-- The floating point numbers in the value are read back from their texts. -/
def Restored (v : JsonValue) : Prop :=
  ∀ x ∈ v.floats, (Number.binary x).Restored

instance (v : JsonValue) : Decidable v.Restored :=
  inferInstanceAs (Decidable (∀ x ∈ v.floats, _))

theorem Restored.item {items : List JsonValue} (restored : (array items).Restored)
    {v : JsonValue} (member : v ∈ items) : v.Restored := by
  have inside : v.floats ⊆ floatsInItems items := by
    clear restored
    induction items with
    | nil => cases member
    | cons item rest ih =>
        rw [floatsInItems]
        rcases List.mem_cons.mp member with rfl | later
        · exact List.subset_append_left _ _
        · exact List.Subset.trans (ih later) (List.subset_append_right _ _)
  exact fun x among => restored x (by rw [floats]; exact inside among)

theorem Restored.entry {entries : List (String × JsonValue)}
    (restored : (object entries).Restored) {e : String × JsonValue} (member : e ∈ entries) :
    e.2.Restored := by
  have inside : e.2.floats ⊆ floatsInEntries entries := by
    clear restored
    induction entries with
    | nil => cases member
    | cons entry rest ih =>
        rw [floatsInEntries]
        rcases List.mem_cons.mp member with rfl | later
        · exact List.subset_append_left _ _
        · exact List.Subset.trans (ih later) (List.subset_append_right _ _)
  exact fun x among => restored x (by rw [floats]; exact inside among)

end JsonValue

namespace JsonReader

theorem prints_jsonText {n : Number} (first : n.SignedFirst)
    (restored : (JsonValue.number n).Restored) (depth : Nat) :
    Prints depth n.jsonText.toList (.number n) := by
  cases n with
  | signed n => exact Number.prints_signed n depth
  | unsigned n => exact Number.prints_unsigned first depth
  | binary x => exact (restored x (by simp [JsonValue.floats])).prints depth

/-- A regular value is read back from what is printed for it. -/
theorem prints_pretty (depth : Nat) {v : JsonValue} (regular : v.Regular depth)
    (restored : v.Restored) (level : Nat) : Prints depth (v.prettyAt level).toList v := by
  induction depth generalizing v level with
  | zero =>
      cases v with
      | null => exact prints_null 0
      | bool b => exact prints_bool 0 b
      | number n => exact prints_jsonText regular restored 0
      | text s => exact prints_string 0 s
      | array items => exact regular.elim
      | object entries => exact regular.elim
  | succ depth ih =>
      cases v with
      | null => exact prints_null _
      | bool b => exact prints_bool _ b
      | number n => exact prints_jsonText regular restored _
      | text s => exact prints_string _ s
      | array items =>
          have each : ∀ v ∈ items, Prints depth (v.prettyAt (level + 1)).toList v :=
            fun v member =>
              ih (regular v member) (restored.item member) (level + 1)
          rw [JsonValue.prettyAt, JsonValue.prettyItems_eq_map]
          refine prints_array ?_ level
          rwa [List.forall₂_map_left_iff, List.forall₂_same]
      | object entries =>
          obtain ⟨ordered, inside⟩ := regular
          have each : ∀ e ∈ entries, PrintsEntry depth
              (JsonPrinter.string e.1 ++ ": " ++ e.2.prettyAt (level + 1)).toList e :=
            fun e member => printsEntry_of_prints <|
              ih (inside e member) (restored.entry member) (level + 1)
          have object : Prints (depth + 1) _ (.object (ofEntries entries)) :=
            prints_object (List.forall₂_map_left_iff.mpr (List.forall₂_same.mpr each)) level
          rw [JsonValue.prettyAt, JsonValue.prettyEntries_eq_map]
          rwa [ofEntries_of_inOrder ordered] at object

end JsonReader

/-! ## Printed records -/

namespace Record

open JsonReader

theorem regular_of_holds {input : String} {records : List JsonObject}
    (holds : Holds input records) {r : JsonObject} (member : r ∈ records) :
    (JsonValue.object r).Regular (depthLimit - 1) := by
  have regular : ∀ v ∈ records.map JsonValue.object, v.Regular (depthLimit - 1) :=
    regular_of_read holds
  exact regular _ (List.mem_map_of_mem member)

theorem holds_renderRecords {records : List JsonObject}
    (regular : ∀ r ∈ records, (JsonValue.object r).Regular (depthLimit - 1))
    (restored : ∀ r ∈ records, (JsonValue.object r).Restored) :
    Holds (Command.renderRecords records) records :=
  read_of_prints <| prints_array_map fun r member =>
    prints_pretty (depthLimit - 1) (regular r member) (restored r member) 1

end Record

/-! ## The command on its own output -/

namespace Command

/-- The records that the command prints, if it comes to that. -/
def hits? (search input : String) (options : FieldOptions) : Option (List JsonObject) := do
  let f ← (compile search).toOption
  let records ← (Record.readAll input).toOption
  (f.select (fun r => r.lookup options) records).toOption

section Again

variable {search input : String} {options : FieldOptions} {report : Report}

theorem hits?_of_select {f : Filter} {records hits : List JsonObject} (ready : Ready search f)
    (holds : Record.Holds input records)
    (selected : f.select (fun r => r.lookup options) records = .ok hits) :
    hits? search input options = some hits := by
  rw [hits?, compile_eq_ok_iff.mpr ready, Record.readAll_of_holds holds]
  show (f.select (fun r => r.lookup options) records).toOption = some hits
  rw [selected]
  rfl

/-- A report that refuses nothing comes from a selection. -/
theorem exists_select_of_filter (answered : filter search input options = .ok report)
    (unrefused : report.outcome ≠ .invalid) :
    ∃ f records hits, Ready search f ∧ Record.Holds input records ∧
      f.select (fun r => r.lookup options) records = .ok hits := by
  obtain ⟨answer, answers⟩ := exists_answers search input options
  obtain rfl : answer = .ok report := (filter_eq_of_answers answers).symm.trans answered
  cases answers with
  | refused | unjudged => exact absurd rfl unrefused
  | matched ready holds judged =>
      exact ⟨_, _, _, ready, holds, Filter.select_eq_ok_iff.mpr ⟨judged, rfl⟩⟩
  | unmatched ready holds none =>
      exact ⟨_, _, _, ready, holds,
        Filter.select_eq_ok_iff.mpr ⟨fun r member => ⟨false, none r member⟩, rfl⟩⟩

/-- **Filtering what a filter printed changes nothing.**  Where the command ends with a match or
without one, the array that it prints, read as the records it is of, is an input with the same
outcome, the same output and no error.  The array is read so if the floating point numbers in the
records are read back from their texts. -/
theorem filter_again (answered : filter search input options = .ok report)
    (unrefused : report.outcome = .success ∨ report.outcome = .noMatch) :
    ∃ hits, hits? search input options = some hits ∧ report.out = renderRecords hits ∧
      (Record.Holds report.out hits →
        filter search report.out options = .ok ⟨report.outcome, report.out, ""⟩) ∧
      ((∀ r ∈ hits, (JsonValue.object r).Restored) → Record.Holds report.out hits) := by
  have unrefused : report.outcome ≠ .invalid := by
    rcases unrefused with same | same <;> rw [same] <;> decide
  obtain ⟨f, records, hits, ready, holds, selected⟩ := exists_select_of_filter answered unrefused
  rw [filter_of_select_ok ready holds selected] at answered
  cases answered
  refine ⟨hits, hits?_of_select ready holds selected, rfl, fun again => ?_, fun restored => ?_⟩
  · exact filter_of_select_ok ready again (Filter.select_hits selected)
  · refine Record.holds_renderRecords (fun r member => Record.regular_of_holds holds ?_) restored
    obtain ⟨-, rfl⟩ := Filter.select_eq_ok_iff.mp selected
    exact (List.mem_filter.mp member).1

end Again

def twoRecords : String :=
  "[\x7b\"a\": 1, \"b\": 0.5\x7d, \x7b\"a\": 2\x7d]"

/-- One of two records is printed, with a half in it, and is printed again. -/
theorem filter_again_half :
    ∃ report, filter "a:1" twoRecords ⟨[], false⟩ = .ok report ∧ report.outcome = .success ∧
      filter "a:1" report.out ⟨[], false⟩ = .ok ⟨.success, report.out, ""⟩ := by
  have succeeds : (filter "a:1" twoRecords ⟨[], false⟩).toOption.map Report.outcome =
      some .success := by decide +kernel
  have steady : ∀ hits ∈ hits? "a:1" twoRecords ⟨[], false⟩,
      ∀ r ∈ hits, (JsonValue.object r).Restored := by decide +kernel
  cases answered : filter "a:1" twoRecords ⟨[], false⟩ with
  | error e =>
      rw [answered] at succeeds
      cases succeeds
  | ok report =>
      rw [answered] at succeeds
      have success : report.outcome = .success := Option.some.inj succeeds
      obtain ⟨hits, found, -, again, readBack⟩ := filter_again answered (.inl success)
      have same := again (readBack (steady hits found))
      rw [success] at same
      exact ⟨report, rfl, success, same⟩

end Command

end RecordQuery
