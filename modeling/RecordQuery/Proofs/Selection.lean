/-
# RecordQuery.Proofs.Selection -- which records a filter selects

Selecting judges every record and then keeps the accepted ones (`select_eq`), though it
does both in one pass: it fails exactly as the first record that cannot be judged, and
otherwise keeps every accepted record, in order, and nothing else.

Two ways of looking fields up, of which one makes tests fail more often, lead to answers
and selections that differ by such a failure only (`accepts_stricter`,
`select_stricter`).
-/
import RecordQuery.Filter
import RecordQuery.Proofs.Traversal

namespace RecordQuery

set_option autoImplicit false

namespace Filter

/-- The error of a filter is that of one of its tests. -/
theorem exists_test_of_accepts_error {f : Filter} {fields : Lookup} {e : QueryError}
    (failed : f.accepts fields = .error e) : ∃ t ∈ f.tests, t.judge (fields t.key) = .error e := by
  obtain ⟨front, step, back, shape, -, cause⟩ :=
    mapM_eq_error_iff.mp (bind_pure_eq_error_iff.mp failed)
  have member : step ∈ f.steps := by simp [shape]
  exact ⟨step.2, List.mem_map_of_mem member, bind_pure_eq_error_iff.mp cause⟩

/-- A filter is as strict with a record as the strictest of its tests. -/
theorem accepts_stricter {P : QueryError → Prop} {f : Filter} {a b : Lookup}
    (each : ∀ t ∈ f.tests, Stricter P (t.judge (a t.key)) (t.judge (b t.key))) :
    Stricter P (f.accepts a) (f.accepts b) := by
  have verdicts : Stricter P (f.verdicts a) (f.verdicts b) := by
    refine Stricter.mapM fun step member => ?_
    exact (each step.2 (List.mem_map_of_mem member)).bind fun verdict => .same _
  exact verdicts.bind fun verdicts => .same _

/-- The filter judges the record and accepts it. -/
def admits (f : Filter) (fields : Lookup) : Bool :=
  f.accepts fields matches .ok true

theorem admits_eq_true_iff {f : Filter} {fields : Lookup} :
    f.admits fields = true ↔ f.accepts fields = .ok true := by
  unfold admits
  split <;> simp_all

theorem admits_of_accepts {f : Filter} {fields : Lookup} {b : Bool}
    (accepted : f.accepts fields = .ok b) : f.admits fields = b := by
  rw [admits, accepted]
  cases b <;> rfl

section Records

variable {α : Type} {f : Filter} {fields : α → Lookup} {records : List α}

/-- **Selecting is judging every record and keeping the accepted ones.** -/
theorem select_eq : f.select fields records = (do
    let _ ← records.mapM fun r => f.accepts (fields r)
    return records.filter fun r => f.admits (fields r)) := by
  induction records with
  | nil => rfl
  | cons r rs ih =>
      -- Whether the other records can be judged matters in both, also where this one is dropped.
      rw [select, ih, List.mapM_cons]
      cases accepted : f.accepts (fields r) with
      | error e => rfl
      | ok b =>
          rw [List.filter_cons, admits_of_accepts accepted]
          cases rs.mapM fun r => f.accepts (fields r) <;> rfl

theorem select_eq_ok_iff {hits : List α} :
    f.select fields records = .ok hits ↔
      (∀ r ∈ records, ∃ b, f.accepts (fields r) = .ok b) ∧
        hits = records.filter fun r => f.admits (fields r) := by
  rw [select_eq, bind_eq_ok_iff, ← exists_mapM_eq_ok_iff]
  constructor
  · rintro ⟨verdicts, judged, result⟩
    cases result
    exact ⟨⟨verdicts, judged⟩, rfl⟩
  · rintro ⟨⟨verdicts, judged⟩, rfl⟩
    exact ⟨verdicts, judged, rfl⟩

/-- What was selected is selected again, all of it. -/
theorem select_hits {hits : List α} (selected : f.select fields records = .ok hits) :
    f.select fields hits = .ok hits := by
  obtain ⟨-, rfl⟩ := select_eq_ok_iff.mp selected
  refine select_eq_ok_iff.mpr ⟨fun r member => ⟨true, ?_⟩, by simp⟩
  exact admits_eq_true_iff.mp (List.mem_filter.mp member).2

theorem select_eq_error_iff {e : QueryError} :
    f.select fields records = .error e ↔
      FirstError (fun r => f.accepts (fields r)) records e := by
  rw [select_eq, bind_pure_eq_error_iff, mapM_eq_error_iff]

/-- A selection is as strict as the filter is with any of the records. -/
theorem select_stricter {P : QueryError → Prop} {a b : α → Lookup}
    (each : ∀ r ∈ records, Stricter P (f.accepts (a r)) (f.accepts (b r))) :
    Stricter P (f.select a records) (f.select b records) := by
  induction records with
  | nil => exact .same _
  | cons r rs ih =>
      obtain ⟨first, others⟩ := List.forall_mem_cons.mp each
      exact first.bind fun accepted => (ih others).bind fun more => .same _

end Records

end Filter

end RecordQuery
