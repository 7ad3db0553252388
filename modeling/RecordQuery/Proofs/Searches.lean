/-
# RecordQuery.Proofs.Searches -- what lists of records are asked, and where the asking stops

Selecting, copying and counting go through a whole list, and fail as the first record that
cannot be judged.  The other functions stop at the first record that settles the answer
(`FirstOther`): one that is not rejected settles whether and where some record is
accepted, and one that is not accepted settles whether all are.  What stands behind that
record is not looked at, errors included.

`lists_answered` says so of each function, and that where a selection succeeds, the other
functions answer as it does.
-/
import RecordQuery.Proofs.Selection

namespace RecordQuery

set_option autoImplicit false

namespace Filter

section Records

variable {α : Type} {f : Filter} {fields : α → Lookup} {records : List α}

/-! ## Copying and counting -/

/-- Only selected records are copied, once all have been judged. -/
theorem selectCopies_of_select {hits : List α} (copy : α → α)
    (selected : f.select fields records = .ok hits) :
    f.selectCopies fields copy records = .ok (hits.map copy) := by
  rw [selectCopies, selected]
  rfl

theorem selectCopies_of_error {e : QueryError} (copy : α → α)
    (failed : f.select fields records = .error e) :
    f.selectCopies fields copy records = .error e := by
  rw [selectCopies, failed]
  rfl

/-- Counting is selecting and counting what has been selected. -/
theorem count_eq : f.count fields records = (do
    let hits ← f.select fields records
    return hits.length) := by
  induction records with
  | nil => rfl
  | cons r rs ih =>
      rw [count, select, ih]
      cases f.accepts (fields r) with
      | error e => rfl
      | ok b => cases f.select fields rs <;> cases b <;> rfl

/-! ## Searching -/

/-- At this index stands the first record whose verdict is not the usual one: it is the other, or
an error. -/
def FirstOther (f : Filter) (fields : α → Lookup) (usual : Bool) (records : List α) (index : Nat)
    (r : α) : Prop :=
  ∃ front back, records = front ++ r :: back ∧ front.length = index ∧
    (∀ x ∈ front, f.accepts (fields x) = .ok usual) ∧ f.accepts (fields r) ≠ .ok usual

/-- Either every verdict is the usual one or there is a first that is not. -/
theorem usual_or_firstOther (f : Filter) (fields : α → Lookup) (usual : Bool) (records : List α) :
    (∀ r ∈ records, f.accepts (fields r) = .ok usual) ∨
      ∃ index r, f.FirstOther fields usual records index r := by
  induction records with
  | nil => exact .inl (by simp)
  | cons r rs ih =>
      by_cases verdict : f.accepts (fields r) = .ok usual
      · rcases ih with others | ⟨_, other, front, back, rfl, rfl, before, differs⟩
        · exact .inl (List.forall_mem_cons.mpr ⟨verdict, others⟩)
        · exact .inr ⟨_, other, r :: front, back, rfl, rfl,
            List.forall_mem_cons.mpr ⟨verdict, before⟩, differs⟩
      · exact .inr ⟨0, r, [], rs, rfl, rfl, by simp, verdict⟩

theorem position?_of_rejected (rejected : ∀ r ∈ records, f.accepts (fields r) = .ok false) :
    f.position? fields records = .ok none := by
  induction records with
  | nil => rfl
  | cons r rs ih =>
      obtain ⟨first, others⟩ := List.forall_mem_cons.mp rejected
      rw [position?, first, ih others]
      rfl

theorem position?_of_firstOther {index : Nat} {r : α}
    (first : f.FirstOther fields false records index r) :
    f.position? fields records = (do
      let _ ← f.accepts (fields r)
      return some index) := by
  obtain ⟨front, back, rfl, rfl, before, other⟩ := first
  induction front with
  | nil =>
      rw [List.nil_append, position?]
      cases verdict : f.accepts (fields r) with
      | error e => rfl
      | ok b =>
          cases b with
          | false => exact absurd verdict other
          | true => rfl
  | cons x front ih =>
      obtain ⟨rejected, others⟩ := List.forall_mem_cons.mp before
      rw [List.cons_append, position?, rejected, ih others]
      cases f.accepts (fields r) <;> rfl

/-- What is found is in the list. -/
theorem lt_length_of_position? {index : Nat} (found : f.position? fields records = .ok (some index)) :
    index < records.length := by
  rcases usual_or_firstOther f fields false records with rejected | ⟨i, r, first⟩
  · rw [position?_of_rejected rejected] at found
    cases found
  · rw [position?_of_firstOther first] at found
    obtain ⟨b, -, same⟩ := bind_eq_ok_iff.mp found
    obtain ⟨front, back, rfl, rfl, -⟩ := first
    cases same
    simp

/-- Some record is accepted if the search for one comes to a position. -/
theorem any_eq : f.any fields records = (do
    let found ← f.position? fields records
    return found.isSome) := by
  induction records with
  | nil => rfl
  | cons r rs ih =>
      rw [any, position?, ih]
      cases f.accepts (fields r) with
      | error e => rfl
      | ok b =>
          cases b with
          | true => rfl
          | false =>
              cases f.position? fields rs with
              | error e => rfl
              | ok found => cases found <;> rfl

/-- The record that is found stands at the position that is found. -/
theorem find?_eq : f.find? fields records = (do
    let found ← f.position? fields records
    return found.bind (records[·]?)) := by
  induction records with
  | nil => rfl
  | cons r rs ih =>
      rw [find?, position?, ih]
      cases f.accepts (fields r) with
      | error e => rfl
      | ok b =>
          cases b with
          | true => rfl
          | false =>
              cases f.position? fields rs with
              | error e => rfl
              | ok found => cases found <;> rfl

theorem all_of_admitted (admitted : ∀ r ∈ records, f.accepts (fields r) = .ok true) :
    f.all fields records = .ok true := by
  induction records with
  | nil => rfl
  | cons r rs ih =>
      obtain ⟨first, others⟩ := List.forall_mem_cons.mp admitted
      rw [all, first]
      exact ih others

theorem all_of_firstOther {index : Nat} {r : α}
    (first : f.FirstOther fields true records index r) :
    f.all fields records = f.accepts (fields r) := by
  obtain ⟨front, back, rfl, -, before, other⟩ := first
  induction front with
  | nil =>
      rw [List.nil_append, all]
      cases verdict : f.accepts (fields r) with
      | error e => rfl
      | ok b =>
          cases b with
          | false => rfl
          | true => exact absurd verdict other
  | cons x front ih =>
      obtain ⟨admitted, others⟩ := List.forall_mem_cons.mp before
      rw [List.cons_append, all, admitted]
      exact ih others

/-! ## Lists without errors -/

theorem position?_of_judged (judged : ∀ r ∈ records, ∃ b, f.accepts (fields r) = .ok b) :
    f.position? fields records = .ok (records.findIdx? fun r => f.admits (fields r)) := by
  induction records with
  | nil => rfl
  | cons r rs ih =>
      obtain ⟨⟨b, verdict⟩, others⟩ := List.forall_mem_cons.mp judged
      rw [position?, verdict, ih others, List.findIdx?_cons, admits_of_accepts verdict]
      cases b <;> rfl

theorem all_of_judged (judged : ∀ r ∈ records, ∃ b, f.accepts (fields r) = .ok b) :
    f.all fields records = .ok (records.all fun r => f.admits (fields r)) := by
  induction records with
  | nil => rfl
  | cons r rs ih =>
      obtain ⟨⟨b, verdict⟩, others⟩ := List.forall_mem_cons.mp judged
      rw [all, verdict, List.all_cons, admits_of_accepts verdict]
      cases b with
      | false => rfl
      | true => exact ih others

/-- Where a selection succeeds, every other answer can be read off it. -/
theorem answers_of_select {hits : List α} (selected : f.select fields records = .ok hits) :
    f.count fields records = .ok hits.length ∧ f.any fields records = .ok !hits.isEmpty ∧
      f.find? fields records = .ok hits.head? ∧
      f.all fields records = .ok (hits.length == records.length) := by
  obtain ⟨judged, rfl⟩ := select_eq_ok_iff.mp selected
  refine ⟨?_, ?_, ?_, ?_⟩
  · rw [count_eq, selected]
    rfl
  · rw [any_eq, position?_of_judged judged]
    have nonempty : (!(records.filter fun r => f.admits (fields r)).isEmpty) =
        records.any fun r => f.admits (fields r) := by
      rw [Bool.eq_iff_iff]
      simp [List.filter_eq_nil_iff]
    rw [nonempty, ← List.findIdx?_isSome]
    rfl
  · rw [find?_eq, position?_of_judged judged, List.head?_filter,
      List.find?_eq_bind_findIdx?_getElem?]
    rfl
  · rw [all_of_judged judged, Except.ok.injEq, Bool.eq_iff_iff, List.all_eq_true, beq_iff_eq,
      List.length_filter_eq_length_iff]

end Records

/-- **How lists of records are answered**, by the verdicts on their records.  A selection, one of
copies and a count fail as the first record that cannot be judged; otherwise they are of the
accepted records, in order.  The search for a position ends at the first record that is not
rejected: it finds that position, or fails as that record.  A position that is found lies within the
list, and tells whether some record is accepted and which is the first.  Whether all records are
accepted is settled by the first that is not.  So where a selection succeeds, all other answers can
be read off it; one of copies is the selection itself, where a copy of a record is the record
again. -/
theorem lists_answered {α : Type} (f : Filter) (fields : α → Lookup) (records : List α) :
    ((∀ e, FirstError (fun r => f.accepts (fields r)) records e →
        f.select fields records = .error e ∧
        (∀ copy, f.selectCopies fields copy records = .error e) ∧
        f.count fields records = .error e) ∧
      ((∀ r ∈ records, ∃ b, f.accepts (fields r) = .ok b) →
        f.select fields records = .ok (records.filter fun r => f.admits (fields r)) ∧
        (∀ copy, f.selectCopies fields copy records =
          .ok ((records.filter fun r => f.admits (fields r)).map copy)) ∧
        f.count fields records = .ok (records.filter fun r => f.admits (fields r)).length)) ∧
    (((∀ r ∈ records, f.accepts (fields r) = .ok false) → f.position? fields records = .ok none) ∧
      ∀ index r, f.FirstOther fields false records index r →
        (f.accepts (fields r) = .ok true → f.position? fields records = .ok (some index)) ∧
        ∀ e, f.accepts (fields r) = .error e → f.position? fields records = .error e) ∧
    (f.any fields records = (do
        let found ← f.position? fields records
        return found.isSome) ∧
      f.find? fields records = (do
        let found ← f.position? fields records
        return found.bind (records[·]?)) ∧
      ∀ index, f.position? fields records = .ok (some index) → index < records.length) ∧
    (((∀ r ∈ records, f.accepts (fields r) = .ok true) → f.all fields records = .ok true) ∧
      ∀ index r, f.FirstOther fields true records index r →
        f.all fields records = f.accepts (fields r)) ∧
    ∀ hits, f.select fields records = .ok hits →
      (∀ copy, (∀ r ∈ hits, copy r = r) → f.selectCopies fields copy records = .ok hits) ∧
      f.count fields records = .ok hits.length ∧ f.any fields records = .ok !hits.isEmpty ∧
      f.find? fields records = .ok hits.head? ∧
      f.all fields records = .ok (hits.length == records.length) := by
  refine ⟨⟨fun e first => ?_, fun judged => ?_⟩, ⟨position?_of_rejected, fun index r first => ?_⟩,
    ⟨any_eq, find?_eq, fun _ => lt_length_of_position?⟩,
    ⟨all_of_admitted, fun _ _ => all_of_firstOther⟩, fun hits selected => ⟨?_, ?_⟩⟩
  · have failed := select_eq_error_iff.mpr first
    exact ⟨failed, fun copy => selectCopies_of_error copy failed, by rw [count_eq, failed]; rfl⟩
  · have selected := select_eq_ok_iff.mpr ⟨judged, rfl⟩
    exact ⟨selected, fun copy => selectCopies_of_select copy selected,
      (answers_of_select selected).1⟩
  · rw [position?_of_firstOther first]
    constructor
    · intro accepted
      rw [accepted]
      rfl
    · intro e failed
      rw [failed]
      rfl
  · intro copy faithful
    rw [selectCopies_of_select copy selected, List.map_congr_left faithful, List.map_id']
  · exact answers_of_select selected

/-- A record that cannot be judged behind one that is accepted: the search does not come to it, and
the selection does. -/
example :
    let f : Filter := ⟨[(.and, ⟨"n", .compare .equal (.text "1")⟩)]⟩
    let records : List Lookup := [fun _ => some (.number (.signed 1)), fun _ => none]
    f.any id records = .ok true ∧ f.select id records = .error (.unknownField "n") :=
  ⟨rfl, rfl⟩

end Filter

end RecordQuery
