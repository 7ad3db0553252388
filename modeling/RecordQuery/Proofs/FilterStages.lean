/-
# RecordQuery.Proofs.FilterStages -- what the filter command answers, stage by stage

The command can end at five places, each behind the one before: the query is refused, the
input holds no records, a record cannot be judged, some record matches, or none does.
`Command.Answers` puts down what is answered at each, in terms of what the query and the
input are read as, and `filter_eq_iff_answers` says that this is what the command
answers.  So nothing of a result is written before every record has been judged, an
error in the query hides any in the input, and of several faults in one stage the first
counts.
-/
import RecordQuery.Command.Report
import RecordQuery.Proofs.Selection

namespace RecordQuery

set_option autoImplicit false

/-! ## The input -/

namespace JsonValue

def IsObject (v : JsonValue) : Prop :=
  ∃ entries, v = .object entries

end JsonValue

namespace Record

/-- The input is a JSON array of these objects. -/
def Holds (input : String) (records : List JsonObject) : Prop :=
  JsonValue.read input = .ok (.array (records.map .object))

/-- Why an input is no JSON array of objects: it is no JSON text, it is one of something else than
an array, or the array has an item that is not an object, of which the first counts. -/
inductive Lacks (input : String) : InputError → Prop
  | notJson {cause : JsonError} (unread : JsonValue.read input = .error cause) :
      Lacks input (.notJson cause)
  | notArray {v : JsonValue} (read : JsonValue.read input = .ok v)
      (other : ∀ items, v ≠ .array items) : Lacks input .notArray
  | notObject {front : List JsonObject} {item : JsonValue} {back : List JsonValue}
      (read : JsonValue.read input = .ok (.array (front.map .object ++ item :: back)))
      (other : ¬ item.IsObject) : Lacks input (.notObject front.length item)

theorem objects_of_not_isObject {index : Nat} {item : JsonValue} {rest : List JsonValue}
    (other : ¬ item.IsObject) : objects index (item :: rest) = .error (.notObject index item) := by
  cases item with
  | object entries => exact absurd ⟨entries, rfl⟩ other
  | _ => rfl

theorem objects_map_object (index : Nat) (records : List JsonObject) :
    objects index (records.map .object) = .ok records := by
  induction records generalizing index with
  | nil => rfl
  | cons entries records ih =>
      rw [List.map_cons, objects, ih]
      rfl

theorem objects_first_other (index : Nat) {front : List JsonObject} {item : JsonValue}
    {back : List JsonValue} (other : ¬ item.IsObject) :
    objects index (front.map .object ++ item :: back) =
      .error (.notObject (index + front.length) item) := by
  induction front generalizing index with
  | nil => exact objects_of_not_isObject other
  | cons entries front ih =>
      rw [List.map_cons, List.cons_append, objects, ih, List.length_cons, Nat.add_right_comm,
        Nat.add_assoc]
      rfl

/-- Items are objects, or there is a first that is not. -/
theorem objects_or_first_other (items : List JsonValue) :
    (∃ records : List JsonObject, items = records.map .object) ∨
      ∃ (front : List JsonObject) (item : JsonValue) (back : List JsonValue),
        items = front.map .object ++ item :: back ∧ ¬ item.IsObject := by
  induction items with
  | nil => exact .inl ⟨[], rfl⟩
  | cons item items ih =>
      by_cases isObject : item.IsObject
      · obtain ⟨entries, rfl⟩ := isObject
        rcases ih with ⟨records, rfl⟩ | ⟨front, other, back, rfl, notObject⟩
        · exact .inl ⟨entries :: records, rfl⟩
        · exact .inr ⟨entries :: front, other, back, rfl, notObject⟩
      · exact .inr ⟨[], item, items, rfl, isObject⟩

theorem readAll_of_holds {input : String} {records : List JsonObject}
    (holds : Holds input records) : readAll input = .ok records := by
  rw [Holds] at holds
  rw [readAll, holds]
  exact objects_map_object 0 records

theorem readAll_of_lacks {input : String} {e : InputError} (lacks : Lacks input e) :
    readAll input = .error e := by
  cases lacks with
  | notJson unread => rw [readAll, unread]
  | notArray read other =>
      rw [readAll, read]
      rename_i v
      cases v with
      | array items => exact absurd rfl (other items)
      | _ => rfl
  | notObject read other =>
      rw [readAll, read]
      simpa using objects_first_other 0 other

theorem holds_or_lacks (input : String) :
    (∃ records, Holds input records) ∨ ∃ e, Lacks input e := by
  cases read : JsonValue.read input with
  | error cause => exact .inr ⟨_, .notJson read⟩
  | ok v =>
      by_cases isArray : ∃ items, v = .array items
      · obtain ⟨items, rfl⟩ := isArray
        rcases objects_or_first_other items with ⟨records, rfl⟩ | ⟨front, item, back, rfl, other⟩
        · exact .inl ⟨records, read⟩
        · exact .inr ⟨_, .notObject read other⟩
      · exact .inr ⟨_, .notArray read fun items same => isArray ⟨items, same⟩⟩

end Record

/-! ## The command -/

namespace Command

/-- The query cannot be read, or is read and makes no filter. -/
def Refused (search : String) (e : QueryError) : Prop :=
  Query.parse search = .error e ∨ ∃ q, Query.parse search = .ok q ∧ Filter.ofQuery q = .error e

/-- The query is read and makes this filter. -/
def Ready (search : String) (f : Filter) : Prop :=
  ∃ q, Query.parse search = .ok q ∧ Filter.ofQuery q = .ok f

theorem compile_eq_error_iff {search : String} {e : QueryError} :
    compile search = .error e ↔ Refused search e :=
  bind_eq_error_iff

theorem compile_eq_ok_iff {search : String} {f : Filter} :
    compile search = .ok f ↔ Ready search f :=
  bind_eq_ok_iff

/-- What the filter command answers.  A result is the array of the accepted records as indented JSON
on lines of its own, without records the two brackets.  An answer that is an input error leaves both
outputs empty. -/
inductive Answers (search input : String) (options : FieldOptions) :
    Except InputError Report → Prop
  | refused {e : QueryError} (refused : Refused search e) :
      Answers search input options (.ok ⟨.invalid, "", "Error: " ++ e.message ++ "\n"⟩)
  | noRecords {f : Filter} {e : InputError} (ready : Ready search f)
      (lacks : Record.Lacks input e) : Answers search input options (.error e)
  | unjudged {f : Filter} {records : List JsonObject} {e : QueryError} (ready : Ready search f)
      (holds : Record.Holds input records)
      (first : FirstError (fun r => f.accepts (r.lookup options)) records e) :
      Answers search input options (.ok ⟨.invalid, "", "Error: " ++ e.message ++ "\n"⟩)
  | matched {f : Filter} {records : List JsonObject} (ready : Ready search f)
      (holds : Record.Holds input records)
      (judged : ∀ r ∈ records, ∃ b, f.accepts (r.lookup options) = .ok b)
      (some : ∃ r ∈ records, f.accepts (r.lookup options) = .ok true) :
      Answers search input options (.ok ⟨.success,
        (JsonValue.array ((records.filter fun r => f.admits (r.lookup options)).map
          .object)).pretty ++ "\n", ""⟩)
  | unmatched {f : Filter} {records : List JsonObject} (ready : Ready search f)
      (holds : Record.Holds input records)
      (none : ∀ r ∈ records, f.accepts (r.lookup options) = .ok false) :
      Answers search input options (.ok ⟨.noMatch, "[]\n", ""⟩)

section Stages

variable {search input : String} {options : FieldOptions}

theorem filter_of_select_error {f : Filter} {records : List JsonObject} {e : QueryError}
    (ready : Ready search f) (holds : Record.Holds input records)
    (failed : f.select (fun r => r.lookup options) records = .error e) :
    filter search input options = .ok ⟨.invalid, "", "Error: " ++ e.message ++ "\n"⟩ := by
  simp only [filter, compile_eq_ok_iff.mpr ready, Record.readAll_of_holds holds, failed]
  rfl

theorem filter_of_select_ok {f : Filter} {records hits : List JsonObject}
    (ready : Ready search f) (holds : Record.Holds input records)
    (selected : f.select (fun r => r.lookup options) records = .ok hits) :
    filter search input options =
      .ok ⟨if hits.isEmpty then .noMatch else .success, renderRecords hits, ""⟩ := by
  simp only [filter, compile_eq_ok_iff.mpr ready, Record.readAll_of_holds holds, selected]

theorem filter_eq_of_answers {answer : Except InputError Report}
    (answers : Answers search input options answer) : filter search input options = answer := by
  cases answers with
  | refused refused =>
      simp only [filter, compile_eq_error_iff.mpr refused]
      rfl
  | noRecords ready lacks =>
      simp only [filter, compile_eq_ok_iff.mpr ready, Record.readAll_of_lacks lacks]
  | unjudged ready holds first =>
      exact filter_of_select_error ready holds (Filter.select_eq_error_iff.mpr first)
  | @matched f records ready holds judged some =>
      obtain ⟨r, member, accepted⟩ := some
      have isHit : r ∈ records.filter fun r => f.admits (r.lookup options) :=
        List.mem_filter.mpr ⟨member, Filter.admits_eq_true_iff.mpr accepted⟩
      rw [filter_of_select_ok ready holds (Filter.select_eq_ok_iff.mpr ⟨judged, rfl⟩),
        List.isEmpty_eq_false_iff.mpr (List.ne_nil_of_mem isHit)]
      rfl
  | @unmatched f records ready holds none =>
      have noHits : [] = records.filter fun r => f.admits (r.lookup options) := by
        refine (List.filter_eq_nil_iff.mpr fun r member => ?_).symm
        simp [Filter.admits_of_accepts (none r member)]
      exact filter_of_select_ok ready holds
        (Filter.select_eq_ok_iff.mpr ⟨fun r member => ⟨false, none r member⟩, noHits⟩)

/-- There is a stage for every input. -/
theorem exists_answers (search input : String) (options : FieldOptions) :
    ∃ answer, Answers search input options answer := by
  -- The stages in the order in which the command comes to them; each is left by one way out.
  cases compiled : compile search with
  | error e => exact ⟨_, .refused (compile_eq_error_iff.mp compiled)⟩
  | ok f =>
      have ready := compile_eq_ok_iff.mp compiled
      rcases Record.holds_or_lacks input with ⟨records, holds⟩ | ⟨e, lacks⟩
      · rcases forall_ok_or_firstError (fun r => f.accepts (r.lookup options)) records with
          judged | ⟨e, first⟩
        · by_cases some : ∃ r ∈ records, f.accepts (r.lookup options) = .ok true
          · exact ⟨_, .matched ready holds judged some⟩
          · refine ⟨_, .unmatched ready holds fun r member => ?_⟩
            obtain ⟨b, accepted⟩ := judged r member
            cases b with
            | true => exact absurd ⟨r, member, accepted⟩ some
            | false => exact accepted
        · exact ⟨_, .unjudged ready holds first⟩
      · exact ⟨_, .noRecords ready lacks⟩

end Stages

/-- No report has text on both outputs: an exit code of two comes with an error, and any other with
a result. -/
theorem Answers.one_output {search input : String} {options : FieldOptions} {report : Report}
    (answers : Answers search input options (.ok report)) :
    report.outcome.code = 2 ∧ report.out = "" ∨ report.outcome.code < 2 ∧ report.errors = "" := by
  cases answers with
  | refused | unjudged => exact .inl ⟨rfl, rfl⟩
  | matched => exact .inr ⟨Nat.zero_lt_two, rfl⟩
  | unmatched => exact .inr ⟨Nat.one_lt_two, rfl⟩

/-- **The filter command answers as its stages say**, for every query, input and choice of fields:
with an error and exit code two, or with a result and no error. -/
theorem filter_eq_iff_answers (search input : String) (options : FieldOptions) :
    (∀ answer, filter search input options = answer ↔ Answers search input options answer) ∧
      ∀ report, filter search input options = .ok report →
        report.outcome.code = 2 ∧ report.out = "" ∨
          report.outcome.code < 2 ∧ report.errors = "" := by
  -- Some answer is according to the stages, and whatever is, is the one that the command gives.
  have staged : ∀ answer, filter search input options = answer →
      Answers search input options answer := by
    rintro _ rfl
    obtain ⟨answer, answers⟩ := exists_answers search input options
    rwa [filter_eq_of_answers answers]
  exact ⟨fun answer => ⟨staged answer, filter_eq_of_answers⟩,
    fun report reported => (staged _ reported).one_output⟩

/-- The query is looked at before an input that is no JSON. -/
example : filter "a=b" "nope" ⟨[], false⟩ = .ok ⟨.invalid, "",
    "Error: invalid search fragment \"a=b\": unknown operator code\n"⟩ := by
  rfl

end Command

end RecordQuery
