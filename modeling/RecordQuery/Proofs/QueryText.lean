/-
# RecordQuery.Proofs.QueryText -- which queries survive being written and read

The text of a query is its conditions' fragments between semicolons, and the first
condition's connective is neither written nor kept.  `Canonical` is the form in
which reading leaves a query, and `parse_eq_ok_iff_canonical` is the one fact that
everything else follows from: a query is read from a text exactly if it is canonical
and is written as that text, less the mark that the text may begin with.

Hence writing undoes reading and reading undoes writing (`render_of_parse`), and the
queries that survive being written and read are the canonical ones, no matter how
they were made (`parse_render_iff_canonical`).
-/
import RecordQuery.Query
import RecordQuery.Proofs.ConditionText
import RecordQuery.Proofs.Traversal

namespace RecordQuery

set_option autoImplicit false

/-! ## Semicolons -/

theorem mem_intercalate {α : Type} {x y : α} {parts : List (List α)}
    (member : y ∈ [x].intercalate parts) : y = x ∨ ∃ part ∈ parts, y ∈ part := by
  induction parts with
  | nil => simp at member
  | cons first rest ih =>
      by_cases single : rest = []
      · subst single
        exact .inr ⟨first, by simp, by simpa using member⟩
      · rw [List.intercalate_cons_of_ne_nil single, List.append_assoc] at member
        rcases List.mem_append.mp member with inFirst | inRest
        · exact .inr ⟨first, by simp, inFirst⟩
        · rcases List.mem_append.mp inRest with isSeparator | later
          · exact .inl (List.mem_singleton.mp isSeparator)
          · rcases ih later with same | ⟨part, inParts, inPart⟩
            · exact .inl same
            · exact .inr ⟨part, List.mem_cons_of_mem _ inParts, inPart⟩

theorem Operator.code_ne_semicolon (op : Operator) : op.code ≠ Query.separator := by
  rcases op with (_ | _ | _ | _) | _ | _ | _ <;> decide

/-- A fragment consists of word characters, its code and commas. -/
theorem Fragment.not_mem_text {f : Fragment} {x : Char} (valid : f.WellFormed)
    (noWordChar : Text.isWordChar x = false) (noCode : ∀ op : Operator, op.code ≠ x)
    (noComma : x ≠ Operand.separator) : x ∉ f.text := by
  have notInWord : ∀ w, Text.isWord w = true → x ∉ w := by
    intro w isWord member
    exact absurd ((Text.isWord_iff.mp isWord).2 _ member) (by simp [noWordChar])
  intro member
  rcases List.mem_append.mp member with inKey | inRest
  · exact notInWord _ valid.1 inKey
  · rcases List.mem_cons.mp inRest with isCode | inValue
    · exact noCode f.operator isCode.symm
    · rcases mem_intercalate inValue with isComma | ⟨w, inWords, inWord⟩
      · exact noComma isComma
      · exact notInWord w (valid.2.2 w inWords) inWord

namespace Condition

theorem Canonical.not_mem_render {c : Condition} {x : Char} (canonical : c.Canonical)
    (noWordChar : Text.isWordChar x = false) (noCode : ∀ op : Operator, op.code ≠ x)
    (noComma : x ≠ Operand.separator) (noMark : x ≠ orMark) : x ∉ c.render.toList := by
  rw [render_toList]
  intro member
  rcases List.mem_append.mp member with inMark | inText
  · revert inMark
    cases c.connective.getD .and <;> simp [Connective.mark, noMark]
  · exact Fragment.not_mem_text canonical.wellFormed noWordChar noCode noComma inText

theorem Canonical.semicolon_not_mem {c : Condition} (canonical : c.Canonical) :
    Query.separator ∉ c.render.toList :=
  canonical.not_mem_render (by decide) Operator.code_ne_semicolon (by decide) (by decide)

theorem Canonical.render_ne_empty {c : Condition} (canonical : c.Canonical) : c.render ≠ "" := by
  intro empty
  have keyed : c.fragment.key ≠ [] := (Text.isWord_iff.mp canonical.key).1
  have noText : c.render.toList = [] := by rw [empty]; rfl
  rw [render_toList] at noText
  simp [Fragment.text, keyed] at noText

end Condition

namespace Query

/-! ## Segments -/

theorem parseSegment_eq_ok_iff_parse {text segment : String} {c : Condition} :
    parseSegment text segment = .ok c ↔ segment ≠ "" ∧ Condition.parse segment = .ok c := by
  by_cases empty : segment = "" <;> simp [parseSegment, empty]

theorem parseSegment_eq_error_iff {text segment : String} {e : QueryError} :
    parseSegment text segment = .error e ↔
      segment = "" ∧ e = .malformed text .emptySegment ∨
        segment ≠ "" ∧ Condition.parse segment = .error e := by
  by_cases empty : segment = "" <;> simp [parseSegment, empty, eq_comm]

theorem parseSegment_eq_ok_iff (text : String) (segment : String) (c : Condition) :
    parseSegment text segment = .ok c ↔
      (c.Canonical ∧ c.connective ≠ none) ∧ c.render = segment := by
  rw [parseSegment_eq_ok_iff_parse, Condition.parse_eq_ok_iff_canonical]
  refine and_iff_right_of_imp ?_
  rintro ⟨⟨canonical, -⟩, rfl⟩
  exact canonical.render_ne_empty

/-- Texts without semicolons are the segments of a text exactly if the text is made of them. -/
theorem eq_segments_iff {parts : List String} {text : String}
    (free : ∀ part ∈ parts, separator ∉ part.toList) :
    parts = segments text ↔ parts ≠ [] ∧ separator.toString.intercalate parts = text := by
  constructor
  · rintro rfl
    refine ⟨by simp [segments, List.splitOn_ne_nil], ?_⟩
    rw [← String.toList_inj]
    simp [segments, Function.comp_def]
  · rintro ⟨nonempty, rfl⟩
    have split : ([separator].intercalate (parts.map String.toList)).splitOn separator =
        parts.map String.toList := by
      refine List.splitOn_intercalate _ (fun part member => ?_) (by simpa using nonempty)
      obtain ⟨s, inParts, rfl⟩ := List.mem_map.mp member
      exact free s inParts
    simp [segments, split, Function.comp_def]

/-- A query is read from the conditions whose fragments a text consists of. -/
theorem parse_eq_ok_iff {text : String} {q : Query} :
    parse text = .ok q ↔ ∃ cs : List Condition, cs ≠ [] ∧
      (∀ c ∈ cs, c.Canonical ∧ c.connective ≠ none) ∧
      separator.toString.intercalate (cs.map Condition.render) = text ∧ q = ⟨clearFirst cs⟩ := by
  have free : ∀ cs : List Condition, (∀ c ∈ cs, c.Canonical ∧ c.connective ≠ none) →
      ∀ part ∈ cs.map Condition.render, separator ∉ part.toList := by
    intro cs readable part member
    obtain ⟨c, inCs, rfl⟩ := List.mem_map.mp member
    exact (readable c inCs).1.semicolon_not_mem
  simp only [parse, bind_eq_ok_iff, mapM_eq_ok_iff_of_inverse (parseSegment_eq_ok_iff text)]
  constructor
  · rintro ⟨cs, ⟨readable, parts⟩, result⟩
    cases result
    obtain ⟨nonempty, whole⟩ := (eq_segments_iff (free cs readable)).mp parts
    exact ⟨cs, by simpa using nonempty, readable, whole, rfl⟩
  · rintro ⟨cs, nonempty, readable, whole, rfl⟩
    have parts := (eq_segments_iff (free cs readable)).mpr ⟨by simpa using nonempty, whole⟩
    exact ⟨cs, ⟨readable, parts⟩, rfl⟩

/-! ## The first condition -/

/-- A text without the mark that it may begin with. -/
def withoutMark (text : String) : String :=
  String.ofList (Fragment.splitMark text.toList).2

theorem withoutMark_of_mark_append {text : String} {body : List Char} {connective : Connective}
    (parts : text.toList = connective.mark ++ body) (unmarked : Condition.orMark ∉ body.head?) :
    withoutMark text = String.ofList body := by
  rw [withoutMark, parts, Fragment.splitMark_append unmarked]

/-- The first condition's connective is not written. -/
@[simp] theorem render_clearFirst (cs : List Condition) :
    render ⟨clearFirst cs⟩ = render ⟨cs⟩ := by
  cases cs <;> rfl

theorem intercalate_append_head {α : Type} (sep front first : List α) (rest : List (List α)) :
    sep.intercalate ((front ++ first) :: rest) = front ++ sep.intercalate (first :: rest) := by
  cases rest <;> simp

theorem render_cons_toList (first : Condition) (rest : List Condition) :
    (render ⟨first :: rest⟩).toList = first.fragment.text ++
      [separator].intercalate ([] :: rest.map fun c => c.render.toList) := by
  rw [← intercalate_append_head, List.append_nil, ← Condition.renderBody_toList]
  simp [render, Function.comp_def]

/-- The fragments of all conditions, the first one with its mark. -/
theorem intercalate_render_toList (first : Condition) (rest : List Condition) :
    (separator.toString.intercalate ((first :: rest).map Condition.render)).toList =
      (first.connective.getD .and).mark ++ (render ⟨first :: rest⟩).toList := by
  rw [render_cons_toList, ← List.append_assoc, ← intercalate_append_head, List.append_nil,
    ← Condition.render_toList]
  simp [Function.comp_def]

theorem unmarked_render {first : Condition} (canonical : first.Canonical)
    (rest : List Condition) : Condition.orMark ∉ (render ⟨first :: rest⟩).toList.head? := by
  rw [render_cons_toList]
  exact Fragment.unmarked_text canonical.wellFormed _

/-! ## Canonical queries -/

/-- The form in which reading leaves a query: at least one condition, the connective of exactly the
first one unset, and every condition as its own text would be read. -/
structure Canonical (q : Query) : Prop where
  nonempty : q.conditions ≠ []
  first : ∀ c ∈ q.conditions.head?, c.connective = none
  later : ∀ c ∈ q.conditions.tail, c.connective ≠ none
  conditions : ∀ c ∈ q.conditions, c.Canonical

theorem Canonical.unmarked {q : Query} (canonical : q.Canonical) :
    Condition.orMark ∉ q.render.toList.head? := by
  obtain ⟨conditions⟩ := q
  obtain ⟨first, rest, rfl⟩ := List.exists_cons_of_ne_nil canonical.nonempty
  exact unmarked_render (canonical.conditions first (by simp)) rest

theorem Canonical.withoutMark_render {q : Query} (canonical : q.Canonical) :
    withoutMark q.render = q.render := by
  have parts : q.render.toList = Connective.and.mark ++ q.render.toList := rfl
  rw [withoutMark_of_mark_append parts canonical.unmarked, String.ofList_toList]

theorem canonical_clearFirst {cs : List Condition} (nonempty : cs ≠ [])
    (readable : ∀ c ∈ cs, c.Canonical ∧ c.connective ≠ none) :
    Canonical ⟨clearFirst cs⟩ := by
  obtain ⟨first, rest, rfl⟩ := List.exists_cons_of_ne_nil nonempty
  obtain ⟨⟨canonical, -⟩, others⟩ := List.forall_mem_cons.mp readable
  refine ⟨by simp [clearFirst], by simp [clearFirst], fun c member => (others c member).2, ?_⟩
  intro c member
  rcases List.mem_cons.mp member with rfl | later
  · exact canonical.connect none
  · exact (others c later).1

/-- Reading accepts the written form of canonical queries, with or without a mark in front. -/
theorem parse_eq_ok_iff_canonical {text : String} {q : Query} :
    parse text = .ok q ↔ q.Canonical ∧ q.render = withoutMark text := by
  rw [parse_eq_ok_iff]
  constructor
  · rintro ⟨cs, nonempty, readable, rfl, rfl⟩
    refine ⟨canonical_clearFirst nonempty readable, ?_⟩
    obtain ⟨first, rest, rfl⟩ := List.exists_cons_of_ne_nil nonempty
    rw [withoutMark_of_mark_append (intercalate_render_toList first rest)
      (unmarked_render (readable first (by simp)).1 rest), String.ofList_toList, render_clearFirst]
  · rintro ⟨canonical, written⟩
    obtain ⟨conditions⟩ := q
    obtain ⟨first, rest, rfl⟩ := List.exists_cons_of_ne_nil canonical.nonempty
    obtain ⟨isFirst, isLater⟩ := List.forall_mem_cons.mp canonical.conditions
    have unset : first.connective = none := canonical.first first rfl
    let marked : Condition :=
      { first with connective := some (Fragment.splitMark text.toList).1 }
    have restored : clearFirst (marked :: rest) = first :: rest := by
      rw [clearFirst, ← unset]
    refine ⟨marked :: rest, by simp, ?_, ?_, by rw [restored]⟩
    · exact List.forall_mem_cons.mpr ⟨⟨isFirst.connect _, by simp [marked]⟩,
        fun c later => ⟨isLater c later, canonical.later c later⟩⟩
    · have body : (render ⟨marked :: rest⟩).toList = (Fragment.splitMark text.toList).2 := by
        rw [← render_clearFirst, restored, written, withoutMark, String.toList_ofList]
      rw [← String.toList_inj, intercalate_render_toList, body]
      exact Fragment.mark_append_splitMark text.toList

/-! ## Round trips -/

/-- **Writing undoes reading.**  What is read is written as the text it was read from, less the
mark in front, and is read again from there; so two texts are read as one query exactly if they
differ in that mark alone. -/
theorem render_of_parse {t u : String} {q r : Query} (readT : parse t = .ok q)
    (readU : parse u = .ok r) :
    q.render = withoutMark t ∧ parse q.render = .ok q ∧
      (q = r ↔ withoutMark t = withoutMark u) := by
  obtain ⟨canonicalQ, writtenQ⟩ := parse_eq_ok_iff_canonical.mp readT
  obtain ⟨canonicalR, writtenR⟩ := parse_eq_ok_iff_canonical.mp readU
  have again : parse q.render = .ok q :=
    parse_eq_ok_iff_canonical.mpr ⟨canonicalQ, canonicalQ.withoutMark_render.symm⟩
  refine ⟨writtenQ, again, ?_⟩
  constructor
  · rintro rfl
    rw [← writtenQ, writtenR]
  · intro same
    have readBoth : parse q.render = .ok r := parse_eq_ok_iff_canonical.mpr
      ⟨canonicalR, by rw [canonicalQ.withoutMark_render, writtenQ, same, writtenR]⟩
    rw [again] at readBoth
    exact Except.ok.inj readBoth

/-- A list whose first word is an underscore, and a comparison with a word that holds one. -/
def underscores : Query :=
  ⟨[⟨none, "a", .oneOf, .many [.text "_", .text "b"]⟩,
    ⟨some .or, "c", .compare .atLeast, .one (.text "d_e")⟩]⟩

theorem render_of_parse_underscores :
    parse "|a__,b;|c>d_e" = .ok underscores ∧ parse "a__,b;|c>d_e" = .ok underscores ∧
      underscores.render = withoutMark "|a__,b;|c>d_e" ∧
      parse underscores.render = .ok underscores ∧
      (underscores = underscores ↔ withoutMark "|a__,b;|c>d_e" = withoutMark "a__,b;|c>d_e") :=
  ⟨rfl, rfl, render_of_parse rfl rfl⟩

/-- **The queries that survive being written and read are the canonical ones.** -/
theorem parse_render_iff_canonical (q : Query) : parse q.render = .ok q ↔ q.Canonical := by
  rw [parse_eq_ok_iff_canonical]
  constructor
  · exact And.left
  · exact fun canonical => ⟨canonical, canonical.withoutMark_render.symm⟩

end Query

end RecordQuery
