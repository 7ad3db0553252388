/-
# RecordQuery.Proofs.Diagnosis -- texts are refused for what they show

A text that is not read as a condition is refused with a reason, found by a list of
questions about its leading word and the characters behind it.  The questions are not those
of the reader, so a reason can be right only because the reader has refused the text: one
word with an underscore inside it, or a clean value behind a code, would have been read.
`Shows` says of every reason, in terms of the text alone, what the text must be like for it,
and `shows_diagnose` that every refused text is like that; `refused_for_what_it_shows` puts
it in the words of the reasons.

One reason claims too much.  A separator behind the leading word is taken for the end of an
empty element, because the code of the list operator may be the last character of that word.
But the word may end with an element as well, or hold no code at all: then an element is
blamed although none is empty (`StraySeparator`).  `empty_element_or_stray` says that this is
the only way in which the reason is wrong, and that all such texts are refused for it;
`stray_separator_refused` has one of them.
-/
import RecordQuery.Proofs.JoinedText
import RecordQuery.Proofs.ListElements

namespace RecordQuery

set_option autoImplicit false

namespace Fragment

/-! ## The diagnosis of a text, by its leading run -/

theorem not_gap_of_word {run : List Char} (inRun : ∀ c ∈ run, Text.isWordChar c = true) :
    ¬ Gap run := by
  intro gap
  exact absurd (inRun _ gap.mem) (by decide)

section Run

variable {run : List Char} (inRun : ∀ c ∈ run, Text.isWordChar c = true) (keyed : run ≠ [])

include inRun keyed

theorem diagnose_word :
    diagnose run = if run.getLast? = some '_' then .missingValue else .missingOperator := by
  have taken := @Text.takeWhile_run _ run [] inRun (by simp)
  have left := @Text.dropWhile_run _ run [] inRun (by simp)
  have noGap := mt gap_iff.mpr (not_gap_of_word inRun)
  rw [List.append_nil] at taken left
  simp only [diagnose, taken, left, keyed, noGap, List.head?_nil, reduceCtorEq, false_or, if_false]
  rfl

theorem diagnose_separator (value : List Char) :
    diagnose (run ++ Operand.separator :: value) = .emptyListElement := by
  have boundary : ∀ c ∈ (Operand.separator :: value).head?, Text.isWordChar c = false := by
    simp; decide
  simp [diagnose, Text.takeWhile_run inRun boundary, Text.dropWhile_run inRun boundary, keyed]

theorem diagnose_gap {c : Char} {value : List Char} (outside : Text.isWordChar c = false)
    (gap : Gap (run ++ c :: value)) : diagnose (run ++ c :: value) = .emptyListElement := by
  have boundary : ∀ d ∈ (c :: value).head?, Text.isWordChar d = false := by simpa using outside
  simp only [diagnose, Text.takeWhile_run inRun boundary, Text.dropWhile_run inRun boundary, keyed,
    List.append_eq_nil_iff, false_and, if_false, gap_iff.mp gap, or_true, if_true]

theorem diagnose_character {c : Char} {value : List Char} (outside : Text.isWordChar c = false)
    (apart : c ≠ Operand.separator) (noGap : ¬ Gap (run ++ c :: value)) :
    diagnose (run ++ c :: value) =
      if Operator.ofCode? c = none then .unknownOperatorCode
      else if value = [] then .missingValue
      else if value.head? = some Operand.separator then .emptyListElement
      else .invalidValueCharacter := by
  have boundary : ∀ d ∈ (c :: value).head?, Text.isWordChar d = false := by simpa using outside
  have unbroken := mt gap_iff.mpr noGap
  simp only [diagnose, Text.takeWhile_run inRun boundary, Text.dropWhile_run inRun boundary, keyed,
    List.append_eq_nil_iff, false_and, if_false, unbroken, List.head?_cons, Option.some.injEq,
    apart, or_false]
  cases value <;> simp

end Run

theorem split?_outside {c : Char} {rest : List Char} (outside : Text.isWordChar c = false) :
    split? (c :: rest) = none := by
  rw [Option.eq_none_iff_forall_ne_some]
  intro f read
  obtain ⟨⟨isKey, -⟩, -, same⟩ := split?_spec read
  obtain ⟨keyed, inKey⟩ := Text.isWord_iff.mp isKey
  obtain ⟨first, more, shape⟩ := List.exists_cons_of_ne_nil keyed
  have isFirst : first = c := by
    rw [text, shape] at same
    exact (List.cons.inj same).1
  rw [← isFirst, inKey first (by simp [shape])] at outside
  cases outside

theorem diagnose_outside {c : Char} {rest : List Char} (outside : Text.isWordChar c = false) :
    diagnose (c :: rest) = .missingKey := by
  simp [diagnose, outside]

/-! ## What a text is refused for -/

/-- The leading word ends at a separator, and what keeps the text from being read is not a missing
element: the word holds no code that could end a key in front of the separator, or a character
behind it has no place in a value. -/
def StraySeparator (body : List Char) : Prop :=
  ∃ word value, body = word ++ Operand.separator :: value ∧ Text.isWord word = true ∧
    ('_' ∉ word.tail ∨ ∃ c ∈ value, Foreign c)

/-- The text has the fault. -/
def Shows : TextFault → List Char → Prop
  | .emptyFragment, body => body = []
  | .missingKey, body => ∃ c rest, body = c :: rest ∧ Text.isWordChar c = false
  | .missingOperator, body => Text.isWord body = true ∧ body ≠ ['_'] ∧ '_' ∉ body.tail
  | .missingValue, body =>
    (Text.isWord body = true ∧ body.getLast? = some '_') ∨
      ∃ word, ∃ op : Operator, body = word ++ [op.code] ∧ Text.isWord word = true ∧ op ≠ .oneOf
  | .emptyListElement, body => EmptyElement body ∨ StraySeparator body
  | .unknownOperatorCode, body =>
    ∃ word c rest, body = word ++ c :: rest ∧ Text.isWord word = true ∧ Foreign c ∧
      ∀ op : Operator, c ≠ op.code
  | .invalidValueCharacter, body =>
    ∃ word, ∃ op : Operator, ∃ value, body = word ++ op.code :: value ∧
      Text.isWord word = true ∧ op ≠ .oneOf ∧ ∃ c ∈ value, Foreign c
  | .emptySegment, _ | .unknownOperation, _ => False

section Run

variable {run value : List Char} (isWord : Text.isWord run = true)

include isWord

theorem emptyElement_or_stray (unread : split? (run ++ Operand.separator :: value) = none) :
    EmptyElement (run ++ Operand.separator :: value) ∨
      StraySeparator (run ++ Operand.separator :: value) := by
  rw [split?_separator (Text.isWord_iff.mp isWord).2] at unread
  cases read : words? value with
  | none =>
      rcases gap_or_foreign read with gap | foreign
      · exact .inl (.inl (gap.append_left run))
      · exact .inr ⟨run, value, rfl, isWord, .inr foreign⟩
  | some more =>
      have inside : Text.NoInnerUnderscore run.tail := by
        rw [← Text.splitLastInner_eq_none_iff]
        simpa [read] using unread
      by_cases last : run.getLast? = some '_'
      · obtain ⟨front, rfl⟩ := List.getLast?_eq_some_iff.mp last
        exact .inl (.inr ⟨.oneOf, front, value, by simp [Operator.code]⟩)
      · exact .inr ⟨run, value, rfl, isWord, .inl (Text.underscore_not_mem_tail inside last)⟩

/-- A text with a key and a code is read unless a character of its value is foreign, an element is
missing from it or it is empty. -/
theorem exists_foreign {op : Operator} (outside : Text.isWordChar op.code = false)
    (noGap : ¬ Gap (run ++ op.code :: value)) (nonempty : value ≠ [])
    (first : value.head? ≠ some Operand.separator)
    (unread : split? (run ++ op.code :: value) = none) : ∃ c ∈ value, Foreign c := by
  obtain ⟨keyed, inRun⟩ := Text.isWord_iff.mp isWord
  rw [split?_code inRun outside op.code_ne_separator, if_neg keyed, Operator.ofCode?_code,
    Option.bind_some] at unread
  have noValue : words? value = none := by
    rw [Option.eq_none_iff_forall_ne_some]
    simpa using unread
  refine (gap_or_foreign noValue).resolve_left fun gap => ?_
  rcases gap.of_separator_cons with empty | double | inside
  · exact nonempty empty
  · exact first double
  · refine noGap ?_
    rw [List.append_cons]
    exact inside.append_left _

theorem shows_diagnose_word (unread : split? run = none) : Shows (diagnose run) run := by
  obtain ⟨keyed, inRun⟩ := Text.isWord_iff.mp isWord
  have inside : Text.NoInnerUnderscore run.tail := by
    rw [← Text.splitLastInner_eq_none_iff]
    simpa [split?_run inRun] using unread
  rw [diagnose_word inRun keyed]
  split
  · rename_i last
    exact Or.inl ⟨isWord, last⟩
  · rename_i last
    refine ⟨isWord, ?_, Text.underscore_not_mem_tail inside last⟩
    rintro rfl
    exact last rfl

theorem shows_diagnose_code {op : Operator} (outside : Text.isWordChar op.code = false)
    (noGap : ¬ Gap (run ++ op.code :: value)) (unread : split? (run ++ op.code :: value) = none) :
    Shows (diagnose (run ++ op.code :: value)) (run ++ op.code :: value) := by
  obtain ⟨keyed, inRun⟩ := Text.isWord_iff.mp isWord
  have other : op ≠ .oneOf := by
    rintro rfl
    exact absurd outside (by decide)
  rw [diagnose_character inRun keyed outside op.code_ne_separator noGap, Operator.ofCode?_code,
    if_neg (by simp)]
  by_cases empty : value = []
  · rw [if_pos empty, empty]
    exact Or.inr ⟨run, op, rfl, isWord, other⟩
  rw [if_neg empty]
  by_cases first : value.head? = some Operand.separator
  · obtain ⟨tail, rfl⟩ := List.head?_eq_some_iff.mp first
    rw [if_pos first]
    exact Or.inl (.inr ⟨op, run, tail, by simp⟩)
  · rw [if_neg first]
    exact ⟨run, op, value, rfl, isWord, other,
      exists_foreign isWord outside noGap empty first unread⟩

theorem shows_diagnose_foreign {c : Char} (foreign : Foreign c)
    (noCode : Operator.ofCode? c = none) (noGap : ¬ Gap (run ++ c :: value)) :
    Shows (diagnose (run ++ c :: value)) (run ++ c :: value) := by
  obtain ⟨keyed, inRun⟩ := Text.isWord_iff.mp isWord
  rw [diagnose_character inRun keyed foreign.1 foreign.2 noGap, if_pos noCode]
  refine ⟨run, c, value, rfl, isWord, foreign, ?_⟩
  rintro op rfl
  rw [Operator.ofCode?_code] at noCode
  cases noCode

end Run

/-- **A text that is not read shows the fault that is named.** -/
theorem shows_diagnose {body : List Char} (unread : split? body = none) :
    Shows (diagnose body) body := by
  -- The first character behind the leading run decides which question is answered.
  obtain ⟨run, rest, rfl, inRun, boundary⟩ := Text.exists_run body
  by_cases keyed : run = []
  · subst keyed
    cases rest with
    | nil => exact (rfl : ([] : List Char) = [])
    | cons c rest =>
        rw [List.nil_append, diagnose_outside (boundary c rfl)]
        exact ⟨c, rest, rfl, boundary c rfl⟩
  have isWord : Text.isWord run = true := Text.isWord_iff.mpr ⟨keyed, inRun⟩
  cases rest with
  | nil =>
      rw [List.append_nil] at unread ⊢
      exact shows_diagnose_word isWord unread
  | cons c value =>
      have outside : Text.isWordChar c = false := boundary c rfl
      by_cases apart : c = Operand.separator
      · subst apart
        rw [diagnose_separator inRun keyed]
        exact emptyElement_or_stray isWord unread
      by_cases gap : Gap (run ++ c :: value)
      · rw [diagnose_gap inRun keyed outside gap]
        exact Or.inl (.inl gap)
      cases coded : Operator.ofCode? c with
      | none => exact shows_diagnose_foreign isWord ⟨outside, apart⟩ coded gap
      | some op =>
          obtain rfl := Operator.ofCode?_eq_some_iff.mp coded
          exact shows_diagnose_code isWord outside gap unread

end Fragment

namespace Condition

open Fragment
open Query (withoutMark)

/-- The text is refused, and this is the reason given. -/
def RefusedFor (text reason : String) : Prop :=
  ∃ fault : TextFault, parse text = .error (.malformed text fault) ∧ fault.reason = reason

theorem parse_eq_error_iff {text : String} {e : QueryError} :
    parse text = .error e ↔ split? (withoutMark text).toList = none ∧
      e = .malformed text (diagnose (withoutMark text).toList) := by
  simp only [parse, withoutMark, String.toList_ofList]
  split
  · rename_i found
    simp [found]
  · rename_i unread
    simp [unread, eq_comm]

theorem refusedFor_reason_iff {text : String} {fault : TextFault} :
    RefusedFor text fault.reason ↔ split? (withoutMark text).toList = none ∧
      diagnose (withoutMark text).toList = fault := by
  simp only [RefusedFor, parse_eq_error_iff, QueryError.malformed.injEq, true_and,
    TextFault.reason_injective.eq_iff]
  constructor
  · rintro ⟨_, ⟨unread, rfl⟩, rfl⟩
    exact ⟨unread, rfl⟩
  · rintro ⟨unread, rfl⟩
    exact ⟨_, ⟨unread, rfl⟩, rfl⟩

theorem shows_of_refusedFor {text : String} {fault : TextFault}
    (refused : RefusedFor text fault.reason) : Shows fault (withoutMark text).toList := by
  obtain ⟨unread, rfl⟩ := refusedFor_reason_iff.mp refused
  exact shows_diagnose unread

theorem refusedFor_emptyFragment_iff {text : String} :
    RefusedFor text TextFault.emptyFragment.reason ↔ (withoutMark text).toList = [] := by
  refine ⟨shows_of_refusedFor, fun empty => ?_⟩
  rw [refusedFor_reason_iff, empty]
  exact ⟨rfl, rfl⟩

theorem refusedFor_missingKey_iff {text : String} :
    RefusedFor text TextFault.missingKey.reason ↔
      ∃ c rest, (withoutMark text).toList = c :: rest ∧ Text.isWordChar c = false := by
  refine ⟨shows_of_refusedFor, ?_⟩
  rintro ⟨c, rest, body, outside⟩
  rw [refusedFor_reason_iff, body]
  exact ⟨split?_outside outside, diagnose_outside outside⟩

/-- **A text is refused for what it shows.**  What is wrong is that there is nothing, exactly if
the text is empty without its mark, and that there is no key, exactly if it does not begin with a
word character.  A text without an operator is one word, with no underscore that could be the code;
one without a value ends with the code; one with an unknown operator has a character that is neither
a code nor a separator behind its first word; and one with an invalid character in its value has a
code there, and behind it a character that is in no value.  The only other reason is that an element
of a list is missing. -/
theorem refused_for_what_it_shows (text : String) :
    (RefusedFor text "empty fragment" ↔ (withoutMark text).toList = []) ∧
    (RefusedFor text "missing key" ↔
      ∃ c rest, (withoutMark text).toList = c :: rest ∧ Text.isWordChar c = false) ∧
    (RefusedFor text "missing operator" →
      Text.isWord (withoutMark text).toList = true ∧ (withoutMark text).toList ≠ ['_'] ∧
        '_' ∉ (withoutMark text).toList.tail) ∧
    (RefusedFor text "missing value" →
      (Text.isWord (withoutMark text).toList = true ∧
          (withoutMark text).toList.getLast? = some '_') ∨
        ∃ word, ∃ op : Operator, (withoutMark text).toList = word ++ [op.code] ∧
          Text.isWord word = true ∧ op ≠ .oneOf) ∧
    (RefusedFor text "unknown operator code" →
      ∃ word c rest, (withoutMark text).toList = word ++ c :: rest ∧ Text.isWord word = true ∧
        Foreign c ∧ ∀ op : Operator, c ≠ op.code) ∧
    (RefusedFor text "invalid character in value" →
      ∃ word, ∃ op : Operator, ∃ value, (withoutMark text).toList = word ++ op.code :: value ∧
        Text.isWord word = true ∧ op ≠ .oneOf ∧ ∃ c ∈ value, Foreign c) ∧
    ∀ e, parse text = .error e → ∃ fault : TextFault, e = .malformed text fault ∧
      fault.reason ∈ ["empty fragment", "missing key", "missing operator", "missing value",
        "unknown operator code", "invalid character in value", "empty list element"] := by
  refine ⟨refusedFor_emptyFragment_iff, refusedFor_missingKey_iff,
    @shows_of_refusedFor text .missingOperator, @shows_of_refusedFor text .missingValue,
    @shows_of_refusedFor text .unknownOperatorCode,
    @shows_of_refusedFor text .invalidValueCharacter, fun e failed => ?_⟩
  obtain ⟨unread, rfl⟩ := parse_eq_error_iff.mp failed
  refine ⟨_, rfl, ?_⟩
  have shown := shows_diagnose unread
  cases fault : diagnose (withoutMark text).toList with
  | emptySegment | unknownOperation =>
      rw [fault] at shown
      exact shown.elim
  | _ => simp [TextFault.reason]

/-! ## Empty elements -/

theorem refusedFor_emptyListElement_of_stray {text : String}
    (stray : StraySeparator (withoutMark text).toList) :
    RefusedFor text TextFault.emptyListElement.reason := by
  obtain ⟨word, value, body, isWord, cause⟩ := stray
  obtain ⟨keyed, inRun⟩ := Text.isWord_iff.mp isWord
  rw [refusedFor_reason_iff, body, split?_separator inRun]
  refine ⟨?_, diagnose_separator inRun keyed value⟩
  rcases cause with noCode | ⟨c, member, foreign⟩
  · have inside : Text.NoInnerUnderscore word.tail :=
      fun inner => noCode (List.dropLast_subset _ inner)
    simp [Text.splitLastInner_eq_none_iff.mpr inside]
  · rw [words?_eq_none_of_foreign member foreign, Option.bind_none]

/-- **A text that is refused for an empty element has one**, unless the separator behind its first
word is a stray one; and every text with a stray separator is refused for an empty element. -/
theorem empty_element_or_stray (text : String) :
    (RefusedFor text "empty list element" →
      EmptyElement (withoutMark text).toList ∨ StraySeparator (withoutMark text).toList) ∧
    (StraySeparator (withoutMark text).toList → RefusedFor text "empty list element") :=
  ⟨@shows_of_refusedFor text .emptyListElement, refusedFor_emptyListElement_of_stray⟩

/-- Two words with no code at all. -/
example : RefusedFor "a,b" "empty list element" := ⟨.emptyListElement, by decide +kernel, rfl⟩

/-- **A blank is taken for an empty element** where the list operator stands in front of it.  Behind
another operator the same value is refused for the blank. -/
theorem stray_separator_refused :
    RefusedFor "id_1,x y" "empty list element" ∧
      ¬ EmptyElement (withoutMark "id_1,x y").toList ∧
      RefusedFor "id:1,x y" "invalid character in value" := by
  refine ⟨⟨.emptyListElement, by decide +kernel, rfl⟩, ?_,
    ⟨.invalidValueCharacter, by decide +kernel, rfl⟩⟩
  have body : (withoutMark "id_1,x y").toList = ['i', 'd', '_', '1', ',', 'x', ' ', 'y'] := by
    decide +kernel
  rw [body]
  rintro ((double | last) | ⟨op, coded⟩)
  · exact absurd double (by decide)
  · exact absurd last (by decide)
  · rcases op with (_ | _ | _ | _) | _ | _ | _ <;> exact absurd coded (by decide)

end Condition

end RecordQuery
