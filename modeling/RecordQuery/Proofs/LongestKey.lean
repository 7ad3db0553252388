/-
# RecordQuery.Proofs.LongestKey -- a fragment is read with the longest key

A text can come apart into key, operator code and value in several ways, since the
underscore is a key character, a value character and a code.  `Greedy` singles out
one of them by the first word of the value alone, and `split?_eq_some_iff` says
that this is the one that is read.  `Greedy` fragments are the ones whose key is
longest (`key_length_lt_of_greedy`), and every text that comes apart at all comes
apart greedily (`exists_greedy`); `parse_takes_longest_key` puts the three together.
-/
import RecordQuery.Condition.Fragment
import RecordQuery.Proofs.WordSplit

namespace RecordQuery

set_option autoImplicit false

namespace Operator

/-- The underscore is the only code that is a word character. -/
theorem isWordChar_code {op : Operator} : Text.isWordChar op.code = true ↔ op = .oneOf := by
  rcases op with (_ | _ | _ | _) | _ | _ | _ <;> decide

theorem code_injective {a b : Operator} (same : a.code = b.code) : a = b := by
  have back : ofCode? a.code = ofCode? b.code := by rw [same]
  simpa using back

theorem code_ne_separator (op : Operator) : op.code ≠ Operand.separator := by
  rcases op with (_ | _ | _ | _) | _ | _ | _ <;> decide

end Operator

namespace Fragment

/-! ## Words between commas -/

theorem separator_not_mem {w : List Char} (word : Text.isWord w = true) :
    Operand.separator ∉ w := by
  intro member
  exact absurd ((Text.isWord_iff.mp word).2 _ member) (by decide)

theorem splitOn_words {words : List (List Char)} (nonempty : words ≠ [])
    (all : ∀ w ∈ words, Text.isWord w = true) :
    ([Operand.separator].intercalate words).splitOn Operand.separator = words :=
  List.splitOn_intercalate _ (fun w member => separator_not_mem (all w member)) nonempty

theorem words?_eq_some_iff {value : List Char} {words : List (List Char)} :
    words? value = some words ↔ [Operand.separator].intercalate words = value ∧ words ≠ [] ∧
      ∀ w ∈ words, Text.isWord w = true := by
  constructor
  · intro read
    simp only [words?] at read
    split at read
    · rename_i all
      cases read
      exact ⟨List.intercalate_splitOn _, List.splitOn_ne_nil _ _, List.all_eq_true.mp all⟩
    · cases read
  · rintro ⟨rfl, nonempty, all⟩
    simp only [words?, splitOn_words nonempty all]
    rw [if_pos (List.all_eq_true.mpr all)]

/-! ## The split that is read -/

section Run

variable {run value : List Char} (inRun : ∀ c ∈ run, Text.isWordChar c = true)

include inRun

/-- The split of a bare run, whose value is one word. -/
theorem split?_run : split? run =
    (Text.splitLastInner run).map fun (key, word) => ⟨key, .oneOf, [word]⟩ := by
  have taken := @Text.takeWhile_run _ run [] inRun (by simp)
  have left := @Text.dropWhile_run _ run [] inRun (by simp)
  rw [List.append_nil] at taken left
  simp [split?, taken, left]

/-- The split of a run before a comma, whose value starts inside the run. -/
theorem split?_separator : split? (run ++ Operand.separator :: value) =
    (words? value).bind fun more =>
      (Text.splitLastInner run).map fun (key, word) => ⟨key, .oneOf, word :: more⟩ := by
  have boundary : ∀ c ∈ (Operand.separator :: value).head?, Text.isWordChar c = false := by
    simp; decide
  simp [split?, Text.takeWhile_run inRun boundary, Text.dropWhile_run inRun boundary]

/-- The split of a run before any other character, which has to be the code. -/
theorem split?_code {c : Char} (boundary : Text.isWordChar c = false)
    (apart : c ≠ Operand.separator) : split? (run ++ c :: value) =
      if run = [] then none
      else (Operator.ofCode? c).bind fun operator =>
        (words? value).bind fun words => some ⟨run, operator, words⟩ := by
  have ends : ∀ d ∈ (c :: value).head?, Text.isWordChar d = false := by simpa using boundary
  simp only [split?, Text.takeWhile_run inRun ends, Text.dropWhile_run inRun ends, apart, if_false]
  rfl

end Run

/-- The key reaches as far as it can: where the code is a word character, the first word of the
value holds no other underscore that could be the code. -/
def Greedy (f : Fragment) : Prop :=
  f.operator = .oneOf → ∀ w ∈ f.words.head?, Text.NoInnerUnderscore w

theorem text_one_word (key word : List Char) :
    text ⟨key, .oneOf, [word]⟩ = key ++ '_' :: word := by
  simp [text, Operator.code]

theorem text_more_words (key word : List Char) {more : List (List Char)} (nonempty : more ≠ []) :
    text ⟨key, .oneOf, word :: more⟩ =
      (key ++ '_' :: word) ++ Operand.separator :: [Operand.separator].intercalate more := by
  simp [text, Operator.code, List.intercalate_cons_of_ne_nil nonempty]

theorem split?_text {f : Fragment} (valid : f.WellFormed) (greedy : f.Greedy) :
    split? f.text = some f := by
  obtain ⟨key, operator, words⟩ := f
  obtain ⟨isKey, nonempty, isWords⟩ := valid
  by_cases membership : operator = .oneOf
  · subst membership
    obtain ⟨word, more, rfl⟩ := List.exists_cons_of_ne_nil nonempty
    have isValue : Text.isWord word = true := isWords word (by simp)
    have inRun := Text.isWordChar_of_mem_run isKey isValue
    have apart : Text.splitLastInner (key ++ '_' :: word) = some (key, word) :=
      Text.splitLastInner_eq_some_iff.mpr ⟨rfl, (Text.isWord_iff.mp isKey).1,
        (Text.isWord_iff.mp isValue).1, greedy rfl word (by simp)⟩
    by_cases single : more = []
    · subst single
      rw [text_one_word, split?_run inRun, apart]
      rfl
    · have others : words? ([Operand.separator].intercalate more) = some more :=
        words?_eq_some_iff.mpr ⟨rfl, single, fun w member => isWords w (by simp [member])⟩
      rw [text_more_words key word single, split?_separator inRun, others, apart]
      rfl
  · have boundary : Text.isWordChar operator.code = false := by
      simpa using mt Operator.isWordChar_code.mp membership
    have value : words? ([Operand.separator].intercalate words) = some words :=
      words?_eq_some_iff.mpr ⟨rfl, nonempty, isWords⟩
    obtain ⟨keyed, inKey⟩ := Text.isWord_iff.mp isKey
    rw [text, split?_code inKey boundary operator.code_ne_separator, if_neg keyed,
      Operator.ofCode?_code, value]
    rfl

theorem split?_spec {body : List Char} {f : Fragment} (found : split? body = some f) :
    f.WellFormed ∧ f.Greedy ∧ f.text = body := by
  obtain ⟨run, rest, rfl, inRun, boundary⟩ := Text.exists_run body
  cases rest with
  | nil =>
      rw [List.append_nil, split?_run inRun] at found
      obtain ⟨⟨key, word⟩, apart, rfl⟩ := Option.map_eq_some_iff.mp found
      obtain ⟨rfl, keyed, valued, tight⟩ := Text.splitLastInner_eq_some_iff.mp apart
      obtain ⟨isKey, isValue⟩ := Text.isWord_of_run keyed valued inRun
      refine ⟨⟨isKey, by simp, by simpa using isValue⟩, ?_, ?_⟩
      · simpa [Greedy] using tight
      · rw [text_one_word, List.append_nil]
  | cons c value =>
      by_cases apart : c = Operand.separator
      · subst apart
        rw [split?_separator inRun] at found
        obtain ⟨more, others, cut⟩ := Option.bind_eq_some_iff.mp found
        obtain ⟨rfl, nonempty, isWords⟩ := words?_eq_some_iff.mp others
        obtain ⟨⟨key, word⟩, inner, rfl⟩ := Option.map_eq_some_iff.mp cut
        obtain ⟨rfl, keyed, valued, tight⟩ := Text.splitLastInner_eq_some_iff.mp inner
        obtain ⟨isKey, isValue⟩ := Text.isWord_of_run keyed valued inRun
        refine ⟨⟨isKey, by simp, by simpa using ⟨isValue, isWords⟩⟩, ?_, ?_⟩
        · simpa [Greedy] using tight
        · exact text_more_words key word nonempty
      · have outside : Text.isWordChar c = false := boundary c rfl
        rw [split?_code inRun outside apart] at found
        split at found
        · cases found
        · rename_i keyed
          obtain ⟨operator, coded, found⟩ := Option.bind_eq_some_iff.mp found
          obtain ⟨words, read, found⟩ := Option.bind_eq_some_iff.mp found
          cases found
          obtain rfl := Operator.ofCode?_eq_some_iff.mp coded
          obtain ⟨rfl, nonempty, isWords⟩ := words?_eq_some_iff.mp read
          refine ⟨⟨Text.isWord_iff.mpr ⟨keyed, inRun⟩, nonempty, isWords⟩, ?_, rfl⟩
          intro membership
          exact absurd (Operator.isWordChar_code.mpr membership) (by simp [outside])

/-- Reading splits a text into the well-formed greedy fragment of that text. -/
theorem split?_eq_some_iff {body : List Char} {f : Fragment} :
    split? body = some f ↔ f.WellFormed ∧ f.Greedy ∧ f.text = body := by
  constructor
  · exact split?_spec
  · rintro ⟨valid, greedy, rfl⟩
    exact split?_text valid greedy

/-! ## The longest key -/

/-- Two well-formed fragments of one text whose keys are equally long are one fragment. -/
theorem eq_of_text_eq {f g : Fragment} (validF : f.WellFormed) (validG : g.WellFormed)
    (text_eq : f.text = g.text) (length_eq : f.key.length = g.key.length) : f = g := by
  obtain ⟨key_eq, rest_eq⟩ := List.append_inj text_eq length_eq
  obtain ⟨code_eq, value_eq⟩ := List.cons.inj rest_eq
  have words_eq : f.words = g.words := by
    rw [← splitOn_words validF.2.1 validF.2.2, value_eq, splitOn_words validG.2.1 validG.2.2]
  have operator_eq : f.operator = g.operator := Operator.code_injective code_eq
  cases f; cases g
  simp_all

/-- Underscores can be moved from the value to the key until the key reaches as far as it can. -/
theorem exists_greedy {f : Fragment} (valid : f.WellFormed) :
    ∃ g : Fragment, g.WellFormed ∧ g.Greedy ∧ g.text = f.text ∧ f.key.length ≤ g.key.length := by
  obtain ⟨key, operator, words⟩ := f
  by_cases membership : operator = .oneOf
  · subst membership
    obtain ⟨isKey, nonempty, isWords⟩ := valid
    obtain ⟨word, more, rfl⟩ := List.exists_cons_of_ne_nil nonempty
    simp only [List.forall_mem_cons] at isWords
    obtain ⟨longer, rest, same, longer_le, isLonger, isRest, tight⟩ :=
      Text.exists_last_inner isKey isWords.1
    refine ⟨⟨longer, .oneOf, rest :: more⟩, ⟨isLonger, by simp, ?_⟩, ?_, ?_, longer_le⟩
    · simpa using ⟨isRest, isWords.2⟩
    · simpa [Greedy] using tight
    · by_cases single : more = []
      · rw [single, text_one_word, text_one_word, same]
      · rw [text_more_words _ _ single, text_more_words _ _ single, same]
  · exact ⟨_, valid, fun isMembership => absurd isMembership membership, rfl, Nat.le_refl _⟩

/-- Every other way in which a text comes apart has a shorter key than the greedy one. -/
theorem key_length_lt_of_greedy {f g : Fragment} (validF : f.WellFormed) (greedy : f.Greedy)
    (validG : g.WellFormed) (same : g.text = f.text) :
    g = f ∨ g.key.length < f.key.length := by
  obtain ⟨h, validH, greedyH, sameH, le⟩ := exists_greedy validG
  have read : split? f.text = some h := split?_eq_some_iff.mpr ⟨validH, greedyH, sameH.trans same⟩
  rw [split?_text validF greedy] at read
  obtain rfl := Option.some.inj read
  rcases Nat.lt_or_eq_of_le le with lt | eq
  · exact .inr lt
  · exact .inl (eq_of_text_eq validG validF same eq)

/-! ## The operand of a value -/

/-- The text of the value. -/
def value (f : Fragment) : List Char :=
  [Operand.separator].intercalate f.words

/-- A value is a list if its operator is the list operator or if it holds a comma. -/
theorem operand_eq {f : Fragment} (valid : f.WellFormed) :
    f.operand =
      if f.operator = .oneOf ∨ Operand.separator ∈ f.value then
        .many (f.words.map fun w => .text (String.ofList w))
      else .one (.text (String.ofList f.value)) := by
  obtain ⟨key, operator, words⟩ := f
  obtain ⟨-, nonempty, isWords⟩ := valid
  obtain ⟨word, more, rfl⟩ := List.exists_cons_of_ne_nil nonempty
  have free : Operand.separator ∉ word := separator_not_mem (isWords word (by simp))
  cases more with
  | nil => cases operator <;> simp [operand, value, free]
  | cons next more => cases operator <;> simp [operand, value]

end Fragment

/-! ## The mark of the connective -/

/-- What stands in front of a fragment for its connective. -/
def Connective.mark : Connective → List Char
  | .and => []
  | .or => [Condition.orMark]

namespace Fragment

theorem mark_append_splitMark (t : List Char) :
    (splitMark t).1.mark ++ (splitMark t).2 = t := by
  cases t with
  | nil => rfl
  | cons c rest =>
      by_cases marked : c = Condition.orMark <;> simp [splitMark, marked, Connective.mark]

theorem splitMark_append {body : List Char} (unmarked : Condition.orMark ∉ body.head?)
    (connective : Connective) : splitMark (connective.mark ++ body) = (connective, body) := by
  cases connective with
  | or => simp [splitMark, Connective.mark]
  | and =>
      cases body with
      | nil => rfl
      | cons c rest =>
          have other : c ≠ Condition.orMark := by simpa using unmarked
          simp [splitMark, Connective.mark, other]

/-- A fragment starts with its key, which no mark is part of. -/
theorem unmarked_text {f : Fragment} (valid : f.WellFormed) (rest : List Char) :
    Condition.orMark ∉ (f.text ++ rest).head? := by
  obtain ⟨keyed, inKey⟩ := Text.isWord_iff.mp valid.1
  obtain ⟨first, more, shape⟩ := List.exists_cons_of_ne_nil keyed
  have wordChar : Text.isWordChar first = true := inKey first (by simp [shape])
  rw [text, shape]
  rintro marked
  obtain rfl : first = Condition.orMark := by simpa using marked
  exact absurd wordChar (by decide)

theorem splitMark_text {f : Fragment} (valid : f.WellFormed) (connective : Connective) :
    splitMark (connective.mark ++ f.text) = (connective, f.text) :=
  splitMark_append (by simpa using unmarked_text valid []) connective

/-- A way in which a text comes apart: the mark of a connective, then a well-formed fragment. -/
structure Spells (f : Fragment) (connective : Connective) (text : String) : Prop where
  wellFormed : f.WellFormed
  parts : text.toList = connective.mark ++ f.text

end Fragment

namespace Condition

theorem parse_eq_ok_iff {text : String} {c : Condition} :
    parse text = .ok c ↔ ∃ connective f, Fragment.Spells f connective text ∧ f.Greedy ∧
      c = f.toCondition connective := by
  have whole := Fragment.mark_append_splitMark text.toList
  constructor
  · intro read
    simp only [parse] at read
    split at read
    · rename_i f found
      cases read
      obtain ⟨valid, greedy, body⟩ := Fragment.split?_spec found
      exact ⟨_, f, ⟨valid, by rw [body, whole]⟩, greedy, rfl⟩
    · cases read
  · rintro ⟨connective, f, ⟨valid, parts⟩, greedy, rfl⟩
    simp only [parse, parts, Fragment.splitMark_text valid, Fragment.split?_text valid greedy]

theorem parse_eq_error {text : String} {e : QueryError} (failed : parse text = .error e) :
    (¬ ∃ connective f, Fragment.Spells f connective text) ∧ ∃ fault, e = .malformed text fault := by
  simp only [parse] at failed
  split at failed
  · cases failed
  · rename_i unread
    cases failed
    refine ⟨?_, _, rfl⟩
    rintro ⟨connective, f, ⟨valid, parts⟩⟩
    obtain ⟨g, validG, greedy, same, -⟩ := Fragment.exists_greedy valid
    rw [parts, Fragment.splitMark_text valid, ← same, Fragment.split?_text validG greedy] at unread
    cases unread

/-- **Reading takes the longest key.**  A fragment is read exactly if its text comes apart into
mark, key, code and value; of all the ways in which it does, the one with the longest key is read,
and no other has a key as long.  A text that does not come apart is itself named in the error. -/
theorem parse_takes_longest_key (text : String) :
    ((∃ c, parse text = .ok c) ↔ ∃ connective f, Fragment.Spells f connective text) ∧
    (∀ c, parse text = .ok c → ∃ connective f, Fragment.Spells f connective text ∧
      (∀ connective' g, Fragment.Spells g connective' text →
        connective' = connective ∧ (g = f ∨ g.key.length < f.key.length)) ∧
      c.connective = some connective ∧ c.key = String.ofList f.key ∧ c.operator = f.operator ∧
      c.operand =
        if f.operator = .oneOf ∨ Operand.separator ∈ f.value then
          .many (f.words.map fun w => .text (String.ofList w))
        else .one (.text (String.ofList f.value))) ∧
    ((¬ ∃ connective f, Fragment.Spells f connective text) →
      ∃ fault, parse text = .error (.malformed text fault)) := by
  refine ⟨⟨?_, ?_⟩, ?_, ?_⟩
  · rintro ⟨c, read⟩
    obtain ⟨connective, f, spells, -, -⟩ := parse_eq_ok_iff.mp read
    exact ⟨connective, f, spells⟩
  · rintro ⟨connective, f, spells⟩
    cases result : parse text with
    | ok c => exact ⟨c, rfl⟩
    | error e => exact absurd ⟨connective, f, spells⟩ (parse_eq_error result).1
  · intro c read
    obtain ⟨connective, f, spells, greedy, rfl⟩ := parse_eq_ok_iff.mp read
    refine ⟨connective, f, spells, ?_, rfl, rfl, rfl, Fragment.operand_eq spells.wellFormed⟩
    intro connective' g spellsG
    have sides : (connective', g.text) = (connective, f.text) := by
      rw [← Fragment.splitMark_text spellsG.wellFormed, ← spellsG.parts, spells.parts,
        Fragment.splitMark_text spells.wellFormed]
    obtain ⟨marks, texts⟩ := Prod.mk.inj sides
    exact ⟨marks,
      Fragment.key_length_lt_of_greedy spells.wellFormed greedy spellsG.wellFormed texts⟩
  · intro apart
    cases result : parse text with
    | ok c =>
        obtain ⟨connective, f, spells, -, -⟩ := parse_eq_ok_iff.mp result
        exact absurd ⟨connective, f, spells⟩ apart
    | error e =>
        obtain ⟨-, fault, rfl⟩ := parse_eq_error result
        exact ⟨fault, rfl⟩

/-- Of three underscores the first is the key and the last is the value. -/
example : parse "___" = .ok ⟨some .and, "_", .oneOf, .many [.text "_"]⟩ := rfl

end Condition

end RecordQuery
