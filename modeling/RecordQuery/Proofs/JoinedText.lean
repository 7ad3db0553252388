/-
# RecordQuery.Proofs.JoinedText -- texts of queries put together with a semicolon

A text is read segment by segment, so reading two texts with a semicolon between them is
reading each of them (`segments_append`).  What one segment is read as does not depend
on the rest of the text, with two exceptions: an empty segment is a fault of the text
it stands in, and the condition of the first segment loses its connective.  Where a text
follows another, its first condition has the connective that its mark says, so putting
the conditions together means setting it again (`connectFirst`).

`parse_joined` says both halves: which joined texts are read, and as what; and which
fault is reported of a text that is not.
-/
import RecordQuery.Proofs.QueryText

namespace RecordQuery

set_option autoImplicit false

theorem TextFault.reason_injective : Function.Injective TextFault.reason := by
  intro a b same
  cases a <;> cases b <;> first | rfl | exact absurd same (by decide)

/-- The mark is the first character of the text, or there is none. -/
theorem Fragment.splitMark_connective (t : List Char) :
    (splitMark t).1 = if t.head? = some Condition.orMark then .or else .and := by
  cases t with
  | nil => rfl
  | cons c rest =>
      simp only [splitMark, List.head?_cons, Option.some.injEq]
      split <;> rfl

theorem Condition.connective_of_parse {text : String} {c : Condition}
    (read : Condition.parse text = .ok c) :
    c.connective = some (Fragment.splitMark text.toList).1 := by
  obtain ⟨connective, f, spells, -, rfl⟩ := Condition.parse_eq_ok_iff.mp read
  rw [spells.parts, Fragment.splitMark_text spells.wellFormed]
  rfl

namespace Query

/-! ## Segments -/

/-- **A semicolon separates the segments before it from those behind it.** -/
theorem segments_append (a b : String) :
    segments (a ++ separator.toString ++ b) = segments a ++ segments b := by
  have parts : (a ++ separator.toString ++ b).toList = a.toList ++ separator :: b.toList := by
    simp
  rw [segments, parts, List.splitOn_append_cons_self, List.map_append, segments, segments]

theorem segments_ne_nil (text : String) : segments text ≠ [] := by
  simp [segments, List.splitOn_ne_nil]

/-- A text begins as its first segment does, unless that is empty. -/
theorem head?_of_segments {text first : String} {rest : List String}
    (parts : segments text = first :: rest) (nonempty : first ≠ "") :
    text.toList.head? = first.toList.head? := by
  obtain ⟨front, more, split, rfl, -⟩ := List.map_eq_cons_iff.mp parts
  have whole : text.toList = front ++ [separator].intercalate ([] :: more) := by
    rw [← intercalate_append_head, List.append_nil, ← split, List.intercalate_splitOn]
  have begun : front ≠ [] := by
    rintro rfl
    exact nonempty rfl
  rw [whole, List.head?_append_of_ne_nil _ begun, String.toList_ofList]

/-! ## Reading segments -/

/-- The conditions of some segments, of whichever text they are. -/
def ReadAs (parts : List String) (cs : List Condition) : Prop :=
  List.Forall₂ (fun part c => part ≠ "" ∧ Condition.parse part = .ok c) parts cs

theorem mapM_parseSegment_eq_ok_iff (text : String) {parts : List String} {cs : List Condition} :
    parts.mapM (parseSegment text) = .ok cs ↔ ReadAs parts cs := by
  simp only [mapM_eq_ok_iff, parseSegment_eq_ok_iff_parse, ReadAs]

theorem parse_eq_ok_iff_readAs {text : String} {q : Query} :
    parse text = .ok q ↔ ∃ cs, ReadAs (segments text) cs ∧ q = ⟨clearFirst cs⟩ := by
  simp only [parse, bind_eq_ok_iff, mapM_parseSegment_eq_ok_iff]
  refine exists_congr fun cs => and_congr_right fun _ => ?_
  exact ⟨fun result => (Except.ok.inj result).symm, fun result => by rw [result]; rfl⟩

theorem readAs_append_iff {parts more : List String} {cs : List Condition} :
    ReadAs (parts ++ more) cs ↔
      ∃ front back, ReadAs parts front ∧ ReadAs more back ∧ cs = front ++ back := by
  simp only [← mapM_parseSegment_eq_ok_iff "", List.mapM_append, bind_eq_ok_iff]
  constructor
  · rintro ⟨front, readFront, back, readBack, result⟩
    cases result
    exact ⟨front, back, readFront, readBack, rfl⟩
  · rintro ⟨front, back, readFront, readBack, rfl⟩
    exact ⟨front, readFront, back, readBack, rfl⟩

/-! ## Putting conditions together -/

/-- Sets the connective of the first condition. -/
def connectFirst (connective : Connective) : List Condition → List Condition
  | [] => []
  | first :: rest => { first with connective := some connective } :: rest

/-- The conditions that have been read, apart from the first connective's being cleared. -/
theorem connectFirst_clearFirst {text : String} {cs : List Condition}
    (read : ReadAs (segments text) cs) :
    connectFirst (if text.toList.head? = some Condition.orMark then .or else .and)
      (clearFirst cs) = cs := by
  obtain ⟨segment, rest, parts⟩ := List.exists_cons_of_ne_nil (segments_ne_nil text)
  rw [parts] at read
  obtain ⟨c, more, ⟨nonempty, readFirst⟩, -, rfl⟩ := List.forall₂_cons_left_iff.mp read
  have connective := Condition.connective_of_parse readFirst
  rw [Fragment.splitMark_connective, ← head?_of_segments parts nonempty] at connective
  rw [clearFirst, connectFirst, ← connective]

theorem clearFirst_append {cs ds : List Condition} (nonempty : cs ≠ []) :
    clearFirst (cs ++ ds) = clearFirst cs ++ ds := by
  obtain ⟨first, rest, rfl⟩ := List.exists_cons_of_ne_nil nonempty
  rfl

theorem ReadAs.ne_nil {text : String} {cs : List Condition} (read : ReadAs (segments text) cs) :
    cs ≠ [] := by
  rintro rfl
  exact segments_ne_nil text (List.forall₂_nil_right_iff.mp read)

/-- Two texts with a semicolon between them are read as the conditions of both. -/
theorem parse_append_eq_ok_iff {a b : String} {q : Query} :
    parse (a ++ separator.toString ++ b) = .ok q ↔
      ∃ cs ds, ReadAs (segments a) cs ∧ ReadAs (segments b) ds ∧ q = ⟨clearFirst cs ++ ds⟩ := by
  rw [parse_eq_ok_iff_readAs, segments_append]
  constructor
  · rintro ⟨_, read, rfl⟩
    obtain ⟨cs, ds, readA, readB, rfl⟩ := readAs_append_iff.mp read
    exact ⟨cs, ds, readA, readB, by rw [clearFirst_append readA.ne_nil]⟩
  · rintro ⟨cs, ds, readA, readB, rfl⟩
    exact ⟨cs ++ ds, readAs_append_iff.mpr ⟨cs, ds, readA, readB, rfl⟩,
      by rw [clearFirst_append readA.ne_nil]⟩

/-! ## The first fault -/

/-- A text is refused for its first segment that is empty or that is no fragment. -/
theorem parse_eq_error_iff {text : String} {e : QueryError} :
    parse text = .error e ↔ ∃ front segment back, segments text = front ++ segment :: back ∧
      (∀ part ∈ front, part ≠ "" ∧ ∃ c, Condition.parse part = .ok c) ∧
      (segment = "" ∧ e = .malformed text .emptySegment ∨
        segment ≠ "" ∧ Condition.parse segment = .error e) := by
  rw [parse, bind_pure_eq_error_iff, mapM_eq_error_iff, FirstError]
  simp only [parseSegment_eq_ok_iff_parse, parseSegment_eq_error_iff, exists_and_left]

/-- **Reading goes part by part**, and stops at the first fault.  Two texts with a semicolon
between them are read exactly if each of them is, as the conditions of the first text followed by
those of the second, of which the first is connected as the mark of its text says.  A text that is
refused is so for the first of its segments that is empty or that is no fragment: an empty one is a
fault of the whole text, and any other is refused for the fault that it has by itself. -/
theorem parse_joined (a b : String) :
    ((∃ q, parse (a ++ ";" ++ b) = .ok q) ↔ (∃ q, parse a = .ok q) ∧ ∃ r, parse b = .ok r) ∧
    (∀ q r, parse a = .ok q → parse b = .ok r →
      parse (a ++ ";" ++ b) = .ok ⟨q.conditions ++
        connectFirst (if b.toList.head? = some '|' then .or else .and) r.conditions⟩) ∧
    ∀ text e, parse text = .error e ↔
      ∃ front segment back,
        (text.toList.splitOn ';').map String.ofList = front ++ segment :: back ∧
        (∀ part ∈ front, part ≠ "" ∧ ∃ c, Condition.parse part = .ok c) ∧
        (segment = "" ∧ (∃ fault, e = .malformed text fault ∧ fault.reason = "empty segment") ∨
          segment ≠ "" ∧ Condition.parse segment = .error e) := by
  have isEmptySegment : ∀ fault : TextFault, fault.reason = "empty segment" ↔
      fault = .emptySegment := by
    intro fault
    change fault.reason = TextFault.emptySegment.reason ↔ _
    exact TextFault.reason_injective.eq_iff
  have both : ∀ q r, parse a = .ok q → parse b = .ok r →
      parse (a ++ ";" ++ b) = .ok ⟨q.conditions ++
        connectFirst (if b.toList.head? = some '|' then .or else .and) r.conditions⟩ := by
    intro q r readQ readR
    obtain ⟨cs, readA, rfl⟩ := parse_eq_ok_iff_readAs.mp readQ
    obtain ⟨ds, readB, rfl⟩ := parse_eq_ok_iff_readAs.mp readR
    have restored : connectFirst (if b.toList.head? = some '|' then .or else .and)
        (clearFirst ds) = ds := connectFirst_clearFirst readB
    exact parse_append_eq_ok_iff.mpr ⟨cs, ds, readA, readB, by rw [restored]⟩
  refine ⟨⟨?_, ?_⟩, both, fun text e => ?_⟩
  · rintro ⟨q, read⟩
    obtain ⟨cs, ds, readA, readB, -⟩ := parse_append_eq_ok_iff.mp read
    exact ⟨⟨_, parse_eq_ok_iff_readAs.mpr ⟨cs, readA, rfl⟩⟩,
      ⟨_, parse_eq_ok_iff_readAs.mpr ⟨ds, readB, rfl⟩⟩⟩
  · rintro ⟨⟨q, readQ⟩, ⟨r, readR⟩⟩
    exact ⟨_, both q r readQ readR⟩
  · simp only [isEmptySegment, exists_eq_right]
    exact parse_eq_error_iff

/-- The first fault counts, and an empty segment is one of the whole text. -/
example : parse "a:b;;c" = .error (.malformed "a:b;;c" .emptySegment) ∧
    parse "a:b;c;" = .error (.malformed "c" .missingOperator) :=
  ⟨rfl, rfl⟩

end Query

end RecordQuery
