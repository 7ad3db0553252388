/-
# RecordQuery.Proofs.FramedNumbers -- a number is read the same wherever it stands

Strings, arrays and objects close themselves; a number ends where no character follows that it
could go on with.  `Framed` says what the readers of its parts have in common: they take a front
of the text, looking at no more than the character behind it, and take the same front before any
text that begins alike or that no number goes on with.  It is kept when readers follow each
other (`Framed.bind`), so it holds of numbers (`framed_number`).

A value that is a number is one of these behind its sign (`number_of_valueOf`), and what is read
as a number before every text that may follow is one wherever it stands (`prints_of_number`).
-/
import RecordQuery.Proofs.JsonShape

namespace RecordQuery

set_option autoImplicit false

namespace JsonReader

variable {α β : Type} {text rest back blanks : List Char}

/-! ## Readers that look one character ahead -/

/-- The text begins like the one that was left before, or no number goes on with it. -/
def EndsAlike (back rest : List Char) : Prop :=
  rest.head? = back.head? ∨ Follows rest

/-- What is read is a front of the text, and the same front is read before other texts. -/
def Framed (r : Reading α) : Prop :=
  ∀ text a back, r.run text = .ok (a, back) →
    ∃ front, text = front ++ back ∧
      ∀ rest, EndsAlike back rest → r.run (front ++ rest) = .ok (a, rest)

theorem extendsNumber_of_isDigit {c : Char} (isDigit : c.isDigit = true) :
    extendsNumber c = true := by
  simp [extendsNumber, isDigit]

theorem extendsNumber_of_point {c : Char} (point : (c == '.') = true) :
    extendsNumber c = true := by
  simp [extendsNumber, point]

theorem extendsNumber_of_mark {c : Char} (mark : (c == 'e' || c == 'E') = true) :
    extendsNumber c = true := by
  rw [extendsNumber, Bool.or_assoc, mark, Bool.or_true]

/-- What a run stopped at, it stops at again. -/
theorem EndsAlike.boundary {p : Char → Bool} (alike : EndsAlike back rest)
    (part : ∀ c, p c = true → extendsNumber c = true) (stops : ∀ c ∈ back.head?, p c = false) :
    ∀ c ∈ rest.head?, p c = false := by
  intro c first
  rcases alike with same | follows
  · exact stops c (same ▸ first)
  · cases inRun : p c with
    | false => rfl
    | true => exact absurd (part c inRun) (by simp [follows c first])

theorem EndsAlike.boundary_digit (alike : EndsAlike back rest)
    (stops : ∀ c ∈ back.head?, c.isDigit = false) : ∀ c ∈ rest.head?, c.isDigit = false :=
  alike.boundary (fun _ => extendsNumber_of_isDigit) stops

theorem framed_pure (a : α) : Framed (pure a : Reading α) := by
  rintro text _ _ ⟨⟩
  exact ⟨[], rfl, fun rest _ => rfl⟩

theorem framed_fail (fault : JsonFault) : Framed (fail fault : Reading α) := by
  rintro text a back ⟨⟩

theorem Framed.bind {r : Reading α} {next : α → Reading β} (first : Framed r)
    (later : ∀ a, Framed (next a)) : Framed (r >>= next) := by
  intro text b back read
  obtain ⟨a, middle, readFirst, readLater⟩ := run_bind_eq_ok_iff.mp read
  obtain ⟨front, rfl, again⟩ := first text a middle readFirst
  obtain ⟨front', rfl, again'⟩ := later a middle b back readLater
  refine ⟨front ++ front', by rw [List.append_assoc], fun rest alike => ?_⟩
  -- The second reader takes characters, or the first one has to end where the second one does.
  have middleAlike : EndsAlike (front' ++ back) (front' ++ rest) := by
    cases front' with
    | nil => exact alike
    | cons c front' => exact .inl rfl
  rw [List.append_assoc, run_bind_of_ok (again _ middleAlike)]
  exact again' rest alike

/-! ## The parts of a number -/

theorem run_digits : digits.run text =
    .ok (text.takeWhile Char.isDigit, text.dropWhile Char.isDigit) := rfl

theorem run_digits_append {ds : List Char} (all : ∀ c ∈ ds, c.isDigit = true)
    (stops : ∀ c ∈ rest.head?, c.isDigit = false) : digits.run (ds ++ rest) = .ok (ds, rest) := by
  rw [run_digits, Text.takeWhile_run all stops, Text.dropWhile_run all stops]

theorem digits_spec {ds : List Char} (read : digits.run text = .ok (ds, back)) :
    text = ds ++ back ∧ (∀ c ∈ ds, c.isDigit = true) ∧ ∀ c ∈ back.head?, c.isDigit = false := by
  cases read
  exact ⟨List.takeWhile_append_dropWhile.symm, List.all_eq_true.mp List.all_takeWhile,
    Text.boundary_dropWhile Char.isDigit text⟩

theorem framed_digits : Framed digits := by
  intro text ds back read
  obtain ⟨rfl, all, stops⟩ := digits_spec read
  exact ⟨ds, rfl, fun rest alike => run_digits_append all (alike.boundary_digit stops)⟩

theorem run_someDigits {atNext : Bool} {c : Char} (isDigit : c.isDigit = true) :
    (someDigits atNext).run (c :: rest) = digits.run (c :: rest) := by
  rw [someDigits, run_bind_of_ok (run_peek? c)]
  simp only [isDigit, if_true]

/-- One digit at least is read. -/
theorem someDigits_spec {atNext : Bool} {ds : List Char}
    (read : (someDigits atNext).run text = .ok (ds, back)) :
    ∃ c more, ds = c :: more ∧ text = ds ++ back ∧ (∀ d ∈ ds, d.isDigit = true) ∧
      ∀ d ∈ back.head?, d.isDigit = false := by
  cases text with
  | nil => cases read
  | cons c text =>
      by_cases isDigit : c.isDigit = true
      · rw [run_someDigits isDigit] at read
        obtain ⟨shape, all, stops⟩ := digits_spec read
        cases ds with
        | nil =>
            obtain rfl : c :: text = back := shape
            exact absurd isDigit (by simp [stops c rfl])
        | cons d more => exact ⟨d, more, rfl, shape, all, stops⟩
      · rw [someDigits, run_bind_of_ok (run_peek? c)] at read
        cases atNext <;> simp only [isDigit] at read <;> cases read

theorem run_someDigits_append {atNext : Bool} {c : Char} {ds : List Char}
    (all : ∀ d ∈ c :: ds, d.isDigit = true) (stops : ∀ d ∈ rest.head?, d.isDigit = false) :
    (someDigits atNext).run (c :: ds ++ rest) = .ok (c :: ds, rest) := by
  rw [List.cons_append, run_someDigits (all c List.mem_cons_self)]
  exact run_digits_append all stops

theorem framed_someDigits (atNext : Bool) : Framed (someDigits atNext) := by
  intro text ds back read
  obtain ⟨c, more, rfl, rfl, all, stops⟩ := someDigits_spec read
  exact ⟨_, rfl, fun rest alike => run_someDigits_append all (alike.boundary_digit stops)⟩

theorem run_wholeDigits_zero (stops : ∀ c ∈ rest.head?, c.isDigit = false) :
    wholeDigits.run ('0' :: rest) = .ok (['0'], rest) := by
  cases rest with
  | nil => rfl
  | cons d rest =>
      rw [wholeDigits, run_bind_of_ok (run_next? '0')]
      simp only [if_true]
      rw [run_bind_of_ok (run_peek? d)]
      simp only [stops d rfl]
      rfl

theorem run_wholeDigits {c : Char} (isDigit : c.isDigit = true) (notZero : c ≠ '0') :
    wholeDigits.run (c :: rest) = (digits >>= fun ds => pure (c :: ds)).run rest := by
  rw [wholeDigits, run_bind_of_ok (run_next? c)]
  simp only [notZero, isDigit, if_true, if_false]

theorem run_wholeDigits_zero_digit {c : Char} (isDigit : c.isDigit = true) :
    wholeDigits.run ('0' :: c :: rest) =
      (failAtNext .invalidNumber : Reading (List Char)).run (c :: rest) := by
  rw [wholeDigits, run_bind_of_ok (run_next? '0')]
  simp only [if_true]
  rw [run_bind_of_ok (run_peek? c)]
  simp only [isDigit, if_true]

theorem framed_wholeDigits : Framed wholeDigits := by
  intro text ds back read
  cases text with
  | nil => cases read
  | cons c text =>
      by_cases zero : c = '0'
      · subst zero
        have stops : ∀ d ∈ text.head?, d.isDigit = false := by
          intro d first
          obtain ⟨text, rfl⟩ := List.head?_eq_some_iff.mp first
          by_contra isDigit
          rw [run_wholeDigits_zero_digit (by simpa using isDigit)] at read
          cases read
        rw [run_wholeDigits_zero stops] at read
        cases read
        exact ⟨['0'], rfl, fun rest alike => run_wholeDigits_zero (alike.boundary_digit stops)⟩
      · by_cases isDigit : c.isDigit = true
        · rw [run_wholeDigits isDigit zero] at read
          obtain ⟨front, rfl, again⟩ :=
            (framed_digits.bind fun ds => framed_pure (c :: ds)) text ds back read
          refine ⟨c :: front, rfl, fun rest alike => ?_⟩
          rw [List.cons_append, run_wholeDigits isDigit zero]
          exact again rest alike
        · rw [wholeDigits, run_bind_of_ok (run_next? c)] at read
          simp only [zero, isDigit, if_false] at read
          cases read

theorem run_fraction?_none (other : ∀ c ∈ text.head?, (c == '.') = false) :
    fraction?.run text = .ok (none, text) := by
  cases text with
  | nil => rfl
  | cons c text =>
      rw [fraction?, run_bind_of_ok (run_peek? c)]
      split
      · rename_i same
        cases same
        exact absurd (other '.' rfl) (by decide)
      · rfl

theorem framed_fraction? : Framed fraction? := by
  intro text fraction back read
  by_cases point : text.head? = some '.'
  · obtain ⟨text, rfl⟩ := List.head?_eq_some_iff.mp point
    obtain ⟨front, rfl, again⟩ :=
      ((framed_someDigits true).bind fun ds => framed_pure (some ds)) text fraction back read
    exact ⟨'.' :: front, rfl, fun rest alike => again rest alike⟩
  · have other : ∀ c ∈ text.head?, (c == '.') = false :=
      fun c first => beq_eq_false_iff_ne.mpr fun same => point (same ▸ first)
    rw [run_fraction?_none other] at read
    cases read
    exact ⟨[], rfl, fun rest alike =>
      run_fraction?_none (alike.boundary (fun _ => extendsNumber_of_point) other)⟩

theorem run_exponent?_none (other : ∀ c ∈ text.head?, (c == 'e' || c == 'E') = false) :
    exponent?.run text = .ok (none, text) := by
  cases text with
  | nil => rfl
  | cons c text =>
      have notMark : ¬ (c = 'e' ∨ c = 'E') := by simpa using other c rfl
      rw [exponent?, run_bind_of_ok (run_peek? c)]
      simp only [notMark, if_false]
      rfl

/-- The digits of an exponent, its mark and its sign already read. -/
def exponentOf (negative : Bool) : Reading (Option Int) := do
  let n := Nat.ofDigitChars 10 (← someDigits false) 0
  return some (if negative then -(n : Int) else n)

theorem run_exponent? {c : Char} (mark : c = 'e' ∨ c = 'E') :
    exponent?.run (c :: text) =
      (exponentOf (Text.splitSign text).1).run (Text.splitSign text).2 := by
  have left : (get : Reading (List Char)).run text = .ok (text, text) := rfl
  have taken : (set (Text.splitSign text).2 : Reading Unit).run text =
    .ok ((), (Text.splitSign text).2) := rfl
  rw [exponent?, run_bind_of_ok (run_peek? c)]
  simp only [mark, if_true]
  rw [run_bind_of_ok (run_skip c), run_bind_of_ok left, run_bind_of_ok taken]
  rfl

theorem framed_exponentOf (negative : Bool) : Framed (exponentOf negative) :=
  (framed_someDigits false).bind fun _ => framed_pure _

/-- A sign is split off, or there is none in front of a digit. -/
theorem splitSign_cases (t : List Char) :
    (∃ sign, t = sign :: (Text.splitSign t).2 ∧
      ∀ other, Text.splitSign (sign :: other) = ((Text.splitSign t).1, other)) ∨
    Text.splitSign t = (false, t) := by
  unfold Text.splitSign
  split
  · exact .inl ⟨'-', rfl, fun _ => rfl⟩
  · exact .inl ⟨'+', rfl, fun _ => rfl⟩
  · exact .inr rfl

theorem framed_exponent? : Framed exponent? := by
  intro text exponent back read
  by_cases marked : ∃ c ∈ text.head?, c = 'e' ∨ c = 'E'
  · obtain ⟨c, first, mark⟩ := marked
    obtain ⟨text, rfl⟩ := List.head?_eq_some_iff.mp first
    rw [run_exponent? mark] at read
    obtain ⟨front, shape, again⟩ := framed_exponentOf _ _ exponent back read
    rcases splitSign_cases text with ⟨sign, signed, split⟩ | unsigned
    · refine ⟨c :: sign :: front, ?_, fun rest alike => ?_⟩
      · rw [signed, shape]
        rfl
      · rw [List.cons_append, run_exponent? mark, List.cons_append, split]
        exact again rest alike
    · rw [unsigned] at read shape again
      obtain rfl : text = front ++ back := shape
      refine ⟨c :: front, rfl, fun rest alike => ?_⟩
      -- Without a sign a digit comes first, and it comes first again.
      obtain ⟨ds, left, readDigits, last⟩ := run_bind_eq_ok_iff.mp read
      cases last
      obtain ⟨d, more, rfl, whole, all, -⟩ := someDigits_spec readDigits
      obtain rfl : front = d :: more := List.append_cancel_right whole
      rw [List.cons_append, run_exponent? mark, List.cons_append,
        Text.splitSign_of_isDigit (all d List.mem_cons_self)]
      exact again rest alike
  · have other : ∀ c ∈ text.head?, (c == 'e' || c == 'E') = false := by
      intro c first
      have notMark : ¬ (c = 'e' ∨ c = 'E') := fun mark => marked ⟨c, first, mark⟩
      simpa using notMark
    rw [run_exponent?_none other] at read
    cases read
    exact ⟨[], rfl, fun rest alike =>
      run_exponent?_none (alike.boundary (fun _ => extendsNumber_of_mark) other)⟩

theorem framed_number (negative : Bool) : Framed (number negative) := by
  refine framed_wholeDigits.bind fun whole => framed_fraction?.bind fun fraction =>
    framed_exponent?.bind fun exponent => ?_
  split
  · exact framed_pure _
  · exact framed_fail _

/-! ## Where a number stands -/

def withSign (negative : Bool) (t : List Char) : List Char :=
  if negative then '-' :: t else t

theorem isBlank_of_isDigit {c : Char} (isDigit : c.isDigit = true) : isBlank c = false := by
  cases blank : isBlank c with
  | false => rfl
  | true =>
      have ends := extendsNumber_of_isBlank blank
      rw [extendsNumber_of_isDigit isDigit] at ends
      cases ends

/-- A number begins with a digit, its sign already read. -/
theorem exists_digit_of_number {negative : Bool} {n : Number}
    (read : (number negative).run text = .ok (n, back)) :
    ∃ c more, text = c :: more ∧ c.isDigit = true := by
  obtain ⟨whole, middle, readWhole, -⟩ := run_bind_eq_ok_iff.mp read
  cases text with
  | nil => cases readWhole
  | cons c more =>
      refine ⟨c, more, rfl, ?_⟩
      by_contra notDigit
      have notZero : c ≠ '0' := by
        rintro rfl
        exact notDigit rfl
      rw [wholeDigits, run_bind_of_ok (run_next? c)] at readWhole
      simp only [notZero, notDigit, if_false] at readWhole
      cases readWhole

theorem run_valueOf_number {size : Nat} {inner? : Option (Reading JsonValue)} {c : Char}
    (blank : ∀ d ∈ blanks, isBlank d = true) (negative : Bool) (isDigit : c.isDigit = true) :
    (valueOf size inner?).run (blanks ++ withSign negative (c :: rest)) =
      (JsonValue.number <$> number negative).run (c :: rest) := by
  have notDigit : ∀ d : Char, d.isDigit = false → some c ≠ some d := by
    rintro d other ⟨⟩
    simp [other] at isDigit
  unfold valueOf withSign
  cases negative with
  | true =>
      simp only [if_true]
      rw [run_bind_of_ok (run_peekPastBlanks? blank rfl)]
      rfl
  | false =>
      simp only [Bool.false_eq_true, if_false]
      rw [run_bind_of_ok (run_peekPastBlanks? blank (isBlank_of_isDigit isDigit))]
      split
      case h_9 same =>
        cases same
        rw [if_pos isDigit]
        rfl
      all_goals
        rename_i same
        first
        | exact absurd same (notDigit _ rfl)
        | cases same

/-- A value that is a number is one of the reader's numbers, behind its sign. -/
theorem number_of_valueOf {size : Nat} {inner? : Option (Reading JsonValue)} {c : Char}
    {more : List Char} {n : Number} (notBlank : isBlank c = false)
    (read : (valueOf size inner?).run (c :: more) = .ok (.number n, back)) :
    ∃ negative t, c :: more = withSign negative t ∧ (number negative).run t = .ok (n, back) := by
  -- Every kind of value has a branch of its own, of which two yield numbers.
  have other : ∀ r : Reading JsonValue, r.run (c :: more) = .ok (.number n, back) →
      ¬ Yields r (· ≠ .number n) := fun r read yields => yields _ _ _ read rfl
  unfold valueOf at read
  rw [run_bind_of_ok (run_peekPastBlanks?_self notBlank)] at read
  split at read
  case h_5 same =>
    cases same
    rw [run_bind_of_ok (run_skip '-')] at read
    obtain ⟨m, left, readNumber, last⟩ := run_bind_eq_ok_iff.mp read
    cases last
    exact ⟨true, more, rfl, readNumber⟩
  case h_9 same =>
    cases same
    by_cases isDigit : c.isDigit = true
    · rw [if_pos isDigit] at read
      obtain ⟨m, left, readNumber, last⟩ := run_bind_eq_ok_iff.mp read
      cases last
      exact ⟨false, c :: more, rfl, readNumber⟩
    · rw [if_neg isDigit] at read
      cases read
  case h_1 => cases read
  case h_2 | h_3 | h_4 | h_6 =>
    exact absurd (yields_bind fun _ => yields_bind fun _ => yields_pure (by simp)) (other _ read)
  case h_7 | h_8 =>
    cases inner? with
    | none => cases read
    | some inner =>
        exact absurd (yields_bind fun _ => yields_bind fun _ => yields_pure (by simp))
          (other _ read)

/-- Digits that are read as a number before every text that may follow are one wherever they
stand. -/
theorem prints_of_number {depth : Nat} {n : Number} {negative : Bool} {t : List Char}
    (read : ∀ rest, Follows rest → (number negative).run (t ++ rest) = .ok (n, rest)) :
    Prints depth (withSign negative t) (.number n) := by
  obtain ⟨c, more, shape, isDigit⟩ := exists_digit_of_number (read [] (by simp [Follows]))
  obtain rfl : t = c :: more := by simpa using shape
  constructor
  · cases negative with
    | false =>
        refine ⟨c, more, rfl, isBlank_of_isDigit isDigit, ?_⟩
        rintro rfl
        cases isDigit
    | true => exact ⟨'-', c :: more, rfl, rfl, by decide⟩
  · intro size blanks rest _ blank follows
    obtain ⟨inner?, valued⟩ := value_eq size depth
    have whole : withSign negative (c :: more) ++ rest =
        withSign negative (c :: (more ++ rest)) := by cases negative <;> rfl
    rw [valued, whole, run_valueOf_number blank negative isDigit]
    exact run_map_of_ok (read rest follows)

end JsonReader

end RecordQuery
