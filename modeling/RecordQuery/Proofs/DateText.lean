/-
# RecordQuery.Proofs.DateText -- which texts are dates and times

`Rfc3339.read` takes a text apart from the left, one step after the other.  Here the
texts are put together instead: a `Spelling` has the digits of the year, the month and so
on, the separator between date and time, the digits of a fraction and a `Zone`, which is a
letter for UTC or a distance from it; `Spelling.text` writes them down and `WellFormed`
says what they have to be.  `read_eq_ok_iff` says that the texts read are the texts spelled.

Each step of the reader has an equation in the same form: it succeeds with a text left over
exactly if what it took off the front is a piece of the grammar (`run_digits_eq_ok_iff`,
`run_offset_eq_ok_iff` and so on).  Only a fraction takes all it can get, so what follows it
must not look like more of it: `fraction_sound` and `fraction_complete` are apart.
-/
import RecordQuery.Instant.Rfc3339
import RecordQuery.Proofs.Traversal
import RecordQuery.Proofs.WordSplit
import Mathlib.Algebra.Ring.Nat

namespace RecordQuery.Rfc3339

set_option autoImplicit false

/-! ## The grammar -/

/-- Exactly so many digits. -/
def IsNumber (digits : Nat) (ds : List Char) : Prop :=
  ds.length = digits ∧ ∀ c ∈ ds, c.isDigit = true

def value (ds : List Char) : Nat :=
  Nat.ofDigitChars 10 ds 0

/-- A clock in UTC, or how far it is ahead or behind. -/
inductive Zone where
  | utc (letter : Char)
  | offset (sign : Char) (hours minutes : List Char)

namespace Zone

def text : Zone → List Char
  | utc letter => [letter]
  | offset sign hours minutes => sign :: (hours ++ ':' :: minutes)

def WellFormed : Zone → Prop
  | utc letter => letter = 'Z' ∨ letter = 'z'
  | offset sign hours minutes =>
    (sign = '+' ∨ sign = '-' ∨ sign = '\u2212') ∧ IsNumber 2 hours ∧ IsNumber 2 minutes ∧
      value minutes < 60

def minutesAhead : Zone → Int
  | utc _ => 0
  | offset sign hours minutes =>
    let total : Int := value hours * 60 + value minutes
    if sign = '+' then total else -total

end Zone

/-- Whole nanoseconds of the digits behind a point, the rest is cut off. -/
def nanoseconds (digits : List Char) : Nat :=
  value digits * 10 ^ 9 / 10 ^ digits.length

/-- The digits behind a point; without any, the point is left out too. -/
def fractionText (digits : List Char) : List Char :=
  if digits = [] then [] else '.' :: digits

/-- The pieces of a date and time as they are written. -/
structure Spelling where
  year : List Char
  month : List Char
  day : List Char
  separator : Char
  hour : List Char
  minute : List Char
  second : List Char
  fraction : List Char
  zone : Zone

namespace Spelling

variable (s : Spelling)

def date : Date :=
  ⟨value s.year, value s.month, value s.day⟩

def dateText : List Char :=
  s.year ++ '-' :: (s.month ++ '-' :: s.day)

def text : List Char :=
  s.dateText ++ s.separator ::
    (s.hour ++ ':' :: (s.minute ++ ':' :: (s.second ++ (fractionText s.fraction ++ s.zone.text))))

/-- What is judged while the text is read. -/
structure Complete : Prop where
  year : IsNumber 4 s.year
  month : IsNumber 2 s.month
  day : IsNumber 2 s.day
  separator : s.separator = 'T' ∨ s.separator = 't' ∨ s.separator = ' '
  hour : IsNumber 2 s.hour
  minute : IsNumber 2 s.minute
  second : IsNumber 2 s.second
  fraction : ∀ c ∈ s.fraction, c.isDigit = true
  zone : s.zone.WellFormed
  isDate : s.date.isValid = true
  inDay : value s.hour < 24
  inHour : value s.minute < 60
  /-- A minute can have a leap second. -/
  inMinute : value s.second ≤ 60

/-- The date and time exists, and its clock is less than a day from UTC. -/
structure WellFormed : Prop extends s.Complete where
  near : s.zone.minutesAhead.natAbs < minutesPerDay

def parts : Rfc3339 :=
  { date := s.date
    hour := value s.hour
    minute := value s.minute
    second := value s.second
    nanos := nanoseconds s.fraction
    offsetMinutes := s.zone.minutesAhead }

end Spelling

/-! ## Steps of the reader -/

variable {α β : Type} {text rest : List Char}

theorem run_bind_eq_ok_iff {r : Reading α} {next : α → Reading β} {b : β} :
    (r >>= next).run text = .ok (b, rest) ↔
      ∃ a middle, r.run text = .ok (a, middle) ∧ (next a).run middle = .ok (b, rest) := by
  rw [StateT.run_bind, bind_eq_ok_iff, Prod.exists]

theorem run_pure_eq_ok_iff {a b : α} :
    (pure a : Reading α).run text = .ok (b, rest) ↔ a = b ∧ text = rest := by
  rw [StateT.run_pure]
  change Except.ok (a, text) = _ ↔ _
  simp

theorem run_set_eq_ok_iff {new : List Char} {u : Unit} :
    (set new : Reading Unit).run text = .ok (u, rest) ↔ new = rest := by
  rw [StateT.run_set]
  change Except.ok ((), new) = _ ↔ _
  simp

theorem run_throw_eq_ok_iff {fault : Fault} {a : α} :
    (throw fault : Reading α).run text = .ok (a, rest) ↔ False := by
  change Except.error fault = _ ↔ _
  simp

/-- A step that looks at what is left to read. -/
theorem run_look_eq_ok_iff {next : List Char → Reading β} {b : β} :
    (get >>= next).run text = .ok (b, rest) ↔ (next text).run text = .ok (b, rest) := by
  rw [StateT.run_bind, StateT.run_get]
  rfl

/-- A step that takes characters off the text and returns what they say. -/
theorem run_take_eq_ok_iff {new : List Char} {a b : β} :
    (set new >>= fun _ => (pure a : Reading β)).run text = .ok (b, rest) ↔ a = b ∧ new = rest := by
  simp only [run_bind_eq_ok_iff, run_set_eq_ok_iff, run_pure_eq_ok_iff]
  constructor
  · rintro ⟨_, _, rfl, same⟩
    exact same
  · intro same
    exact ⟨(), new, rfl, same⟩

def byteLength (text : List Char) : Nat :=
  text.foldl (fun bytes c => bytes + c.utf8Size) 0

theorem length_le_byteLength (text : List Char) : text.length ≤ byteLength text := by
  have counted : ∀ start, start + text.length ≤
      text.foldl (fun bytes c => bytes + c.utf8Size) start := by
    induction text with
    | nil => exact fun start => Nat.le_refl start
    | cons c text ih =>
        intro start
        have first := Char.utf8Size_pos c
        have others := ih (start + c.utf8Size)
        rw [List.foldl_cons, List.length_cons]
        omega
  simpa [byteLength] using counted 0

theorem run_requireBytes_eq_ok_iff {n : Nat} {u : Unit} :
    (requireBytes n).run text = .ok (u, rest) ↔ n ≤ byteLength text ∧ text = rest := by
  unfold requireBytes
  rw [run_look_eq_ok_iff]
  change (if byteLength text < n then _ else _ : Reading Unit).run text = _ ↔ _
  split
  · rename_i few
    rw [run_throw_eq_ok_iff, false_iff]
    omega
  · rename_i enough
    have enough : n ≤ byteLength text := Nat.le_of_not_lt enough
    rw [run_pure_eq_ok_iff]
    simp only [enough, true_and]

theorem run_require_eq_ok_iff {so : Bool} {u : Unit} :
    (require so).run text = .ok (u, rest) ↔ so = true ∧ text = rest := by
  cases so with
  | false =>
      change (throw Fault.outOfRange : Reading Unit).run text = _ ↔ _
      simp only [run_throw_eq_ok_iff, Bool.false_eq_true, false_and]
  | true =>
      change (pure () : Reading Unit).run text = _ ↔ _
      simp only [run_pure_eq_ok_iff, true_and]

/-- The character at the front, and what it has to be. -/
theorem exists_cons_eq_iff {c : Char} {more : List Char} {P : Char → Prop} :
    (∃ d, P d ∧ c :: more = d :: rest) ↔ P c ∧ more = rest := by
  constructor
  · rintro ⟨_, holds, shape⟩
    cases shape
    exact ⟨holds, rfl⟩
  · rintro ⟨holds, rfl⟩
    exact ⟨c, holds, rfl⟩

theorem run_digit_eq_ok_iff {n : Nat} :
    digit.run text = .ok (n, rest) ↔
      ∃ c, (c.isDigit = true ∧ c.toNat - '0'.toNat = n) ∧ text = c :: rest := by
  unfold digit
  rw [run_look_eq_ok_iff]
  cases text with
  | nil => simp only [run_throw_eq_ok_iff, reduceCtorEq, and_false, exists_false]
  | cons c more =>
      rw [exists_cons_eq_iff]
      by_cases isDigit : c.isDigit = true
      · simp only [isDigit, if_true, run_take_eq_ok_iff, true_and]
      · simp only [isDigit, if_false, run_throw_eq_ok_iff, false_and, Bool.false_eq_true]

/-- The loop over the digits, from a value already read. -/
theorem run_digits_eq_ok_iff {turns : List Nat} {start n : Nat} :
    (forIn turns start fun _ n => do
        let d ← digit
        pure (ForInStep.yield (10 * n + d)) : Reading Nat).run text = .ok (n, rest) ↔
      ∃ ds, IsNumber turns.length ds ∧ text = ds ++ rest ∧ n = Nat.ofDigitChars 10 ds start := by
  induction turns generalizing start text with
  | nil =>
      rw [List.forIn_nil, run_pure_eq_ok_iff]
      constructor
      · rintro ⟨rfl, rfl⟩
        exact ⟨[], ⟨rfl, by simp⟩, rfl, rfl⟩
      · rintro ⟨ds, ⟨none, -⟩, rfl, rfl⟩
        obtain rfl := List.eq_nil_of_length_eq_zero none
        exact ⟨rfl, rfl⟩
  | cons turn turns ih =>
      simp only [List.forIn_cons, bind_assoc, pure_bind, run_bind_eq_ok_iff, run_digit_eq_ok_iff,
        ih]
      constructor
      · rintro ⟨_, _, ⟨c, ⟨isDigit, rfl⟩, rfl⟩, ds, ⟨length, all⟩, rfl, rfl⟩
        refine ⟨c :: ds, ⟨by simp [length], ?_⟩, rfl, ?_⟩
        · exact List.forall_mem_cons.mpr ⟨isDigit, all⟩
        · rw [Nat.ofDigitChars_cons]
      · rintro ⟨ds, ⟨length, all⟩, rfl, rfl⟩
        obtain ⟨c, ds, rfl⟩ := List.exists_cons_of_length_eq_add_one length
        obtain ⟨isDigit, others⟩ := List.forall_mem_cons.mp all
        refine ⟨_, _, ⟨c, ⟨isDigit, rfl⟩, rfl⟩, ds, ⟨by simpa using length, others⟩, rfl, ?_⟩
        rw [Nat.ofDigitChars_cons]

theorem run_number_eq_ok_iff {digits n : Nat} :
    (number digits).run text = .ok (n, rest) ↔
      ∃ ds, IsNumber digits ds ∧ text = ds ++ rest ∧ n = value ds := by
  have turns : (List.range' 0 [:digits].size).length = digits := by
    simp [Std.Legacy.Range.size]
  simp only [number, Std.Legacy.Range.forIn_eq_forIn_range', bind_pure, run_bind_eq_ok_iff,
    run_requireBytes_eq_ok_iff]
  constructor
  · rintro ⟨_, _, ⟨-, rfl⟩, read⟩
    obtain ⟨ds, isNumber, shape, rfl⟩ := run_digits_eq_ok_iff.mp read
    rw [turns] at isNumber
    exact ⟨ds, isNumber, shape, rfl⟩
  · rintro ⟨ds, isNumber, rfl, rfl⟩
    have enough := length_le_byteLength (ds ++ rest)
    rw [List.length_append, isNumber.1] at enough
    refine ⟨(), _, ⟨by omega, rfl⟩, run_digits_eq_ok_iff.mpr ⟨ds, ?_, rfl, rfl⟩⟩
    rw [turns]
    exact isNumber

theorem run_separator_eq_ok_iff {allowed : List Char} {u : Unit} :
    (separator allowed).run text = .ok (u, rest) ↔ ∃ c ∈ allowed, text = c :: rest := by
  unfold separator
  rw [run_look_eq_ok_iff]
  cases text with
  | nil => simp only [run_throw_eq_ok_iff, reduceCtorEq, and_false, exists_false]
  | cons c more =>
      rw [exists_cons_eq_iff]
      by_cases member : c ∈ allowed
      · simp only [member, if_true, run_set_eq_ok_iff, true_and]
      · simp only [member, if_false, run_throw_eq_ok_iff, false_and]

theorem run_offsetSign_eq_ok_iff {sign : Option Bool} :
    offsetSign.run text = .ok (sign, rest) ↔
      ∃ c, ((c = 'Z' ∨ c = 'z') ∧ sign = none ∨ c = '+' ∧ sign = some false ∨
        (c = '-' ∨ c = '\u2212') ∧ sign = some true) ∧ text = c :: rest := by
  unfold offsetSign
  rw [run_look_eq_ok_iff]
  cases text with
  | nil => simp only [run_throw_eq_ok_iff, reduceCtorEq, and_false, exists_false]
  | cons c more =>
      rw [exists_cons_eq_iff]
      simp only
      split
      · rename_i utc
        rw [run_take_eq_ok_iff]
        rcases utc with rfl | rfl <;> simp [eq_comm]
      · split
        · rename_i ahead
          rw [run_take_eq_ok_iff]
          subst ahead
          simp [eq_comm]
        · split
          · rename_i behind
            rw [run_take_eq_ok_iff]
            rcases behind with rfl | rfl <;> simp [eq_comm]
          · rename_i notUtc notAhead notBehind
            rw [run_throw_eq_ok_iff]
            simp [notUtc, notAhead, notBehind]

theorem run_offset_eq_ok_iff {minutes : Int} :
    offset.run text = .ok (minutes, rest) ↔
      ∃ z : Zone, z.WellFormed ∧ text = z.text ++ rest ∧ minutes = z.minutesAhead := by
  simp only [offset, run_bind_eq_ok_iff, run_offsetSign_eq_ok_iff]
  constructor
  · rintro ⟨sign, middle, ⟨c, ⟨letter, rfl⟩ | character, rfl⟩, read⟩
    · simp only [run_pure_eq_ok_iff] at read
      obtain ⟨rfl, rfl⟩ := read
      exact ⟨.utc c, letter, rfl, rfl⟩
    · obtain ⟨behind, rfl, known, rfl⟩ : ∃ behind, sign = some behind ∧
          (c = '+' ∨ c = '-' ∨ c = '\u2212') ∧ behind = (c != '+') := by
        rcases character with ⟨rfl, rfl⟩ | ⟨rfl | rfl, rfl⟩ <;> simp
      simp only [run_bind_eq_ok_iff, run_number_eq_ok_iff, run_separator_eq_ok_iff,
        run_require_eq_ok_iff, run_pure_eq_ok_iff, List.mem_singleton, exists_eq_left,
        decide_eq_true_iff] at read
      obtain ⟨_, _, ⟨hours, isHours, rfl, rfl⟩, _, _, rfl, _, _, ⟨minutes, isMinutes, rfl, rfl⟩,
        _, _, ⟨inHour, rfl⟩, rfl, rfl⟩ := read
      refine ⟨.offset c hours minutes, ⟨known, isHours, isMinutes, inHour⟩, by simp [Zone.text], ?_⟩
      by_cases ahead : c = '+' <;> simp [Zone.minutesAhead, ahead]
  · rintro ⟨z, wellFormed, rfl, rfl⟩
    cases z with
    | utc letter =>
        refine ⟨none, rest, ⟨letter, .inl ⟨wellFormed, rfl⟩, rfl⟩, ?_⟩
        exact run_pure_eq_ok_iff.mpr ⟨rfl, rfl⟩
    | offset sign hours minutes =>
        obtain ⟨known, isHours, isMinutes, inHour⟩ := wellFormed
        refine ⟨some (sign != '+'), hours ++ ':' :: (minutes ++ rest),
          ⟨sign, ?_, by simp [Zone.text]⟩, ?_⟩
        · rcases known with rfl | rfl | rfl <;> simp
        · simp only [run_bind_eq_ok_iff, run_number_eq_ok_iff, run_separator_eq_ok_iff,
            run_require_eq_ok_iff, run_pure_eq_ok_iff, List.mem_singleton, exists_eq_left,
            decide_eq_true_iff]
          refine ⟨_, _, ⟨hours, isHours, rfl, rfl⟩, (), _, rfl,
            _, _, ⟨minutes, isMinutes, rfl, rfl⟩, (), _, ⟨inHour, rfl⟩, ?_, rfl⟩
          by_cases ahead : sign = '+' <;> simp [Zone.minutesAhead, ahead]

theorem run_calendarDate_eq_ok_iff {d : Date} :
    calendarDate.run text = .ok (d, rest) ↔ ∃ year month day, IsNumber 4 year ∧ IsNumber 2 month ∧
      IsNumber 2 day ∧ text = year ++ '-' :: (month ++ '-' :: (day ++ rest)) ∧
      d = ⟨value year, value month, value day⟩ ∧ d.isValid = true := by
  simp only [calendarDate, run_bind_eq_ok_iff, run_number_eq_ok_iff, run_separator_eq_ok_iff,
    run_require_eq_ok_iff, run_pure_eq_ok_iff, List.mem_singleton, exists_eq_left]
  constructor
  · rintro ⟨_, _, ⟨year, isYear, rfl, rfl⟩, _, _, rfl, _, _, ⟨month, isMonth, rfl, rfl⟩, _, _, rfl,
      _, _, ⟨day, isDay, rfl, rfl⟩, _, _, ⟨isDate, rfl⟩, rfl, rfl⟩
    exact ⟨year, month, day, isYear, isMonth, isDay, rfl, rfl, isDate⟩
  · rintro ⟨year, month, day, isYear, isMonth, isDay, rfl, rfl, isDate⟩
    exact ⟨_, _, ⟨year, isYear, rfl, rfl⟩, (), _, rfl, _, _, ⟨month, isMonth, rfl, rfl⟩, (), _, rfl,
      _, _, ⟨day, isDay, rfl, rfl⟩, (), _, ⟨isDate, rfl⟩, rfl, rfl⟩

/-! ## Fractions of a second -/

theorem value_append (front back : List Char) :
    value (front ++ back) = 10 ^ back.length * value front + value back := by
  unfold value
  rw [Nat.ofDigitChars_append, Nat.ofDigitChars_eq_ofDigitChars_zero]

theorem value_lt {ds : List Char} (all : ∀ c ∈ ds, c.isDigit = true) :
    value ds < 10 ^ ds.length := by
  induction ds with
  | nil => decide
  | cons c ds ih =>
      obtain ⟨isDigit, others⟩ := List.forall_mem_cons.mp all
      have first : c.toNat - '0'.toNat ≤ 9 := by
        rw [Char.isDigit, Bool.and_eq_true, decide_eq_true_iff, decide_eq_true_iff] at isDigit
        have most : c.toNat ≤ '9'.toNat := UInt32.le_iff_toNat_le.mp isDigit.2
        exact Nat.sub_le_sub_right most _
      have rest := ih others
      have split := value_append [c] ds
      have single : value [c] = c.toNat - '0'.toNat := by
        simp [value, Nat.ofDigitChars_cons]
      rw [List.singleton_append, single] at split
      have scaled := Nat.mul_le_mul_left (10 ^ ds.length) first
      rw [split, List.length_cons, Nat.pow_succ]
      omega

/-- What the first nine digits say, filled up with zeros. -/
theorem nanos_eq {digits : List Char} (all : ∀ c ∈ digits, c.isDigit = true) :
    value (digits.take 9) * 10 ^ (9 - (digits.take 9).length) =
      value digits * 10 ^ 9 / 10 ^ digits.length := by
  by_cases short : digits.length ≤ 9
  · rw [List.take_of_length_le short]
    have nine : 10 ^ 9 = 10 ^ (9 - digits.length) * 10 ^ digits.length := by
      rw [← Nat.pow_add, Nat.sub_add_cancel short]
    rw [nine, ← Nat.mul_assoc, Nat.mul_div_cancel _ (Nat.pow_pos (by decide))]
  · have length : (digits.take 9).length = 9 := by
      rw [List.length_take]
      omega
    have unused : value (digits.drop 9) < 10 ^ (digits.drop 9).length :=
      value_lt fun c member => all c (List.mem_of_mem_drop member)
    have digitsLength : digits.length = (digits.drop 9).length + 9 := by
      rw [List.length_drop]
      omega
    have split := value_append (digits.take 9) (digits.drop 9)
    rw [List.take_append_drop] at split
    rw [length, digitsLength, split, Nat.pow_add, Nat.mul_div_mul_right _ _ (by decide),
      Nat.mul_add_div (Nat.pow_pos (by decide)), Nat.div_eq_of_lt unused, Nat.sub_self,
      Nat.pow_zero, Nat.mul_one, Nat.add_zero]

theorem fraction_sound {n : Nat} (read : fraction.run text = .ok (n, rest)) :
    ∃ digits, (∀ c ∈ digits, c.isDigit = true) ∧ text = fractionText digits ++ rest ∧
      n = nanoseconds digits := by
  unfold fraction at read
  rw [run_look_eq_ok_iff] at read
  split at read
  · rename_i more
    simp only [run_bind_eq_ok_iff, run_set_eq_ok_iff, run_requireBytes_eq_ok_iff] at read
    obtain ⟨_, _, rfl, _, _, ⟨-, rfl⟩, taken⟩ := read
    split at taken
    · simp only [run_bind_eq_ok_iff, run_throw_eq_ok_iff, false_and, exists_false] at taken
    · rename_i some
      rw [run_take_eq_ok_iff] at taken
      obtain ⟨rfl, rfl⟩ := taken
      have all : ∀ c ∈ more.takeWhile Char.isDigit, c.isDigit = true :=
        List.all_eq_true.mp List.all_takeWhile
      refine ⟨more.takeWhile Char.isDigit, all, ?_, nanos_eq all⟩
      rw [fractionText, if_neg some, List.cons_append, List.takeWhile_append_dropWhile]
  · obtain ⟨rfl, rfl⟩ := run_pure_eq_ok_iff.mp read
    exact ⟨[], by simp, rfl, rfl⟩

/-- A fraction is read up to what is neither its point nor a digit. -/
theorem fraction_complete {digits : List Char} (all : ∀ c ∈ digits, c.isDigit = true)
    (ends : ∀ c ∈ rest.head?, c ≠ '.' ∧ c.isDigit = false) :
    fraction.run (fractionText digits ++ rest) = .ok (nanoseconds digits, rest) := by
  unfold fraction
  rw [run_look_eq_ok_iff]
  by_cases none : digits = []
  · subst none
    rw [fractionText, if_pos rfl, List.nil_append]
    split
    · exact absurd rfl (ends '.' rfl).1
    · exact run_pure_eq_ok_iff.mpr ⟨rfl, rfl⟩
  · have boundary : ∀ c ∈ rest.head?, c.isDigit = false := fun c first => (ends c first).2
    have taken := Text.takeWhile_run all boundary
    have left := Text.dropWhile_run all boundary
    have enough := length_le_byteLength (digits ++ rest)
    have some := List.length_pos_of_ne_nil none
    rw [List.length_append] at enough
    rw [fractionText, if_neg none, List.cons_append]
    simp only [run_bind_eq_ok_iff, run_set_eq_ok_iff, run_requireBytes_eq_ok_iff, taken, left,
      if_neg none, run_pure_eq_ok_iff]
    exact ⟨(), _, rfl, (), _, ⟨by omega, rfl⟩, (), _, rfl, nanos_eq all, rfl⟩

/-! ## Whole texts -/

theorem Zone.head?_text {z : Zone} (wellFormed : z.WellFormed) (rest : List Char) :
    ∀ c ∈ (z.text ++ rest).head?, c ≠ '.' ∧ c.isDigit = false := by
  cases z with
  | utc letter =>
      rintro _ ⟨⟩
      rcases wellFormed with rfl | rfl <;> decide
  | offset sign hours minutes =>
      rintro _ ⟨⟩
      rcases wellFormed.1 with rfl | rfl | rfl <;> decide

theorem run_parts_eq_ok_iff {t : Rfc3339} :
    parts.run text = .ok (t, rest) ↔
      ∃ s : Spelling, s.Complete ∧ text = s.text ++ rest ∧ t = s.parts := by
  simp only [parts, run_bind_eq_ok_iff, run_number_eq_ok_iff, run_separator_eq_ok_iff,
    run_require_eq_ok_iff, run_pure_eq_ok_iff, run_requireBytes_eq_ok_iff,
    run_calendarDate_eq_ok_iff, run_offset_eq_ok_iff, List.mem_singleton, exists_eq_left,
    Bool.and_eq_true, decide_eq_true_iff]
  constructor
  · rintro ⟨_, _, ⟨-, rfl⟩, _, _, ⟨year, month, day, isYear, isMonth, isDay, rfl, rfl, isDate⟩,
      _, _, ⟨separator, known, rfl⟩, _, _, ⟨hour, isHour, rfl, rfl⟩, _, _, rfl,
      _, _, ⟨minute, isMinute, rfl, rfl⟩, _, _, rfl, _, _, ⟨second, isSecond, rfl, rfl⟩,
      _, _, read, _, _, ⟨⟨⟨inDay, inHour⟩, inMinute⟩, rfl⟩, _, _, ⟨zone, isZone, rfl, rfl⟩,
      rfl, rfl⟩
    obtain ⟨fraction, all, rfl, rfl⟩ := fraction_sound read
    refine ⟨⟨year, month, day, separator, hour, minute, second, fraction, zone⟩,
      ⟨isYear, isMonth, isDay, by simpa using known, isHour, isMinute, isSecond, all, isZone,
        isDate, inDay, inHour, inMinute⟩, ?_, rfl⟩
    simp [Spelling.text, Spelling.dateText]
  · rintro ⟨s, complete, rfl, rfl⟩
    have shape : s.text ++ rest = s.year ++ '-' :: (s.month ++ '-' :: (s.day ++ s.separator ::
        (s.hour ++ ':' :: (s.minute ++ ':' :: (s.second ++ (fractionText s.fraction ++
          (s.zone.text ++ rest))))))) := by
      simp [Spelling.text, Spelling.dateText]
    have enough := length_le_byteLength (s.text ++ rest)
    have length := congrArg List.length shape
    simp only [List.length_append, List.length_cons, complete.year.1, complete.month.1,
      complete.day.1, complete.hour.1, complete.minute.1, complete.second.1] at length enough
    have least : shortest = 19 := rfl
    refine ⟨(), _, ⟨by omega, rfl⟩, _, _, ⟨s.year, s.month, s.day, complete.year, complete.month,
      complete.day, shape, rfl, complete.isDate⟩, (), _, ⟨s.separator, ?_, rfl⟩,
      _, _, ⟨s.hour, complete.hour, rfl, rfl⟩, (), _, rfl,
      _, _, ⟨s.minute, complete.minute, rfl, rfl⟩, (), _, rfl, _, _, ⟨s.second, complete.second, rfl, rfl⟩, _, _,
      fraction_complete complete.fraction (s.zone.head?_text complete.zone rest),
      (), _, ⟨⟨⟨complete.inDay, complete.inHour⟩, complete.inMinute⟩, rfl⟩, _, _,
      ⟨s.zone, complete.zone, rfl, rfl⟩, rfl, rfl⟩
    simpa using complete.separator

/-- **What is read is what the grammar spells**, with the parts that it names. -/
theorem read_eq_ok_iff {t : Rfc3339} :
    read text = .ok t ↔ ∃ s : Spelling, s.WellFormed ∧ s.text = text ∧ s.parts = t := by
  have parted : read text = .ok t ↔
      parts.run text = .ok (t, []) ∧ t.offsetMinutes.natAbs < minutesPerDay := by
    unfold read
    split
    · simp [*]
    · simp [*]
    · rename_i u parted
      rw [parted]
      split <;> grind
  rw [parted, run_parts_eq_ok_iff]
  constructor
  · rintro ⟨⟨s, complete, rfl, rfl⟩, near⟩
    exact ⟨s, ⟨complete, near⟩, (List.append_nil _).symm, rfl⟩
  · rintro ⟨s, wellFormed, rfl, rfl⟩
    exact ⟨⟨s, wellFormed.toComplete, (List.append_nil _).symm, rfl⟩, wellFormed.near⟩

end RecordQuery.Rfc3339
