/-
# RecordQuery.Proofs.JsonNumbers -- printed numbers are read back

A number is restored if its text, standing alone, is read as that number.  The text has no
blanks in it, so it is read so wherever it stands (`Number.Restored.prints`).  A whole number
always is, if it is in the form that the reader gives it (`prints_signed`, `prints_unsigned`).  A
floating point number need not be, as its text has the fewest digits that identify the number
and is read with two roundings.
-/
import RecordQuery.Json.Printer
import RecordQuery.Proofs.FramedNumbers

namespace RecordQuery

set_option autoImplicit false

namespace JsonValue

/-- The number that a whole text is. -/
def readNumber? (text : String) : Option Number :=
  match read text with
  | .ok (.number n) => some n
  | _ => none

theorem read_of_readNumber? {text : String} {n : Number} (number : readNumber? text = some n) :
    read text = .ok (.number n) := by
  unfold readNumber? at number
  split at number
  · rename_i read
    cases number
    exact read
  · cases number

end JsonValue

/-! ## Texts of numbers -/

namespace Number

open JsonReader

/-- No character of the text is a blank. -/
def Solid (t : List Char) : Prop :=
  ∀ c ∈ t, isBlank c = false

@[simp] theorem solid_nil : Solid [] := List.forall_mem_nil _

@[simp] theorem solid_cons {c : Char} {t : List Char} :
    Solid (c :: t) ↔ isBlank c = false ∧ Solid t :=
  List.forall_mem_cons

@[simp] theorem solid_append {s t : List Char} : Solid (s ++ t) ↔ Solid s ∧ Solid t :=
  List.forall_mem_append

@[simp] theorem solid_zeros (n : Nat) : Solid (FloatLayout.zeros n) := by
  intro c member
  rw [List.eq_of_mem_replicate member]
  rfl

@[simp] theorem solid_toDigits (n : Nat) : Solid (Nat.toDigits 10 n) := fun _ member =>
  isBlank_of_isDigit (Nat.isDigit_of_mem_toDigits (by decide) (by decide) member)

theorem Solid.subset {s t : List Char} (solid : Solid t) (part : s ⊆ t) : Solid s :=
  fun c member => solid c (part member)

@[simp] theorem solid_digitsOfInt (n : Int) : Solid (Text.digitsOfInt n) := by
  unfold Text.digitsOfInt
  split
  · exact solid_cons.mpr ⟨rfl, solid_toDigits _⟩
  · exact solid_toDigits _

theorem solid_shortestDigits (rank : Nat) : Solid (Binary64.shortestDigits rank).1 := by
  refine (solid_toDigits (Binary64.shortestDecimal rank).digits).subset ?_
  intro c member
  have inside := (List.dropWhile_sublist _).subset (List.mem_reverse.mp member)
  exact List.mem_reverse.mp inside

section Layout

variable {digits : List Char} (solid : Solid digits) (point : Int)

include solid

theorem solid_positional : Solid (FloatLayout.positional digits point) := by
  have front := solid.subset (List.take_subset point.toNat digits)
  have back := solid.subset (List.drop_subset point.toNat digits)
  have ink : isBlank '.' = false ∧ isBlank '0' = false := ⟨rfl, rfl⟩
  unfold FloatLayout.positional
  split
  · simp [ink, solid]
  · dsimp only
    split <;> simp [ink, solid, front, back]

theorem solid_scientific : Solid (FloatLayout.scientific digits point) := by
  have ink : isBlank '.' = false ∧ isBlank 'e' = false ∧ isBlank '+' = false := ⟨rfl, rfl, rfl⟩
  unfold FloatLayout.scientific
  dsimp only
  refine solid_append.mpr ⟨solid_append.mpr ⟨?_, ?_⟩, solid_digitsOfInt _⟩
  · split
    · simpa [ink] using solid
    · exact solid
  · split <;> simp [ink]

end Layout

theorem solid_magnitude (layout : FloatLayout) (rank : Nat) : Solid (layout.magnitude rank) := by
  have digits := solid_shortestDigits rank
  unfold FloatLayout.magnitude
  split
  · simp only [solid_cons, solid_nil]
    decide
  · dsimp only
    split
    · exact solid_positional digits _
    · exact solid_scientific digits _

theorem solid_jsonText (n : Number) : Solid n.jsonText.toList := by
  have null : Solid "null".toList := by
    have letters : "null".toList = ['n', 'u', 'l', 'l'] := rfl
    simp only [letters, solid_cons, solid_nil]
    decide
  cases n with
  | signed n => simp [jsonText, Text.ofInt]
  | unsigned n => simp [jsonText, Text.ofInt]
  | binary x =>
      cases x with
      | nan => exact null
      | infinite negative => exact null
      | finite negative rank =>
          have digits := solid_magnitude .json rank.val
          have minus : isBlank '-' = false := rfl
          rw [jsonText, Binary64.jsonText, String.toList_ofList]
          split
          · exact solid_cons.mpr ⟨minus, digits⟩
          · exact digits

/-- The number's text is read as the number. -/
def Restored (n : Number) : Prop :=
  JsonValue.readNumber? n.jsonText = some n

instance (n : Number) : Decidable n.Restored :=
  inferInstanceAs (Decidable (_ = some n))

/-- What is restored alone is restored anywhere. -/
theorem Restored.prints {n : Number} (restored : n.Restored) (depth : Nat) :
    Prints depth n.jsonText.toList (.number n) := by
  obtain ⟨size, back, read, blank⟩ := value_of_read (JsonValue.read_of_readNumber? restored)
  obtain ⟨inner?, shape⟩ := value_eq size depthLimit
  have solid := solid_jsonText n
  rw [shape] at read
  cases text : n.jsonText.toList with
  | nil =>
      rw [text] at read
      cases read
  | cons c more =>
      rw [text] at read solid
      obtain ⟨negative, t, signed, readNumber⟩ :=
        number_of_valueOf (solid c List.mem_cons_self) read
      obtain ⟨front, whole, again⟩ := framed_number negative t n back readNumber
      -- The text has no blanks, so none are left of it.
      have ends : back = [] := by
        refine List.eq_nil_iff_forall_not_mem.mpr fun d left => ?_
        have inText : d ∈ c :: more := by
          rw [signed, whole]
          unfold withSign
          split <;> simp [left]
        exact absurd (blank d left) (by simp [solid d inText])
      rw [ends, List.append_nil] at whole
      rw [signed, whole]
      exact prints_of_number fun rest follows => again rest (.inr follows)

/-- The two roundings that read `0.09090909090909091` end one step beside the number it is the
shortest text of. -/
example : ¬ (binary (.ofRatio false 1 11)).Restored := by
  decide +kernel

/-! ## Whole numbers -/

theorem le_ofDigitChars (digits : List Char) (n : Nat) : n ≤ Nat.ofDigitChars 10 digits n := by
  rw [Nat.ofDigitChars_eq_ofDigitChars_zero]
  exact (Nat.le_mul_of_pos_left n (Nat.pow_pos (by decide))).trans (Nat.le_add_right _ _)

/-- Digits are all appended if what they spell is small enough. -/
theorem appendDigits_eq {n : Nat} {digits : List Char}
    (small : Nat.ofDigitChars 10 digits n < UInt64.size) :
    JsonNumber.appendDigits n digits = (Nat.ofDigitChars 10 digits n, []) := by
  induction digits generalizing n with
  | nil => rfl
  | cons c digits ih =>
      rw [Nat.ofDigitChars_cons] at small ⊢
      rw [JsonNumber.appendDigits, if_pos ((le_ofDigitChars digits _).trans_lt small)]
      exact ih small

/-- Only zero is written with a zero in front. -/
theorem head?_toDigits {n : Nat} (positive : 0 < n) : (Nat.toDigits 10 n).head? ≠ some '0' := by
  induction n using Nat.strongRecOn with
  | ind n ih =>
      by_cases small : n < 10
      · have each : ∀ m < 10, 0 < m → [m.digitChar].head? ≠ some '0' := by decide
        rw [Nat.toDigits_of_lt_base small]
        exact each n small positive
      · have front := ih (n / 10) (by omega) (by omega)
        have nonempty : Nat.toDigits 10 (n / 10) ≠ [] := Nat.toDigits_ne_nil
        obtain ⟨c, more, shape⟩ := List.exists_cons_of_ne_nil nonempty
        rw [Nat.toDigits_of_base_le (by decide) (by omega), shape]
        rwa [shape] at front

section Digits

variable {rest : List Char} (follows : Follows rest)

include follows

theorem stops_of_follows {p : Char → Bool} (part : ∀ c, p c = true → extendsNumber c = true) :
    ∀ c ∈ rest.head?, p c = false := by
  have alike : EndsAlike [] rest := .inr follows
  exact alike.boundary part (by simp)

theorem run_wholeDigits_toDigits (n : Nat) :
    wholeDigits.run (Nat.toDigits 10 n ++ rest) = .ok (Nat.toDigits 10 n, rest) := by
  have stops : ∀ c ∈ rest.head?, c.isDigit = false :=
    stops_of_follows follows fun _ => extendsNumber_of_isDigit
  by_cases zero : n = 0
  · subst zero
    exact run_wholeDigits_zero stops
  · have front := head?_toDigits (Nat.pos_of_ne_zero zero)
    have all : ∀ c ∈ Nat.toDigits 10 n, c.isDigit = true := fun c member =>
      Nat.isDigit_of_mem_toDigits (by decide) (by decide) member
    have nonempty : Nat.toDigits 10 n ≠ [] := Nat.toDigits_ne_nil
    obtain ⟨c, more, shape⟩ := List.exists_cons_of_ne_nil nonempty
    rw [shape] at front all ⊢
    obtain ⟨isDigit, others⟩ := List.forall_mem_cons.mp all
    rw [List.cons_append, run_wholeDigits isDigit (by simpa using front),
      run_bind_of_ok (run_digits_append others stops)]
    rfl

/-- The digits of a whole number are read as that number. -/
theorem run_number_toDigits (negative : Bool) {n : Nat} (small : n < UInt64.size) :
    (number negative).run (Nat.toDigits 10 n ++ rest) =
      .ok (JsonNumber.ofWhole negative n, rest) := by
  have noPoint : ∀ c ∈ rest.head?, (c == '.') = false :=
    stops_of_follows follows fun _ => extendsNumber_of_point
  have noMark : ∀ c ∈ rest.head?, (c == 'e' || c == 'E') = false :=
    stops_of_follows follows fun _ => extendsNumber_of_mark
  have value : JsonNumber.value? ⟨negative, Nat.toDigits 10 n, none, none⟩ =
      some (JsonNumber.ofWhole negative n) := by
    have back : Nat.ofDigitChars 10 (Nat.toDigits 10 n) 0 = n := Nat.ofDigitChars_ten_toDigits
    simp only [JsonNumber.value?, appendDigits_eq (back.trans_lt small), back]
  rw [number, run_bind_of_ok (run_wholeDigits_toDigits follows n),
    run_bind_of_ok (run_fraction?_none noPoint), run_bind_of_ok (run_exponent?_none noMark), value]
  rfl

end Digits

theorem digitsOfInt_eq (n : Int) :
    Text.digitsOfInt n = withSign (n < 0) (Nat.toDigits 10 n.natAbs) := by
  unfold Text.digitsOfInt withSign
  by_cases negative : n < 0
  · have size : (-n).toNat = n.natAbs := by omega
    simp [negative, size]
  · have size : n.toNat = n.natAbs := by omega
    simp [negative, size]

theorem prints_whole {n : Number} {k : Int} (text : n.jsonText = Text.ofInt k)
    (small : k.natAbs < UInt64.size) (value : JsonNumber.ofWhole (k < 0) k.natAbs = n)
    (depth : Nat) : Prints depth n.jsonText.toList (.number n) := by
  rw [text, Text.ofInt, String.toList_ofList, digitsOfInt_eq]
  refine prints_of_number fun rest follows => ?_
  rw [run_number_toDigits follows _ small, value]

theorem ofWhole_signed (n : Int64) :
    JsonNumber.ofWhole (n.toInt < 0) n.toInt.natAbs = .signed n := by
  have low := n.le_toInt
  have high := n.toInt_lt
  have least := Int64.toInt_minValue
  have greatest := Int64.toInt_maxValue
  unfold JsonNumber.ofWhole
  by_cases negative : n.toInt < 0
  · have value : -(n.toInt.natAbs : Int) = n.toInt := by omega
    have fits : ¬ (n.toInt.natAbs = 0 ∨ n.toInt < Int64.minValue.toInt) := by omega
    simp only [negative, decide_true, if_true, value]
    rw [if_neg fits, Int64.ofInt_toInt]
  · have value : (n.toInt.natAbs : Int) = n.toInt := by omega
    have fits : n.toInt ≤ Int64.maxValue.toInt := by omega
    simp only [negative, decide_false, Bool.false_eq_true, if_false, value]
    rw [if_pos fits, Int64.ofInt_toInt]

theorem prints_signed (n : Int64) (depth : Nat) :
    Prints depth (signed n).jsonText.toList (.number (signed n)) := by
  have low := n.le_toInt
  have high := n.toInt_lt
  have size : UInt64.size = 2 ^ 64 := rfl
  exact prints_whole rfl (by omega) (ofWhole_signed n) depth

theorem prints_unsigned {n : UInt64} (large : (unsigned n).SignedFirst) (depth : Nat) :
    Prints depth (unsigned n).jsonText.toList (.number (unsigned n)) := by
  have large : ¬ (n.toNat : Int) ≤ Int64.maxValue.toInt := Int.not_le.mpr large
  have natural : ¬ (n.toNat : Int) < 0 := by omega
  refine prints_whole rfl (by simpa using n.toNat_lt) ?_ depth
  unfold JsonNumber.ofWhole
  simp only [natural, decide_false, Bool.false_eq_true, if_false, Int.natAbs_natCast]
  rw [if_neg large, UInt64.ofNat_toNat]

end Number

end RecordQuery
