/-
# RecordQuery.Proofs.Coercion -- which literals stand for a field of which kind

A literal is compared with a field as a field of the same kind, if it can stand for
one.  `Literal.CoercesTo` says when it can, by the form of the literal alone, and
`coercesTo_iff` that the reading of literals agrees.  Whole numbers in text are
described by their signs and digits (`Text.IsDecimal`), for any number of leading
zeros.
-/
import RecordQuery.Test.Basic

namespace RecordQuery

set_option autoImplicit false

/-! ## Decimals -/

namespace Text

/-- The text is at least one digit, with or without a sign in front, and has this value. -/
def IsDecimal (t : List Char) (n : Int) : Prop :=
  ∃ digits, digits ≠ [] ∧ (∀ c ∈ digits, c.isDigit = true) ∧
    ((t = digits ∨ t = '+' :: digits) ∧ n = Nat.ofDigitChars 10 digits 0 ∨
      t = '-' :: digits ∧ n = -(Nat.ofDigitChars 10 digits 0 : Int))

theorem natural?_eq_some_iff {t : List Char} {n : Nat} :
    natural? t = some n ↔ (t ≠ [] ∧ ∀ c ∈ t, c.isDigit = true) ∧ n = Nat.ofDigitChars 10 t 0 := by
  rw [natural?, Option.ite_none_right_eq_some, List.all_eq_true, Option.some.injEq]
  exact and_congr_right fun _ => eq_comm

theorem splitSign_cases (t : List Char) :
    (∃ rest, t = '-' :: rest ∧ splitSign t = (true, rest)) ∨
      (∃ rest, t = '+' :: rest ∧ splitSign t = (false, rest)) ∨ splitSign t = (false, t) := by
  unfold splitSign
  split
  · exact .inl ⟨_, rfl, rfl⟩
  · exact .inr (.inl ⟨_, rfl, rfl⟩)
  · exact .inr (.inr rfl)

theorem splitSign_digits {digits : List Char} (nonempty : digits ≠ [])
    (all : ∀ c ∈ digits, c.isDigit = true) : splitSign digits = (false, digits) := by
  obtain ⟨c, rest, rfl⟩ := List.exists_cons_of_ne_nil nonempty
  exact splitSign_of_isDigit (all c List.mem_cons_self)

theorem integer?_eq_some_iff {t : List Char} {n : Int} : integer? t = some n ↔ IsDecimal t n := by
  simp only [integer?, Option.map_eq_some_iff, natural?_eq_some_iff]
  constructor
  · rintro ⟨m, ⟨⟨nonempty, all⟩, rfl⟩, value⟩
    -- The digits are what is left of the text behind its sign.
    refine ⟨_, nonempty, all, ?_⟩
    rcases splitSign_cases t with ⟨rest, rfl, split⟩ | ⟨rest, rfl, split⟩ | split
    · rw [split] at value ⊢
      exact .inr ⟨rfl, by simpa using value.symm⟩
    · rw [split] at value ⊢
      exact .inl ⟨.inr rfl, by simpa using value.symm⟩
    · rw [split] at value ⊢
      exact .inl ⟨.inl rfl, by simpa using value.symm⟩
  · rintro ⟨digits, nonempty, all, ⟨rfl | rfl, rfl⟩ | ⟨rfl, rfl⟩⟩
    · rw [splitSign_digits nonempty all]
      exact ⟨_, ⟨⟨nonempty, all⟩, rfl⟩, by simp⟩
    · exact ⟨_, ⟨⟨nonempty, all⟩, rfl⟩, by simp [splitSign]⟩
    · exact ⟨_, ⟨⟨nonempty, all⟩, rfl⟩, by simp [splitSign]⟩

end Text

/-! ## Literals -/

namespace Literal

/-- A decimal that a signed number of 64 bits can hold. -/
def SpellsInt64 (s : String) : Prop :=
  ∃ n : Int, Text.IsDecimal s.toList n ∧ -9223372036854775808 ≤ n ∧ n ≤ 9223372036854775807

theorem exists_integer64?_iff {s : String} : (∃ n, integer64? s = some n) ↔ SpellsInt64 s := by
  have least : Int64.minValue.toInt = -9223372036854775808 := rfl
  have greatest : Int64.maxValue.toInt = 9223372036854775807 := rfl
  simp only [integer64?, Option.bind_eq_some_iff, Text.integer?_eq_some_iff,
    Option.ite_none_right_eq_some, least, greatest, SpellsInt64]
  constructor
  · rintro ⟨-, m, decimal, fits, -⟩
    exact ⟨m, decimal, fits⟩
  · rintro ⟨m, decimal, fits⟩
    exact ⟨_, m, decimal, fits, rfl⟩

/-- The literal stands for a field of this kind: any for a text; numbers, instants and texts that
spell a number for a number; the same with whole numbers of 64 bits for an instant; and two words
for a flag. -/
def CoercesTo (v : Literal) : FieldKind → Prop
  | .text => True
  | .number => ∀ s, v = .text s → ∃ n, Number.ofText? s.toList = some n
  | .instant => ∀ s, v = .text s → SpellsInt64 s
  | .flag => v = .text "true" ∨ v = .text "false"
  | .null => False

/-- **A literal is read as a field of a kind exactly if it stands for one.** -/
theorem coercesTo_iff {v : Literal} {kind : FieldKind} :
    v.CoercesTo kind ↔ ∃ field, v.as? kind = some field := by
  cases kind with
  | text => exact ⟨fun _ => ⟨_, rfl⟩, fun _ => trivial⟩
  | null => simp [CoercesTo, as?]
  | number =>
      cases v with
      | text s =>
          simp only [CoercesTo, as?, text.injEq, forall_eq', ← Option.isSome_iff_exists,
            Option.isSome_map]
      | integer n => simp [CoercesTo, as?]
      | instant t => simp [CoercesTo, as?]
  | instant =>
      cases v with
      | text s =>
          simp only [CoercesTo, as?, text.injEq, forall_eq', ← exists_integer64?_iff,
            ← Option.isSome_iff_exists, Option.isSome_map]
      | integer n => simp [CoercesTo, as?]
      | instant t => simp [CoercesTo, as?]
  | flag =>
      cases v with
      | text s =>
          by_cases isTrue : s = "true"
          · simp [CoercesTo, as?, isTrue]
          · by_cases isFalse : s = "false" <;> simp [CoercesTo, as?, isTrue, isFalse]
      | integer n => simp [CoercesTo, as?]
      | instant t => simp [CoercesTo, as?]

theorem as?_eq_none_iff {v : Literal} {kind : FieldKind} :
    v.as? kind = none ↔ ¬ v.CoercesTo kind := by
  rw [coercesTo_iff, Option.eq_none_iff_forall_ne_some]
  exact not_exists.symm

end Literal

end RecordQuery
