/-
# RecordQuery.Proofs.ListElements -- what keeps a text from being a value

A value is one or more words between separators.  Two things can be wrong with a text that
is none: an element is missing from it, which shows as two separators next to each other
once one is put in front of it (`Gap`), or it holds a character that is in no value
(`Foreign`).  `gap_or_foreign` says that there is no third.
-/
import RecordQuery.Proofs.QueryText

namespace RecordQuery.Fragment

set_option autoImplicit false

/-! ## Missing elements -/

/-- No value holds the character: it is neither part of a word nor between two words. -/
def Foreign (c : Char) : Prop :=
  Text.isWordChar c = false ∧ c ≠ Operand.separator

/-- Two separators stand next to each other, or one stands at the end. -/
def Gap (t : List Char) : Prop :=
  [Operand.separator, Operand.separator] <:+: t ∨ [Operand.separator] <:+ t

/-- An element of a list is missing: between two separators, behind the last one, or between the
code of an operator and a separator. -/
def EmptyElement (t : List Char) : Prop :=
  Gap t ∨ ∃ op : Operator, [op.code, Operand.separator] <:+: t

theorem hasDoubleSeparator_iff {t : List Char} :
    hasDoubleSeparator t = true ↔ [Operand.separator, Operand.separator] <:+: t := by
  fun_induction hasDoubleSeparator t with
  | case1 a b rest ih =>
      rw [@List.infix_cons_iff _ _ a, List.cons_prefix_cons, List.cons_prefix_cons, Bool.or_eq_true,
        Bool.and_eq_true, beq_iff_eq, beq_iff_eq, ih, and_iff_left List.nil_prefix,
        @eq_comm _ a, @eq_comm _ b]
  | case2 t short =>
      simp only [Bool.false_eq_true, false_iff]
      rintro ⟨front, back, rfl⟩
      rcases front with _ | ⟨c, _ | ⟨d, front⟩⟩ <;> exact short _ _ _ rfl

theorem gap_iff {t : List Char} :
    Gap t ↔ hasDoubleSeparator t = true ∨ t.getLast? = some Operand.separator := by
  rw [Gap, hasDoubleSeparator_iff, List.getLast?_eq_some_iff]
  simp only [List.IsSuffix, eq_comm]

theorem Gap.append_left {t : List Char} (gap : Gap t) (front : List Char) : Gap (front ++ t) := by
  rcases gap with double | last
  · exact .inl (double.trans (List.suffix_append front t).isInfix)
  · exact .inr (last.trans (List.suffix_append front t))

theorem Gap.mem {t : List Char} (gap : Gap t) : Operand.separator ∈ t := by
  rcases gap with double | last
  · exact double.subset (by simp)
  · exact last.subset (by simp)

theorem Gap.of_separator_cons {value : List Char} (gap : Gap (Operand.separator :: value)) :
    value = [] ∨ value.head? = some Operand.separator ∨ Gap value := by
  rcases gap with double | last
  · rcases List.infix_cons_iff.mp double with front | inside
    · obtain ⟨back, shape⟩ := (List.cons_prefix_cons.mp front).2
      exact .inr (.inl (by simp [← shape]))
    · exact .inr (.inr (.inl inside))
  · rcases List.suffix_cons_iff.mp last with whole | inside
    · exact .inl (List.cons.inj whole).2.symm
    · exact .inr (.inr (.inr inside))

/-! ## What is no value -/

theorem words?_word {w : List Char} (isWord : Text.isWord w = true) : words? w = some [w] :=
  words?_eq_some_iff.mpr ⟨by simp, by simp, by simpa using isWord⟩

theorem words?_separator {w rest : List Char} (isWord : Text.isWord w = true) :
    words? (w ++ Operand.separator :: rest) = (words? rest).map (w :: ·) := by
  simp only [words?, List.splitOn_append_cons_self_of_not_mem (separator_not_mem isWord),
    List.all_cons, isWord, Bool.true_and]
  split <;> rfl

theorem words?_eq_none_of_foreign {value : List Char} {c : Char} (member : c ∈ value)
    (foreign : Foreign c) : words? value = none := by
  rw [Option.eq_none_iff_forall_ne_some]
  intro words read
  obtain ⟨rfl, -, all⟩ := words?_eq_some_iff.mp read
  rcases mem_intercalate member with separates | ⟨w, inWords, inWord⟩
  · exact foreign.2 separates
  · have inside := (Text.isWord_iff.mp (all w inWords)).2 c inWord
    rw [foreign.1] at inside
    cases inside

/-- What is not read as a value lacks an element, or holds a character that has no place in it. -/
theorem gap_or_foreign {value : List Char} (unread : words? value = none) :
    Gap (Operand.separator :: value) ∨ ∃ c ∈ value, Foreign c := by
  -- From word to word: behind a separator, what is left is unread as well.
  induction length : value.length using Nat.strongRecOn generalizing value with
  | ind n ih =>
    obtain ⟨run, rest, rfl, inRun, boundary⟩ := Text.exists_run value
    by_cases other : ∃ c tail, rest = c :: tail ∧ c ≠ Operand.separator
    · obtain ⟨c, tail, rfl, apart⟩ := other
      exact .inr ⟨c, by simp, boundary c rfl, apart⟩
    by_cases empty : run = []
    · subst empty
      cases rest with
      | nil => exact .inl (.inr List.suffix_rfl)
      | cons c tail =>
          obtain rfl : c = Operand.separator := by simpa using other
          exact .inl (.inl ⟨[], tail, rfl⟩)
    · have isWord : Text.isWord run = true := Text.isWord_iff.mpr ⟨empty, inRun⟩
      cases rest with
      | nil => simp [words?_word isWord] at unread
      | cons c tail =>
          obtain rfl : c = Operand.separator := by simpa using other
          rw [words?_separator isWord, Option.map_eq_none_iff] at unread
          have shorter : tail.length < n := by
            rw [← length, List.length_append, List.length_cons]
            omega
          rcases ih _ shorter unread rfl with gap | ⟨d, member, foreign⟩
          · exact .inl (gap.append_left (Operand.separator :: run))
          · exact .inr ⟨d, by simp [member], foreign⟩

end RecordQuery.Fragment
