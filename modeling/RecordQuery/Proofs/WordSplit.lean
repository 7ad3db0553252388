/-
# RecordQuery.Proofs.WordSplit -- where a run of word characters comes apart

The underscore is a word character and a separator at once, so a run of word
characters can come apart at any of its inner underscores.  `splitLastInner` takes
the last of them: `splitLastInner_eq_some_iff` says so of the two parts alone,
`splitLastInner_eq_none_iff` when there is none, and `exists_last_inner` that two words
around an underscore can be traded for two around the last one, the front word growing
no shorter.
-/
import RecordQuery.Text.Word

namespace RecordQuery.Text

set_option autoImplicit false

/-! ## The last inner underscore -/

/-- No underscore stands before the last character. -/
def NoInnerUnderscore (w : List Char) : Prop :=
  '_' ∉ w.dropLast

instance (w : List Char) : Decidable (NoInnerUnderscore w) :=
  inferInstanceAs (Decidable ('_' ∉ w.dropLast))

@[simp] theorem noInnerUnderscore_concat {front : List Char} {last : Char} :
    NoInnerUnderscore (front ++ [last]) ↔ '_' ∉ front := by
  simp [NoInnerUnderscore]

theorem ne_underscore {front : List Char} (free : '_' ∉ front) :
    ∀ c ∈ front, (c != '_') = true := by
  intro c member
  simpa using fun same : c = '_' => free (same ▸ member)

theorem takeWhile_ne_underscore {front back : List Char} (free : '_' ∉ front) :
    (front ++ '_' :: back).takeWhile (· != '_') = front := by
  rw [List.takeWhile_append_of_pos (ne_underscore free)]
  simp

theorem dropWhile_ne_underscore {front back : List Char} (free : '_' ∉ front) :
    (front ++ '_' :: back).dropWhile (· != '_') = '_' :: back := by
  rw [List.dropWhile_append_of_pos (ne_underscore free)]
  simp

/-- What `dropWhile` leaves starts with an underscore. -/
theorem eq_underscore_of_dropWhile {t rest : List Char} {c : Char}
    (left : t.dropWhile (· != '_') = c :: rest) : c = '_' := by
  have stops := List.head?_dropWhile_not (· != '_') t
  simpa [left] using stops

theorem not_mem_takeWhile_ne_underscore (t : List Char) :
    '_' ∉ t.takeWhile (· != '_') := by
  intro member
  have all : (t.takeWhile (· != '_')).all (· != '_') = true := List.all_takeWhile
  simpa using List.all_eq_true.mp all '_' member

theorem exists_concat {t : List Char} (nonempty : t ≠ []) :
    ∃ front last, t = front ++ [last] :=
  ⟨t.dropLast, t.getLast nonempty, (List.dropLast_concat_getLast nonempty).symm⟩

theorem splitLastInner_append {key word : List Char} (keyed : key ≠ []) (valued : word ≠ [])
    (tight : NoInnerUnderscore word) :
    splitLastInner (key ++ '_' :: word) = some (key, word) := by
  obtain ⟨front, last, rfl⟩ := exists_concat valued
  obtain ⟨before, first, rfl⟩ := exists_concat keyed
  have free : '_' ∉ front.reverse := by simpa using tight
  have reversed : ((before ++ [first]) ++ '_' :: (front ++ [last])).reverse =
      last :: (front.reverse ++ '_' :: (first :: before.reverse)) := by simp
  simp only [splitLastInner, reversed, dropWhile_ne_underscore free,
    takeWhile_ne_underscore free]
  simp

theorem splitLastInner_spec {t key word : List Char}
    (found : splitLastInner t = some (key, word)) :
    t = key ++ '_' :: word ∧ key ≠ [] ∧ word ≠ [] ∧ NoInnerUnderscore word := by
  unfold splitLastInner at found
  split at found
  · cases found
  · rename_i last front shape
    split at found
    · rename_i mark first before parts
      cases found
      obtain rfl := eq_underscore_of_dropWhile parts
      have whole : front.takeWhile (· != '_') ++ '_' :: first :: before = front := by
        rw [← parts, List.takeWhile_append_dropWhile]
      refine ⟨?_, by simp, by simp, ?_⟩
      · calc t = (last :: front).reverse := by rw [← shape, List.reverse_reverse]
          _ = (last :: (front.takeWhile (· != '_') ++ '_' :: first :: before)).reverse := by
              rw [whole]
          _ = _ := by simp
      · rw [List.reverse_cons, noInnerUnderscore_concat, List.mem_reverse]
        exact not_mem_takeWhile_ne_underscore front
    · cases found

theorem splitLastInner_eq_some_iff {t key word : List Char} :
    splitLastInner t = some (key, word) ↔
      t = key ++ '_' :: word ∧ key ≠ [] ∧ word ≠ [] ∧ NoInnerUnderscore word := by
  constructor
  · exact splitLastInner_spec
  · rintro ⟨rfl, keyed, valued, tight⟩
    exact splitLastInner_append keyed valued tight

/-! ## Two words around an underscore -/

theorem isWordChar_of_mem_run {key word : List Char} (isKey : isWord key = true)
    (isValue : isWord word = true) :
    ∀ c ∈ key ++ '_' :: word, isWordChar c = true := by
  intro c member
  rcases List.mem_append.mp member with inKey | inValue
  · exact (isWord_iff.mp isKey).2 c inKey
  · rcases List.mem_cons.mp inValue with rfl | inWord
    · decide
    · exact (isWord_iff.mp isValue).2 c inWord

/-- Both parts of a run around an inner underscore are words. -/
theorem isWord_of_run {key word : List Char} (keyed : key ≠ []) (valued : word ≠ [])
    (inRun : ∀ c ∈ key ++ '_' :: word, isWordChar c = true) :
    isWord key = true ∧ isWord word = true :=
  ⟨isWord_iff.mpr ⟨keyed, fun c member => inRun c (by simp [member])⟩,
    isWord_iff.mpr ⟨valued, fun c member => inRun c (by simp [member])⟩⟩

theorem exists_last_occurrence {t : List Char} {c : Char} (member : c ∈ t) :
    ∃ front back, t = front ++ c :: back ∧ c ∉ back := by
  obtain ⟨back, front, shape, free⟩ := List.eq_append_cons_of_mem (List.mem_reverse.mpr member)
  exact ⟨front.reverse, back.reverse, by simpa using congrArg List.reverse shape,
    by simpa using free⟩

/-- Two words around an underscore, traded for the two around the last inner underscore. -/
theorem exists_last_inner {key word : List Char} (isKey : isWord key = true)
    (isValue : isWord word = true) :
    ∃ longer rest, longer ++ '_' :: rest = key ++ '_' :: word ∧ key.length ≤ longer.length ∧
      isWord longer = true ∧ isWord rest = true ∧ NoInnerUnderscore rest := by
  obtain ⟨front, last, rfl⟩ := exists_concat (isWord_iff.mp isValue).1
  by_cases inner : '_' ∈ front
  · obtain ⟨before, after, rfl, free⟩ := exists_last_occurrence inner
    have same : (key ++ '_' :: before) ++ '_' :: (after ++ [last]) =
        key ++ '_' :: (before ++ '_' :: after ++ [last]) := by simp
    have inRun := isWordChar_of_mem_run isKey isValue
    rw [← same] at inRun
    obtain ⟨isLonger, isRest⟩ := isWord_of_run (by simp) (by simp) inRun
    exact ⟨_, _, same, by simp, isLonger, isRest, by simpa using free⟩
  · exact ⟨key, front ++ [last], rfl, Nat.le_refl _, isKey, isValue, by simpa using inner⟩

/-! ## No inner underscore -/

/-- A run does not come apart exactly if no underscore has a character on either side. -/
theorem splitLastInner_eq_none_iff {t : List Char} :
    splitLastInner t = none ↔ NoInnerUnderscore t.tail := by
  rw [Option.eq_none_iff_forall_ne_some]
  constructor
  · intro unsplit inner
    obtain ⟨before, after, shape, free⟩ := exists_last_occurrence inner
    cases t with
    | nil => cases inner
    | cons first rest =>
        have nonempty : rest ≠ [] := by
          rintro rfl
          cases inner
        obtain ⟨middle, last, rfl⟩ := exists_concat nonempty
        obtain rfl : middle = before ++ '_' :: after := by simpa using shape
        have split : splitLastInner ((first :: before) ++ '_' :: (after ++ [last])) =
            some (first :: before, after ++ [last]) :=
          splitLastInner_append (by simp) (by simp) (by simpa using free)
        exact unsplit _ (by simpa using split)
  · rintro free ⟨key, word⟩ split
    obtain ⟨rfl, keyed, valued, -⟩ := splitLastInner_eq_some_iff.mp split
    obtain ⟨first, more, rfl⟩ := List.exists_cons_of_ne_nil keyed
    obtain ⟨front, last, rfl⟩ := exists_concat valued
    have whole : (first :: more ++ '_' :: (front ++ [last])).tail =
        (more ++ '_' :: front) ++ [last] := by simp
    rw [whole, noInnerUnderscore_concat] at free
    exact free (by simp)

theorem underscore_not_mem_tail {t : List Char} (inside : NoInnerUnderscore t.tail)
    (last : t.getLast? ≠ some '_') : '_' ∉ t.tail := by
  cases t with
  | nil => simp
  | cons first rest =>
      by_cases single : rest = []
      · simp [single]
      · obtain ⟨middle, c, rfl⟩ := exists_concat single
        have free : '_' ∉ middle := noInnerUnderscore_concat.mp inside
        have other : c ≠ '_' := by simpa [List.getLast?_cons] using last
        simp [free, other.symm]

/-! ## The run at the front of a text -/

section Run

variable {p : Char → Bool} {run rest : List Char} (inRun : ∀ c ∈ run, p c = true)
  (boundary : ∀ c ∈ rest.head?, p c = false)

include inRun boundary

theorem takeWhile_run : (run ++ rest).takeWhile p = run := by
  rw [List.takeWhile_append_of_pos inRun]
  cases rest with
  | nil => simp
  | cons c rest => simp [boundary c rfl]

theorem dropWhile_run : (run ++ rest).dropWhile p = rest := by
  rw [List.dropWhile_append_of_pos inRun]
  cases rest with
  | nil => simp
  | cons c rest => simp [boundary c rfl]

end Run

/-- What `dropWhile` leaves starts outside the run, if it starts at all. -/
theorem boundary_dropWhile (p : Char → Bool) (t : List Char) :
    ∀ c ∈ (t.dropWhile p).head?, p c = false := by
  intro c first
  have stops := List.head?_dropWhile_not p t
  rw [Option.mem_def] at first
  simpa [first] using stops

/-- Every text is a run of word characters and what comes after it. -/
theorem exists_run (t : List Char) :
    ∃ run rest, t = run ++ rest ∧ (∀ c ∈ run, isWordChar c = true) ∧
      ∀ c ∈ rest.head?, isWordChar c = false :=
  ⟨t.takeWhile isWordChar, t.dropWhile isWordChar, List.takeWhile_append_dropWhile.symm,
    List.all_eq_true.mp List.all_takeWhile, boundary_dropWhile isWordChar t⟩

end RecordQuery.Text
