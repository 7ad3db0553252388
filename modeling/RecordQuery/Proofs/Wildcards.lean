/-
# RecordQuery.Proofs.Wildcards -- a pattern matches if some choice of gaps does

A pattern is matched from left to right, each piece where it is first found, and no
choice is ever taken back.  `Trail` says what the wildcards mean: the text comes apart
into the pieces, each behind a gap of any length.  Taking the first place loses nothing,
because what is left behind it only grows longer at the front (`afterFirst?_complete`),
and a longer text in front of a piece is a longer gap (`Trail.prepend`).  So
`afterAll?_isTrail_iff` holds in both directions, and with it `accepts_iff_gaps`: a
pattern accepts a text exactly if there are gaps that make up the text with its pieces.

A pattern without wildcards is the same as itself between two of them.
-/
import RecordQuery.Test.Pattern
import Mathlib.Data.List.Infix

namespace RecordQuery.Pattern

set_option autoImplicit false

/-! ## The first occurrence of a piece -/

theorem afterFirst?_of_isPrefix {piece text : List Char} (isPrefix : piece <+: text) :
    afterFirst? piece text = some (text.drop piece.length) := by
  cases text with
  | nil =>
      rw [List.prefix_nil] at isPrefix
      simp [afterFirst?, isPrefix]
  | cons c rest => rw [afterFirst?, if_pos (List.isPrefixOf_iff_prefix.mpr isPrefix)]

theorem afterFirst?_cons_of_not_isPrefix {piece rest : List Char} {c : Char}
    (other : ¬ piece <+: c :: rest) :
    afterFirst? piece (c :: rest) = afterFirst? piece rest := by
  rw [afterFirst?, if_neg (by simpa using other)]

/-- What is found is in the text. -/
theorem afterFirst?_sound {piece text rest : List Char}
    (found : afterFirst? piece text = some rest) : ∃ gap, text = gap ++ piece ++ rest := by
  induction text with
  | nil =>
      by_cases isPrefix : piece <+: []
      · rw [afterFirst?_of_isPrefix isPrefix] at found
        cases found
        exact ⟨[], by simpa using isPrefix⟩
      · simp [afterFirst?] at found isPrefix
        exact absurd found.1 isPrefix
  | cons c text ih =>
      by_cases isPrefix : piece <+: c :: text
      · rw [afterFirst?_of_isPrefix isPrefix] at found
        cases found
        exact ⟨[], (List.prefix_iff_eq_append.mp isPrefix).symm⟩
      · rw [afterFirst?_cons_of_not_isPrefix isPrefix] at found
        obtain ⟨gap, shape⟩ := ih found
        exact ⟨c :: gap, by rw [shape]; rfl⟩

/-- What is in the text is found, there or further to the left. -/
theorem afterFirst?_complete (gap piece rest : List Char) :
    ∃ more, afterFirst? piece (gap ++ piece ++ rest) = some (more ++ rest) := by
  induction gap with
  | nil =>
      have isPrefix : piece <+: piece ++ rest := List.prefix_append piece rest
      exact ⟨[], by simp [afterFirst?_of_isPrefix isPrefix]⟩
  | cons c gap ih =>
      by_cases isPrefix : piece <+: c :: gap ++ piece ++ rest
      · -- An occurrence in front of the one given leaves at least as much of the text.
        have shorter : piece.length ≤ (c :: gap ++ piece).length := by simp; omega
        refine ⟨(c :: gap ++ piece).drop piece.length, ?_⟩
        rw [afterFirst?_of_isPrefix isPrefix, List.drop_append_of_le_length shorter]
      · obtain ⟨more, found⟩ := ih
        exact ⟨more, by rw [← found]; exact afterFirst?_cons_of_not_isPrefix isPrefix⟩

theorem afterFirst?_isSome_iff {piece text : List Char} :
    (afterFirst? piece text).isSome = true ↔ piece <:+: text := by
  rw [Option.isSome_iff_exists]
  constructor
  · rintro ⟨rest, found⟩
    obtain ⟨gap, shape⟩ := afterFirst?_sound found
    exact ⟨gap, rest, shape.symm⟩
  · rintro ⟨gap, rest, rfl⟩
    obtain ⟨more, found⟩ := afterFirst?_complete gap piece rest
    exact ⟨_, found⟩

/-! ## Pieces behind gaps -/

/-- The text consists of the pieces in order, each behind a gap of any characters. -/
def Trail (pieces : List (List Char)) (text : List Char) : Prop :=
  ∃ gaps : List (List Char), gaps.length = pieces.length ∧
    text = (List.zipWith (· ++ ·) gaps pieces).flatten

theorem trail_nil {text : List Char} : Trail [] text ↔ text = [] := by
  simp [Trail]

theorem trail_cons {piece : List Char} {pieces : List (List Char)} {text : List Char} :
    Trail (piece :: pieces) text ↔ ∃ gap rest, text = gap ++ piece ++ rest ∧ Trail pieces rest := by
  constructor
  · rintro ⟨gaps, sameLength, rfl⟩
    cases gaps with
    | nil => simp at sameLength
    | cons gap gaps => exact ⟨gap, _, rfl, gaps, by simpa using sameLength, rfl⟩
  · rintro ⟨gap, rest, rfl, gaps, sameLength, rfl⟩
    exact ⟨gap :: gaps, by simp [sameLength], by simp⟩

theorem trail_singleton {piece text : List Char} : Trail [piece] text ↔ piece <:+ text := by
  rw [trail_cons]
  constructor
  · rintro ⟨gap, rest, rfl, isEnd⟩
    rw [trail_nil.mp isEnd, List.append_nil]
    exact List.suffix_append gap piece
  · rintro ⟨gap, rfl⟩
    exact ⟨gap, [], by simp, trail_nil.mpr rfl⟩

/-- The gap in front of the first piece takes up any text. -/
theorem Trail.prepend {pieces : List (List Char)} {text : List Char} (trail : Trail pieces text)
    (nonempty : pieces ≠ []) (front : List Char) : Trail pieces (front ++ text) := by
  obtain ⟨piece, more, rfl⟩ := List.exists_cons_of_ne_nil nonempty
  obtain ⟨gap, rest, rfl, others⟩ := trail_cons.mp trail
  exact trail_cons.mpr ⟨front ++ gap, rest, by simp, others⟩

/-- **Taking each piece at its first place finds the pieces wherever they are.** -/
theorem afterAll?_isTrail_iff {middle : List (List Char)} {last text : List Char} :
    (∃ rest, afterAll? middle text = some rest ∧ last <:+ rest) ↔ Trail (middle ++ [last]) text := by
  -- For any text: behind the first piece, the search goes on in what is left of it.
  induction middle generalizing text with
  | nil => simp [afterAll?, trail_singleton]
  | cons piece middle ih =>
      rw [List.cons_append, trail_cons]
      constructor
      · rintro ⟨rest, found, isEnd⟩
        obtain ⟨behind, first, others⟩ := Option.bind_eq_some_iff.mp found
        obtain ⟨gap, rfl⟩ := afterFirst?_sound first
        exact ⟨gap, behind, rfl, ih.mp ⟨rest, others, isEnd⟩⟩
      · rintro ⟨gap, behind, rfl, trail⟩
        obtain ⟨more, first⟩ := afterFirst?_complete gap piece behind
        obtain ⟨rest, others, isEnd⟩ := ih.mpr (trail.prepend (by simp) more)
        exact ⟨rest, Option.bind_eq_some_iff.mpr ⟨_, first, others⟩, isEnd⟩

/-! ## Patterns -/

theorem accepts_holding {piece : List Char} {s : String} :
    (holding piece).accepts s = true ↔ piece <:+: s.toList :=
  afterFirst?_isSome_iff

/-- A pinned pattern starts with its first piece, and goes on with the others behind gaps. -/
theorem accepts_pinned {first : List Char} {middle : List (List Char)} {last : List Char}
    {s : String} :
    (pinned first middle last).accepts s = true ↔
      ∃ text, s.toList = first ++ text ∧ Trail (middle ++ [last]) text := by
  simp only [accepts, acceptsList, Bool.and_eq_true, List.isPrefixOf_iff_prefix,
    ← afterAll?_isTrail_iff]
  constructor
  · rintro ⟨isPrefix, ended⟩
    refine ⟨s.toList.drop first.length, (List.prefix_iff_eq_append.mp isPrefix).symm, ?_⟩
    split at ended
    · rename_i rest found
      exact ⟨rest, found, by simpa using ended⟩
    · cases ended
  · rintro ⟨text, shape, rest, found, isEnd⟩
    rw [shape]
    simp [found, isEnd]

/-! ### Patterns from texts -/

theorem ofText?_of_not_mem {text : String} (plain : wildcard ∉ text.toList) :
    ofText? text = some (holding text.toList) := by
  rw [ofText?, List.splitOn_eq_singleton plain]

/-- The pieces between the wildcards, of which there is one more than wildcards. -/
theorem ofText?_of_pieces {text : String} {first : List Char} {middle : List (List Char)}
    {last : List Char} (pieces : text.toList.splitOn wildcard = first :: (middle ++ [last])) :
    ofText? text =
      if sizeLimit < compiledSize (middle.length + 1) (text.utf8ByteSize - (middle.length + 1)) then
        none
      else some (pinned first middle last) := by
  obtain ⟨second, more, several⟩ := List.exists_cons_of_ne_nil (List.concat_ne_nil last middle)
  have length : (second :: more).length = middle.length + 1 := by simp [← several]
  rw [ofText?, pieces, several]
  simp only [length]
  simp [← several]

theorem exists_pieces {text : String} (wild : wildcard ∈ text.toList) :
    ∃ first middle last, text.toList.splitOn wildcard = first :: (middle ++ [last]) := by
  obtain ⟨first, back, shape, free⟩ := List.eq_append_cons_of_mem wild
  have rest : back.splitOn wildcard ≠ [] := List.splitOn_ne_nil _ _
  refine ⟨first, (back.splitOn wildcard).dropLast, (back.splitOn wildcard).getLast rest, ?_⟩
  rw [shape, List.splitOn_append_cons_self_of_not_mem free, List.dropLast_concat_getLast rest]

theorem framed_pieces {text : String} (plain : wildcard ∉ text.toList) :
    ("%" ++ text ++ "%").toList.splitOn wildcard = [] :: ([text.toList] ++ [[]]) := by
  have shape : ("%" ++ text ++ "%").toList = [] ++ wildcard :: (text.toList ++ wildcard :: []) := by
    simp [wildcard]
  rw [shape, List.splitOn_append_cons_self_of_not_mem (by simp),
    List.splitOn_append_cons_self_of_not_mem plain, List.splitOn_nil]
  rfl

theorem ofText?_framed {text : String} (plain : wildcard ∉ text.toList) :
    ofText? ("%" ++ text ++ "%") =
      if sizeLimit < compiledSize 2 text.utf8ByteSize then none
      else some (pinned [] [text.toList] []) := by
  have size : ("%" ++ text ++ "%").utf8ByteSize - 2 = text.utf8ByteSize := by
    have one : "%".utf8ByteSize = 1 := rfl
    rw [String.utf8ByteSize_append, String.utf8ByteSize_append]
    omega
  rw [ofText?_of_pieces (framed_pieces plain), List.length_singleton, size]

/-- Between two wildcards, a piece may stand anywhere. -/
theorem accepts_framed {piece : List Char} {s : String} :
    (pinned [] [piece] []).accepts s = true ↔ piece <:+: s.toList := by
  rw [accepts_pinned, List.singleton_append]
  constructor
  · rintro ⟨text, shape, trail⟩
    obtain ⟨gap, rest, rfl, -⟩ := trail_cons.mp trail
    exact ⟨gap, rest, shape.symm⟩
  · rintro ⟨gap, rest, shape⟩
    have ended : Trail [[]] rest := trail_singleton.mpr (List.nil_suffix)
    exact ⟨_, shape.symm, trail_cons.mpr ⟨gap, rest, rfl, ended⟩⟩

/-- **What a pattern accepts.**  Without wildcards, the texts that hold it.  With wildcards, the
texts that consist of its pieces in order, the first at the start, each of the others behind a gap
of any characters, and nothing behind the last; a piece is taken literally.  A pattern without
wildcards accepts the same texts as it does between two of them, where it is not too large. -/
theorem accepts_iff_gaps {text : String} {pattern : Pattern}
    (compiled : ofText? text = some pattern) :
    (wildcard ∉ text.toList → ∀ s : String,
      pattern.accepts s = true ↔ text.toList <:+: s.toList) ∧
    (wildcard ∈ text.toList → ∃ first rest, text.toList.splitOn wildcard = first :: rest ∧
      rest ≠ [] ∧ ∀ s : String, pattern.accepts s = true ↔
        ∃ gaps : List (List Char), gaps.length = rest.length ∧
          s.toList = first ++ (List.zipWith (· ++ ·) gaps rest).flatten) ∧
    (wildcard ∉ text.toList →
      (ofText? ("%" ++ text ++ "%") = none ↔ sizeLimit < compiledSize 2 text.utf8ByteSize) ∧
      ∀ framed, ofText? ("%" ++ text ++ "%") = some framed →
        ∀ s, framed.accepts s = pattern.accepts s) := by
  refine ⟨fun plain s => ?_, fun wild => ?_, fun plain => ?_⟩
  · rw [ofText?_of_not_mem plain] at compiled
    cases compiled
    exact accepts_holding
  · obtain ⟨first, middle, last, pieces⟩ := exists_pieces wild
    rw [ofText?_of_pieces pieces] at compiled
    split at compiled
    · cases compiled
    · cases compiled
      refine ⟨first, middle ++ [last], pieces, by simp, fun s => ?_⟩
      rw [accepts_pinned]
      constructor
      · rintro ⟨behind, shape, gaps, sameLength, rfl⟩
        exact ⟨gaps, sameLength, shape⟩
      · rintro ⟨gaps, sameLength, shape⟩
        exact ⟨_, shape, gaps, sameLength, rfl⟩
  · rw [ofText?_of_not_mem plain] at compiled
    cases compiled
    rw [ofText?_framed plain]
    refine ⟨by simp, fun framed compiled s => ?_⟩
    split at compiled
    · cases compiled
    · cases compiled
      rw [Bool.eq_iff_iff, accepts_framed, accepts_holding]

/-- The first `ba` would leave an `a` behind it for the last piece, but so does the second. -/
theorem accepts_iff_gaps_twice :
    ofText? "a%ba%a" = some (pinned ['a'] [['b', 'a']] ['a']) ∧ wildcard ∈ "a%ba%a".toList ∧
      (pinned ['a'] [['b', 'a']] ['a']).accepts "ab\nbaa" = true := by
  have compiled : ofText? "a%ba%a" = some (pinned ['a'] [['b', 'a']] ['a']) := rfl
  have wild : wildcard ∈ "a%ba%a".toList := by decide
  have split : "a%ba%a".toList.splitOn wildcard = [['a'], ['b', 'a'], ['a']] := rfl
  obtain ⟨first, rest, pieces, -, accepted⟩ := (accepts_iff_gaps compiled).2.1 wild
  rw [split] at pieces
  cases pieces
  exact ⟨compiled, wild, (accepted _).mpr ⟨[['b', '\n'], []], rfl, rfl⟩⟩

/-- The two ends of a pattern do not share characters. -/
example : (pinned ['a', 'b'] [] ['b', 'a']).accepts "aba" = false := rfl

end RecordQuery.Pattern
