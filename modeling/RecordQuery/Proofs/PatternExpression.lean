/-
# RecordQuery.Proofs.PatternExpression -- a pattern with wildcards is a regular expression

The regular expression of a pattern has the pattern's pieces in order, between any two of
them any characters at all, and is held at both ends of a text (`Pattern.expression`).
Matching it means going through sets of places, and `mem_reach_gapped` says what becomes
of such a set: a place gets to the end of the text exactly if the pieces make a trail of
what stands behind it.  So a pattern, which takes every piece at the first place only,
accepts the texts in which its expression occurs (`accepts_eq_occursIn`).

Repetition goes on in rounds.  What holds between two of them is `Underway`; a round keeps
it (`Underway.next`), so that the rounds reach every place to the right (`mem_spread`).
-/
import RecordQuery.Proofs.Wildcards
import RecordQuery.Regex.Basic

namespace RecordQuery

set_option autoImplicit false

/-! ## Sets of characters -/

namespace CharSet

theorem contains_single {c d : Char} : (single c).contains d = true ↔ d = c := by
  simp only [contains, single, ofCodes, hasCode_ofRanges, List.map_cons, List.map_nil,
    List.any_cons, List.any_nil, Bool.or_false, Bool.and_eq_true, decide_eq_true_eq]
  rw [← Char.toNat_inj]
  omega

theorem contains_all (c : Char) : all.contains c = true := by
  rw [all, contains_compl]
  rfl

end CharSet

namespace Regex

variable {text : List Char} {ps : Places} {p q : Nat}

/-! ## Places -/

theorem mem_eraseRepsLoop {ps seen : List Nat} :
    q ∈ List.eraseRepsBy.loop (· == ·) p ps seen ↔ q = p ∨ q ∈ ps ∨ q ∈ seen := by
  induction ps generalizing p seen with
  | nil => simp [List.eraseRepsBy.loop, or_comm]
  | cons next rest ih =>
      rw [List.eraseRepsBy.loop]
      split
      · rename_i same
        obtain rfl : p = next := by simpa using same
        rw [ih, List.mem_cons]
        grind
      · rw [ih, List.mem_cons, List.mem_cons]
        grind

theorem mem_eraseReps {ps : List Nat} : q ∈ ps.eraseReps ↔ q ∈ ps := by
  cases ps with
  | nil => rfl
  | cons p rest =>
      rw [List.eraseReps, List.eraseRepsBy, mem_eraseRepsLoop, List.mem_cons]
      simp

theorem Places.mem_union {ps qs : Places} : q ∈ ps.union qs ↔ q ∈ ps ∨ q ∈ qs := by
  rw [union, mem_eraseReps, List.mem_merge]

section Rounds

variable {last rounds : Nat} {step : Places → Places} {seen front : Places}

/-- A step is to the next place, wherever there is one. -/
def StepsOn (last : Nat) (step : Places → Places) : Prop :=
  ∀ ps q, q ∈ step ps ↔ ∃ p ∈ ps, p < last ∧ q = p + 1

/-- What holds between two rounds.  The places in front have been seen, and the rounds that are left
are as many as it takes to get from there to the last place; any other place that has been seen has
been gone on from. -/
structure Underway (last rounds : Nat) (seen front : Places) : Prop where
  within : ∀ p ∈ seen, p ≤ last
  inFront : ∀ p ∈ front, p ∈ seen
  enough : ∀ p ∈ front, last ≤ p + rounds
  behind : ∀ p ∈ seen, p ∉ front → p < last → p + 1 ∈ seen

/-- The places that a round comes to for the first time. -/
def fresh (step : Places → Places) (seen front : Places) : Places :=
  (step front).filter fun p => !seen.contains p

theorem mem_fresh (on : StepsOn last step) :
    p ∈ fresh step seen front ↔ (∃ p' ∈ front, p' < last ∧ p = p' + 1) ∧ p ∉ seen := by
  simp [fresh, on front]

/-- A round leaves everything as it has to be, with one round less to go. -/
theorem Underway.next (on : StepsOn last step) (underway : Underway last (rounds + 1) seen front) :
    Underway last rounds (seen.union (fresh step seen front)) (fresh step seen front) where
  within p member := by
    rcases Places.mem_union.mp member with old | new
    · exact underway.within p old
    · obtain ⟨⟨p', -, before, rfl⟩, -⟩ := (mem_fresh on).mp new
      omega
  inFront p new := Places.mem_union.mpr (.inr new)
  enough p new := by
    obtain ⟨⟨p', isFront, -, rfl⟩, -⟩ := (mem_fresh on).mp new
    have := underway.enough p' isFront
    omega
  behind p member notFresh before := by
    have old : p ∈ seen := (Places.mem_union.mp member).resolve_right notFresh
    rw [Places.mem_union]
    by_cases isFront : p ∈ front
    · by_cases known : p + 1 ∈ seen
      · exact .inl known
      · exact .inr ((mem_fresh on).mpr ⟨⟨p, isFront, before, rfl⟩, known⟩)
    · exact .inl (underway.behind p old isFront before)

/-- A round adds nothing that was not to the right of a place seen before it. -/
theorem Underway.reaches_next_iff (on : StepsOn last step)
    (underway : Underway last (rounds + 1) seen front) :
    (∃ p ∈ seen.union (fresh step seen front), p ≤ q ∧ q ≤ last) ↔
      ∃ p ∈ seen, p ≤ q ∧ q ≤ last := by
  simp only [Places.mem_union, mem_fresh on]
  constructor
  · rintro ⟨p, old | ⟨⟨p', isFront, -, rfl⟩, -⟩, le, upTo⟩
    · exact ⟨p, old, le, upTo⟩
    · exact ⟨p', underway.inFront p' isFront, by omega, upTo⟩
  · rintro ⟨p, old, bounds⟩
    exact ⟨p, .inl old, bounds⟩

/-- Where the front has been gone on from too, every place further to the right has been seen. -/
theorem Underway.mem_iff (underway : Underway last rounds seen front)
    (goesOn : ∀ p ∈ front, p < last → p + 1 ∈ seen) :
    q ∈ seen ↔ ∃ p ∈ seen, p ≤ q ∧ q ≤ last := by
  constructor
  · exact fun member => ⟨q, member, le_refl q, underway.within q member⟩
  · rintro ⟨p, member, le, upTo⟩
    induction le with
    | refl => exact member
    | @step p' _ ih =>
        have reached := ih (by omega)
        by_cases isFront : p' ∈ front
        · exact goesOn p' isFront (by omega)
        · exact underway.behind p' reached isFront (by omega)

/-- **Rounds reach every place further to the right**: either they last until the end of the text is
in front, or they stop because no place is new. -/
theorem mem_spread (on : StepsOn last step) (underway : Underway last rounds seen front) :
    q ∈ Places.spread step rounds seen front ↔ ∃ p ∈ seen, p ≤ q ∧ q ≤ last := by
  induction rounds generalizing seen front with
  | zero =>
      refine underway.mem_iff fun p isFront before => ?_
      have := underway.enough p isFront
      omega
  | succ rounds ih =>
      rw [Places.spread]
      split
      · rename_i nothing
        refine underway.mem_iff fun p isFront before => ?_
        by_contra unseen
        have new : p + 1 ∈ fresh step seen front :=
          (mem_fresh on).mpr ⟨⟨p, isFront, before, rfl⟩, unseen⟩
        rw [fresh, nothing] at new
        cases new
      · exact (ih (underway.next on)).trans (underway.reaches_next_iff on)

end Rounds

/-! ## Expressions -/

/-- The characters of a piece, one after the other. -/
def ofPiece (piece : List Char) : Regex :=
  piece.foldr (fun c r => .seq (.chars (.single c)) r) .empty

/-- Any number of any characters. -/
def anything : Regex := .repeated (.chars .all) 0 none

theorem mem_reach_chars {s : CharSet} :
    q ∈ reach text.toArray (.chars s) ps ↔
      ∃ p ∈ ps, (∃ c, text[p]? = some c ∧ s.contains c = true) ∧ q = p + 1 := by
  simp [reach, Option.any_eq_true, and_assoc, eq_comm (a := q)]

theorem cons_isPrefix_drop {c : Char} {piece : List Char} :
    c :: piece <+: text.drop p ↔ text[p]? = some c ∧ piece <+: text.drop (p + 1) := by
  have first : text[p]? = (text.drop p).head? := by rw [List.head?_drop]
  have rest : text.drop (p + 1) = (text.drop p).tail := by rw [List.tail_drop]
  rw [first, rest]
  cases text.drop p with
  | nil => simp
  | cons d behind => simp [List.cons_prefix_cons, eq_comm]

theorem mem_reach_ofPiece {piece : List Char} :
    q ∈ reach text.toArray (ofPiece piece) ps ↔
      ∃ p ∈ ps, piece <+: text.drop p ∧ q = p + piece.length := by
  induction piece generalizing ps with
  | nil => simp [ofPiece, reach]
  | cons c piece ih =>
      have step : reach text.toArray (ofPiece (c :: piece)) ps =
          reach text.toArray (ofPiece piece) (reach text.toArray (.chars (.single c)) ps) := rfl
      simp only [step, ih, mem_reach_chars, CharSet.contains_single, exists_eq_right,
        cons_isPrefix_drop, List.length_cons]
      constructor
      · rintro ⟨_, ⟨p, member, here, rfl⟩, behind, rfl⟩
        exact ⟨p, member, ⟨here, behind⟩, by omega⟩
      · rintro ⟨p, member, ⟨here, behind⟩, rfl⟩
        exact ⟨p + 1, ⟨p, member, here, rfl⟩, behind, by omega⟩

theorem mem_reach_anything (within : ∀ p ∈ ps, p ≤ text.length) :
    q ∈ reach text.toArray anything ps ↔ ∃ p ∈ ps, p ≤ q ∧ q ≤ text.length := by
  have on : StepsOn text.length (reach text.toArray (.chars .all)) := by
    simp [StepsOn, mem_reach_chars, CharSet.contains_all, ← Option.isSome_iff_exists]
  have rounds : reach text.toArray anything ps =
      Places.spread (reach text.toArray (.chars .all)) (text.length + 1) ps ps := by
    simp [anything, reach, Places.advance]
  have underway : Underway text.length (text.length + 1) ps ps :=
    ⟨within, fun _ member => member, fun _ _ => by omega, fun _ member old => absurd member old⟩
  rw [rounds, mem_spread on underway]

/-- The places of a text, of which the last is its end. -/
def places (text : List Char) : Places := List.range (text.length + 1)

theorem mem_reach_textStart :
    p ∈ reach text.toArray (.look .textStart) (places text) ↔ p = 0 := by
  simp only [reach, Look.holds, before, places, List.mem_filter, List.mem_range]
  cases p with
  | zero => simp
  | succ p => simp

theorem occursIn_iff {r : Regex} {s : String} :
    r.occursIn s = true ↔ ∃ q, q ∈ reach s.toList.toArray r (places s.toList) := by
  rw [occursIn, bne_iff_ne, ne_eq, List.eq_nil_iff_forall_not_mem, not_forall_not]
  rfl

end Regex

/-! ## Patterns -/

namespace Pattern

open Regex (anything ofPiece)

variable {text : List Char} {ps : Regex.Places} {q : Nat}

/-- Pieces behind gaps, and the end of the text. -/
def gapped : List (List Char) → Regex
  | [] => .look .textEnd
  | piece :: rest => .seq anything (.seq (ofPiece piece) (gapped rest))

/-- The pieces with any characters between them, held at both ends. -/
def expression (first : List Char) (rest : List (List Char)) : Regex :=
  .seq (.look .textStart) (.seq (ofPiece first) (gapped rest))

/-- A trail goes on behind its first piece, wherever that is. -/
theorem trail_cons_drop {piece : List Char} {pieces : List (List Char)} {p : Nat}
    (within : p ≤ text.length) :
    Trail (piece :: pieces) (text.drop p) ↔ ∃ q, (p ≤ q ∧ q ≤ text.length) ∧
      piece <+: text.drop q ∧ Trail pieces (text.drop (q + piece.length)) := by
  rw [trail_cons]
  constructor
  · rintro ⟨gap, behind, shape, trail⟩
    have gone : text.drop (p + gap.length) = piece ++ behind := by
      rw [← List.drop_drop, shape, List.append_assoc, List.drop_left]
    have length := congrArg List.length shape
    rw [List.length_drop, List.length_append, List.length_append] at length
    refine ⟨p + gap.length, by omega, ⟨behind, gone.symm⟩, ?_⟩
    rwa [← List.drop_drop, gone, List.drop_left]
  · rintro ⟨q, ⟨le, -⟩, ⟨behind, shape⟩, trail⟩
    obtain ⟨n, rfl⟩ := Nat.exists_eq_add_of_le le
    rw [← List.drop_drop, ← shape, List.drop_left] at trail
    rw [← List.drop_drop] at shape
    refine ⟨(text.drop p).take n, behind, ?_, trail⟩
    rw [List.append_assoc, shape, List.take_append_drop]

/-- **The end is reached from a place exactly if the pieces are a trail of what stands there.** -/
theorem mem_reach_gapped {pieces : List (List Char)} (within : ∀ p ∈ ps, p ≤ text.length) :
    q ∈ Regex.reach text.toArray (gapped pieces) ps ↔
      q = text.length ∧ ∃ p ∈ ps, Trail pieces (text.drop p) := by
  induction pieces generalizing ps with
  | nil =>
      have ended : q ∈ Regex.reach text.toArray (gapped []) ps ↔ q ∈ ps ∧ text.length ≤ q := by
        simp [gapped, Regex.reach, Look.holds]
      simp only [ended, trail_nil, List.drop_eq_nil_iff]
      constructor
      · rintro ⟨member, atEnd⟩
        exact ⟨Nat.le_antisymm (within q member) atEnd, q, member, atEnd⟩
      · rintro ⟨rfl, p, member, atEnd⟩
        obtain rfl : p = text.length := Nat.le_antisymm (within p member) atEnd
        exact ⟨member, atEnd⟩
  | cons piece rest ih =>
      have step : Regex.reach text.toArray (gapped (piece :: rest)) ps =
          Regex.reach text.toArray (gapped rest) (Regex.reach text.toArray (ofPiece piece)
            (Regex.reach text.toArray anything ps)) := rfl
      rw [step, ih]
      · simp only [Regex.mem_reach_ofPiece, Regex.mem_reach_anything within]
        refine and_congr_right fun _ => ?_
        constructor
        · rintro ⟨_, ⟨q, ⟨p, member, onTheWay⟩, here, rfl⟩, trail⟩
          exact ⟨p, member, (trail_cons_drop (within p member)).mpr ⟨q, onTheWay, here, trail⟩⟩
        · rintro ⟨p, member, trail⟩
          obtain ⟨q, onTheWay, here, others⟩ := (trail_cons_drop (within p member)).mp trail
          exact ⟨_, ⟨q, ⟨p, member, onTheWay⟩, here, rfl⟩, others⟩
      · intro p member
        obtain ⟨p', onTheWay, isPrefix, rfl⟩ := Regex.mem_reach_ofPiece.mp member
        obtain ⟨-, -, -, upTo⟩ := (Regex.mem_reach_anything within).mp onTheWay
        have := isPrefix.length_le
        rw [List.length_drop] at this
        omega

/-- Behind the first piece, where the text begins with it. -/
theorem mem_reach_opening {first : List Char} {p : Nat} :
    p ∈ Regex.reach text.toArray (.seq (.look .textStart) (ofPiece first)) (Regex.places text) ↔
      first <+: text ∧ p = first.length := by
  rw [Regex.reach, Regex.mem_reach_ofPiece]
  simp [Regex.mem_reach_textStart]

/-- The expression occurs in the texts that begin with the first piece and go on as a trail of the
others. -/
theorem occursIn_expression {first : List Char} {rest : List (List Char)} {s : String} :
    (expression first rest).occursIn s = true ↔
      ∃ text, s.toList = first ++ text ∧ Trail rest text := by
  have steps : Regex.reach s.toList.toArray (expression first rest) (Regex.places s.toList) =
      Regex.reach s.toList.toArray (gapped rest) (Regex.reach s.toList.toArray
        (.seq (.look .textStart) (ofPiece first)) (Regex.places s.toList)) := rfl
  rw [Regex.occursIn_iff, steps]
  have within : ∀ p ∈ Regex.reach s.toList.toArray (.seq (.look .textStart) (ofPiece first))
      (Regex.places s.toList), p ≤ s.toList.length := by
    intro p member
    obtain ⟨isPrefix, rfl⟩ := mem_reach_opening.mp member
    exact isPrefix.length_le
  simp only [mem_reach_gapped within, mem_reach_opening]
  constructor
  · rintro ⟨_, rfl, _, ⟨⟨text, shape⟩, rfl⟩, trail⟩
    rw [← shape, List.drop_left] at trail
    exact ⟨text, shape.symm, trail⟩
  · rintro ⟨text, shape, trail⟩
    refine ⟨_, rfl, _, ⟨⟨text, shape.symm⟩, rfl⟩, ?_⟩
    rwa [shape, List.drop_left]

/-- **A pattern accepts the texts in which its regular expression occurs.** -/
theorem accepts_eq_occursIn (first : List Char) (middle : List (List Char)) (last : List Char)
    (s : String) :
    (pinned first middle last).accepts s = (expression first (middle ++ [last])).occursIn s := by
  rw [Bool.eq_iff_iff, accepts_pinned, occursIn_expression]

end Pattern

end RecordQuery
