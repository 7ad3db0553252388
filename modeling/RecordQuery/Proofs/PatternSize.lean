/-
# RecordQuery.Proofs.PatternSize -- how much room a pattern takes

A pattern with wildcards may be no larger than its regular expression is allowed to be, and
`Pattern.compiledSize` has the size in closed form.  It is the sum of what the parts of the
expression take: characters in a row become one literal, but take as much room as before
(`Plan.sizes_merged`), and the ends of the text stay where they are, so that no room is
taken for looking for a beginning (`isAnchoredAmong_bodyParts`).  The sum differs between
the two directions by what any character takes, and is larger going backward, where states
are shared between neighbours only (`wholeSize_expression`).

With that, a text with wildcards stands for its regular expression: it makes a pattern
unless the expression is too large, and the pattern accepts the same texts
(`ofText?_expression`).
-/
import RecordQuery.Proofs.PatternExpression
import RecordQuery.Regex.Reader

namespace RecordQuery

set_option autoImplicit false

/-! ## Bytes -/

namespace Text

theorem length_utf8 (c : Char) : (utf8 c.toNat).length = c.utf8Size := by
  have code : c.val.toNat = c.toNat := rfl
  simp only [utf8, Char.utf8Size, UInt32.le_iff_toNat_le, code, UInt32.toNat_ofNatLT]
  split_ifs <;> first | rfl | omega

/-- The bytes that characters take. -/
def byteSize : List Char → Nat
  | [] => 0
  | c :: t => c.utf8Size + byteSize t

theorem byteSize_append (t u : List Char) : byteSize (t ++ u) = byteSize t + byteSize u := by
  induction t with
  | nil => simp [byteSize]
  | cons c t ih => rw [List.cons_append, byteSize, ih, byteSize, Nat.add_assoc]

theorem length_flatMap_utf8 (t : List Char) :
    (t.flatMap fun c => utf8 c.toNat).length = byteSize t := by
  induction t with
  | nil => rfl
  | cons c t ih => rw [List.flatMap_cons, List.length_append, length_utf8, ih, byteSize]

theorem utf8ByteSize_ofList (t : List Char) : (String.ofList t).utf8ByteSize = byteSize t := by
  induction t with
  | nil => rfl
  | cons c t ih =>
      have parts : String.ofList (c :: t) = String.singleton c ++ String.ofList t := by
        rw [← String.toList_inj]
        simp
      rw [parts, String.utf8ByteSize_append, String.utf8ByteSize_singleton, ih]
      rfl

end Text

namespace Regex

open Size

variable {direction : Direction} {p : Plan} {ps qs : List Plan}

/-! ## Parts -/

namespace Plan

theorem sizes_append : sizes direction (ps ++ qs) = sizes direction ps + sizes direction qs := by
  induction ps with
  | nil => simp [sizes]
  | cons p ps ih => rw [List.cons_append, sizes, ih, sizes, Nat.add_assoc]

theorem size_literal (cs : List Char) :
    size direction (.literal cs) = state * Text.byteSize cs := by
  rw [size, ← Text.length_flatMap_utf8]
  cases direction <;> simp [literalBytes]

theorem sizes_putFirst :
    sizes direction (putFirst p ps) = size direction p + sizes direction ps := by
  unfold putFirst
  split
  · simp only [sizes, size_literal, Text.byteSize_append, Nat.mul_add, Nat.add_assoc]
  · rw [sizes]

/-- Literals that become one take as much room as before. -/
theorem sizes_merged : sizes direction (ps.foldr putFirst []) = sizes direction ps := by
  induction ps with
  | nil => rfl
  | cons p ps ih => rw [List.foldr_cons, sizes_putFirst, ih, sizes]

/-- The end of the text is still what is met first when going backward. -/
theorem isAnchoredAmong_putFirst (anchored : isAnchoredAmong .backward ps = true) :
    isAnchoredAmong .backward (putFirst p ps) = true := by
  unfold putFirst
  split
  · simpa [isAnchoredAmong, isAnchored] using anchored
  · simp [isAnchoredAmong, anchored]

end Plan

/-! ## The parts of an expression -/

/-- The parts of an expression in its simplest form, before neighbours become one. -/
def unmerged (r : Regex) : List Plan := alternatives.whole (alternatives r)

theorem unmerged_seq (a b : Regex) : unmerged (.seq a b) = unmerged a ++ unmerged b := rfl

theorem unmerged_single (c : Char) : unmerged (.chars (.single c)) = [.literal [c]] := by
  have only : Plan.onlyCharacter? (.single c) = some c := by
    simp [Plan.onlyCharacter?, CharSet.single, CharSet.ofCodes, CharSet.ofRanges, CharSet.insert,
      CharSet.none, CodeRange.insertRange]
  show [Plan.ofSet (.single c)] = _
  rw [Plan.ofSet, only]

theorem unmerged_ofPiece (piece : List Char) :
    unmerged (ofPiece piece) = piece.map fun c => .literal [c] := by
  induction piece with
  | nil => rfl
  | cons c piece ih =>
      show unmerged (.seq (.chars (.single c)) (ofPiece piece)) = _
      rw [unmerged_seq, unmerged_single, ih, List.singleton_append, List.map_cons]

/-- Any number of any characters, in its simplest form. -/
def gap : Plan := .repeated (.set .all) 0 none

theorem unmerged_anything : unmerged anything = [gap] := rfl

theorem sizes_letters (piece : List Char) :
    Plan.sizes direction (piece.map fun c => .literal [c]) = state * Text.byteSize piece := by
  induction piece with
  | nil => rfl
  | cons c piece ih =>
      rw [List.map_cons, Plan.sizes, ih, Plan.size_literal, ← Nat.mul_add, ← Text.byteSize_append]
      rfl

/-- A repetition of any character: the states of the set, and one that repeats. -/
def gapSize : Direction → Nat
  | .forward => 456
  | .backward => 1004

theorem size_gap : Plan.size direction gap = gapSize direction := by
  cases direction <;> decide +kernel

end Regex

/-! ## Patterns -/

namespace Pattern

open Regex (Direction Plan gap gapSize unmerged)

variable {direction : Direction}

/-- The parts of a pattern's expression behind the start of the text. -/
def bodyParts (first : List Char) (rest : List (List Char)) : List Plan :=
  first.map (fun c => .literal [c]) ++
    (rest.flatMap fun piece => gap :: piece.map fun c => .literal [c]) ++ [.look .textEnd]

theorem unmerged_gapped (rest : List (List Char)) :
    unmerged (gapped rest) =
      (rest.flatMap fun piece => gap :: piece.map fun c => .literal [c]) ++ [.look .textEnd] := by
  induction rest with
  | nil => rfl
  | cons piece rest ih =>
      rw [gapped, Regex.unmerged_seq, Regex.unmerged_seq, Regex.unmerged_anything,
        Regex.unmerged_ofPiece, ih]
      simp

theorem unmerged_expression (first : List Char) (rest : List (List Char)) :
    unmerged (expression first rest) = .look .textStart :: bodyParts first rest := by
  have start : unmerged (.look .textStart) = [.look .textStart] := rfl
  rw [expression, Regex.unmerged_seq, Regex.unmerged_seq, Regex.unmerged_ofPiece, unmerged_gapped,
    start, bodyParts, List.append_assoc]
  rfl

theorem sizes_bodyParts (first : List Char) (rest : List (List Char)) :
    Plan.sizes direction (bodyParts first rest) =
      gapSize direction * rest.length + 32 * Text.byteSize (first ++ rest.flatten) + 32 := by
  have gaps : Plan.sizes direction
      (rest.flatMap fun piece => gap :: piece.map fun c => .literal [c]) =
        gapSize direction * rest.length + 32 * Text.byteSize rest.flatten := by
    induction rest with
    | nil => rfl
    | cons piece rest ih =>
        rw [List.flatMap_cons, Plan.sizes_append, Plan.sizes, Regex.size_gap, Regex.sizes_letters,
          ih, List.flatten_cons, Text.byteSize_append, List.length_cons, Nat.mul_add_one,
          Regex.Size.state]
        omega
  have ended : Plan.sizes direction [.look .textEnd] = 32 := rfl
  rw [bodyParts, Plan.sizes_append, Plan.sizes_append, Regex.sizes_letters, gaps, ended,
    Text.byteSize_append, Regex.Size.state]
  omega

/-- The end of the text is the last part, whatever neighbours have become one. -/
theorem isAnchoredAmong_bodyParts (first : List Char) (rest : List (List Char)) :
    Plan.isAnchoredAmong .backward ((bodyParts first rest).foldr Plan.putFirst []) = true := by
  rw [bodyParts, List.foldr_append]
  induction first.map (fun c => Plan.literal [c]) ++
      rest.flatMap fun piece => gap :: piece.map fun c => Plan.literal [c] with
  | nil => rfl
  | cons p ps ih => exact Plan.isAnchoredAmong_putFirst ih

/-- The simplest form of a pattern's expression is one sequence, from the start of the text. -/
theorem plan_expression (first : List Char) (rest : List (List Char)) :
    (expression first rest).plan =
      .sequence (.look .textStart :: (bodyParts first rest).foldr Plan.putFirst []) := by
  have flat : (bodyParts first rest).flatMap Plan.parts = bodyParts first rest := by
    simp [bodyParts, List.flatMap_append, List.flatMap_assoc, List.flatMap_map, Plan.parts, gap,
      List.flatMap_cons, ← List.map_eq_flatMap]
  have merged : ((unmerged (expression first rest)).flatMap Plan.parts).foldr Plan.putFirst [] =
      .look .textStart :: (bodyParts first rest).foldr Plan.putFirst [] := by
    rw [unmerged_expression, List.flatMap_cons, flat]
    rfl
  rw [Regex.plan, ← unmerged, Plan.ofParts, merged]
  have anchored := isAnchoredAmong_bodyParts first rest
  cases tail : (bodyParts first rest).foldr Plan.putFirst [] with
  | nil =>
      rw [tail] at anchored
      cases anchored
  | cons p more => rfl

/-- **What the expression of a pattern takes** when compiled for going one way.  Both ends are
anchored, so that no state looks for a beginning; two looks, the state before them and the one at
the end of a match make up 128 bytes, and going forward the ends of the match are kept in two
more. -/
theorem wholeSize_expression (first : List Char) (rest : List (List Char)) :
    (expression first rest).plan.wholeSize direction =
      128 + (if direction = .forward then 64 else 0) + gapSize direction * rest.length +
        32 * Text.byteSize (first ++ rest.flatten) := by
  have anchored : (expression first rest).plan.isAnchored direction = true := by
    rw [plan_expression]
    cases direction with
    | forward => rfl
    | backward => simp [Plan.isAnchored, Plan.isAnchoredAmong, isAnchoredAmong_bodyParts]
  have size : (expression first rest).plan.size direction =
      32 + Plan.sizes direction (bodyParts first rest) := by
    rw [plan_expression, ← Plan.sizes_merged]
    rfl
  rw [Plan.wholeSize, Plan.searchSize, anchored, size, sizes_bodyParts, Regex.Size.state]
  cases direction with
  | forward =>
      simp only [if_true]
      omega
  | backward =>
      simp only [if_true, if_neg (by decide : Direction.backward ≠ .forward)]
      omega

/-- Going backward takes more room than going forward, as soon as there is a wildcard. -/
theorem isTooLarge_expression (first : List Char) {rest : List (List Char)} (wild : rest ≠ []) :
    (expression first rest).isTooLarge = true ↔
      sizeLimit < compiledSize rest.length (Text.byteSize (first ++ rest.flatten)) := by
  have some : 0 < rest.length := List.length_pos_of_ne_nil wild
  have limit : Regex.sizeLimit = sizeLimit := rfl
  have backward : (if Direction.backward = .forward then 64 else 0) = 0 := rfl
  simp only [Regex.isTooLarge, wholeSize_expression, backward, if_true, gapSize, limit,
    Bool.or_eq_true, decide_eq_true_eq, compiledSize]
  omega

/-! ### Texts -/

/-- The bytes of a text are those of its pieces and one for each wildcard. -/
theorem byteSize_intercalate (first : List Char) (rest : List (List Char)) :
    Text.byteSize ([wildcard].intercalate (first :: rest)) =
      Text.byteSize (first ++ rest.flatten) + rest.length := by
  induction rest generalizing first with
  | nil => simp
  | cons piece rest ih =>
      have one : Text.byteSize [wildcard] = 1 := rfl
      rw [List.intercalate_cons_of_ne_nil (List.cons_ne_nil _ _), Text.byteSize_append,
        Text.byteSize_append, ih, one, List.flatten_cons, Text.byteSize_append,
        Text.byteSize_append, Text.byteSize_append, List.length_cons]
      omega

/-- **A text with wildcards stands for its regular expression.**  It makes a pattern unless the
expression is too large, and the pattern accepts the texts in which the expression occurs. -/
theorem ofText?_expression {text : String} {first : List Char} {rest : List (List Char)}
    (pieces : text.toList.splitOn wildcard = first :: rest) (wild : rest ≠ []) :
    (ofText? text = none ↔ (expression first rest).isTooLarge = true) ∧
      ∀ pattern, ofText? text = some pattern →
        ∀ s, pattern.accepts s = (expression first rest).occursIn s := by
  obtain ⟨middle, last, rfl⟩ : ∃ middle last, rest = middle ++ [last] :=
    ⟨rest.dropLast, rest.getLast wild, (List.dropLast_concat_getLast wild).symm⟩
  have whole : text.toList = [wildcard].intercalate (first :: (middle ++ [last])) := by
    rw [← pieces, List.intercalate_splitOn]
  have bytes : text.utf8ByteSize =
      Text.byteSize (first ++ (middle ++ [last]).flatten) + (middle ++ [last]).length := by
    rw [← byteSize_intercalate, ← whole, ← Text.utf8ByteSize_ofList, String.ofList_toList]
  rw [isTooLarge_expression first wild, ofText?_of_pieces pieces, bytes]
  simp only [List.length_append, List.length_singleton, Nat.add_sub_cancel]
  constructor
  · simp
  · intro pattern made s
    split at made
    · cases made
    · cases made
      exact accepts_eq_occursIn first middle last s

/-- As it is written elsewhere: with a dot for any character, line feeds included. -/
example : (Regex.read "(?s)^ab.*c$".toList).toOption.map
    (fun r => r.plan.same (expression ['a', 'b'] [['c']]).plan) = some true := by
  decide +kernel

end Pattern

end RecordQuery
