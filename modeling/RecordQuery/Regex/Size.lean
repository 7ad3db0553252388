/-
# RecordQuery.Regex.Size -- how much room an expression takes when compiled

An expression is compiled twice to states over bytes, once for going forward through
a text and once for going backward.  A state takes 32 bytes, with 8 for each way out
of a state that decides by the next byte and 4 for each that is tried without one.
Neither of the two may be larger than `sizeLimit`.
-/
import RecordQuery.Regex.Plan
import RecordQuery.Text.Utf8

namespace RecordQuery.Regex

set_option autoImplicit false

/-- A compiled expression may not take more bytes than this. -/
def sizeLimit : Nat := 10485760

inductive Direction where
  | forward
  | backward
deriving DecidableEq

/-- The condition on a place where going in this direction through a text begins. -/
def Direction.origin : Direction → Look
  | .forward => .textStart
  | .backward => .textEnd

namespace Size

/-- A state that needs no list of ways out. -/
def state : Nat := 32

/-- A state with so many ways out by the next byte. -/
def byBytes (ways : Nat) : Nat := state + 8 * ways

/-- A state with so many ways out that are tried one after the other. -/
def byTrial (ways : Nat) : Nat := state + 4 * ways

/-! ## Sets -/

/-- The sequences of byte ranges of a set. -/
def sequences (s : CharSet) : List (List CodeRange) :=
  s.ranges.flatMap fun r => Text.utf8Ranges r.1 r.2

/-- What can follow each byte range that comes first, each in one list. -/
def followers (node : List (List CodeRange)) : List (List (List CodeRange)) :=
  (node.splitBy fun s t => s.head? == t.head?).map fun group => group.map (·.drop 1)

/-- The followers of some nodes that are not at the end of a character. -/
def innerFollowers (nodes : List (List (List CodeRange))) : List (List (List CodeRange)) :=
  ((nodes.flatMap followers).filter fun node => node.any (· ≠ [])).eraseDups

/-- The states of a set for going forward; equal ones are shared. -/
def setNodes (s : CharSet) : List (List (List CodeRange)) :=
  let first := [sequences s]
  let second := innerFollowers first
  let third := innerFollowers second
  let fourth := innerFollowers third
  (first ++ second ++ third ++ fourth).eraseDups

/-- How many byte ranges of a sequence are not at the beginning of the one before it. -/
def freshLength : List CodeRange → List CodeRange → Nat
  | r :: rs, s :: ss => if r = s then freshLength rs ss else ss.length + 1
  | [], ss => ss.length
  | _ :: _, [] => 0

/-- The states of a set for going backward, of which sequences with the same beginning share
those. -/
def freshLengths : List CodeRange → List (List CodeRange) → Nat
  | _, [] => 0
  | previous, s :: rest => freshLength previous s + freshLengths s rest

def setSize (direction : Direction) (s : CharSet) : Nat :=
  if !s.meets 0x80 CodeRange.lastCode then state + byBytes s.ranges.length
  else
    match direction with
    | .forward =>
      (setNodes s).foldl (fun size node => size + byBytes (followers node).length) state
    | .backward =>
      let seqs := sequences s
      state + byTrial seqs.length + state * freshLengths [] seqs

/-! ## Literals -/

/-- The bytes of a literal in the order in which they are met. -/
def literalBytes (direction : Direction) (text : List Char) : List Nat :=
  let bytes := text.flatMap fun c => Text.utf8 c.toNat
  match direction with
  | .forward => bytes
  | .backward => bytes.reverse

/-- Words that share their beginnings, between those that end here: a word that ends ends a list,
but where nothing has been begun the next one does not. -/
def betweenEnds (words : List (List Nat)) : List (List (List Nat)) :=
  match words.dropWhile (· == []) with
  | [] => [[]]
  | begun =>
    let lists := begun.splitOn []
    if words.head? == some [] then [] :: lists else lists

/-- The states that a choice between literals takes, without the last.  Words with the same
beginning share its states, unless a word that ends there stands between them. -/
def wordsSize : Nat → List (List Nat) → Nat
  | 0, _ => 0
  | fuel + 1, words =>
    let lists := betweenEnds words
    let begun := lists.filter (· ≠ [])
    if begun = [] then 0
    else
      byTrial (begun.length + (lists.length - 1)) +
        (begun.map fun list =>
          let heads := (list.filterMap List.head?).eraseDups
          (if heads.length = 1 then state else byBytes heads.length) +
            (heads.map fun head =>
              wordsSize fuel ((list.filter fun w => w.head? == some head).map (·.drop 1))).sum).sum

/-- The bytes of a choice of literals only. -/
def literalWords? (direction : Direction) (ps : List Plan) : Option (List (List Nat)) :=
  ps.mapM fun p =>
    match p with
    | .literal text => some (literalBytes direction text)
    | _ => none

end Size

namespace Plan

open Size

mutual

/-- The expression can match the empty text. -/
def mayBeEmpty : Plan → Bool
  | .literal _ => false
  | .set _ => false
  | .look _ => true
  | .captured p _ => mayBeEmpty p
  | .sequence ps => allMayBeEmpty ps
  | .choice ps => anyMayBeEmpty ps
  | .repeated p atLeast _ => atLeast == 0 || mayBeEmpty p

/-- All of the expressions can match the empty text. -/
def allMayBeEmpty : List Plan → Bool
  | [] => true
  | p :: rest => mayBeEmpty p && allMayBeEmpty rest

/-- One of the expressions can match the empty text. -/
def anyMayBeEmpty : List Plan → Bool
  | [] => false
  | p :: rest => mayBeEmpty p || anyMayBeEmpty rest

end

mutual

/-- The end of the text at which going one way begins is part of every match. -/
def isAnchored (direction : Direction) : Plan → Bool
  | .literal _ => false
  | .set _ => false
  | .look l => l == direction.origin
  | .captured p _ => isAnchored direction p
  | .sequence ps => isAnchoredAmong direction ps
  | .choice ps => allAnchored direction ps
  | .repeated p atLeast _ => 0 < atLeast && isAnchored direction p

/-- The part that is met first, or one with nothing to take before it, is anchored. -/
def isAnchoredAmong (direction : Direction) : List Plan → Bool
  | [] => false
  | p :: rest =>
    match direction with
    | .forward => isAnchored direction p || (takesNothing p && isAnchoredAmong direction rest)
    | .backward => isAnchoredAmong direction rest || (allTakeNothing rest && isAnchored direction p)

/-- All of the branches are anchored. -/
def allAnchored (direction : Direction) : List Plan → Bool
  | [] => true
  | p :: rest => isAnchored direction p && allAnchored direction rest

end

/-- The bytes of a repetition of what takes `size` bytes. -/
def repetitionSize (size : Nat) (empties : Bool) (atLeast : Nat) : Option Nat → Nat
  | none =>
    if atLeast = 0 then if empties then size + 2 * byTrial 2 + state else size + byTrial 2
    else atLeast * size + byTrial 2
  | some atMost =>
    let first := if atLeast = 0 then state else atLeast * size
    if atMost = atLeast then first
    else if atLeast = 0 ∧ atMost = 1 then size + byTrial 2 + state
    else first + state + (atMost - atLeast) * (byTrial 2 + size)

mutual

/-- The bytes that a form takes when compiled for going one way.  Groups capture only when going
forward. -/
def size (direction : Direction) : Plan → Nat
  | .literal text => state * (literalBytes direction text).length
  | .set s => setSize direction s
  | .look _ => state
  | .captured p _ => size direction p + if direction = .forward then 2 * state else 0
  | .sequence ps => if ps.isEmpty then state else sizes direction ps
  | .choice ps =>
    match literalWords? direction ps with
    | some words => state + wordsSize ((words.map List.length).foldl max 0 + 1) words
    | none => byTrial ps.length + state + sizes direction ps
  | .repeated p atLeast atMost => repetitionSize (size direction p) (mayBeEmpty p) atLeast atMost

/-- The bytes of several forms. -/
def sizes (direction : Direction) : List Plan → Nat
  | [] => 0
  | p :: rest => size direction p + sizes direction rest

end

/-- The bytes of the states that look for the beginning of a match, which an anchored expression
does without. -/
def searchSize (direction : Direction) (p : Plan) : Nat :=
  if isAnchored direction p then state else byTrial 2 + state + byBytes 1

/-- The bytes of a whole expression.  Going forward, the whole match is captured. -/
def wholeSize (direction : Direction) (p : Plan) : Nat :=
  searchSize direction p + size direction p +
    (if direction = .forward then 2 * state else 0) + state

end Plan

/-- The expression takes too much room when compiled. -/
def isTooLarge (r : Regex) : Bool :=
  let p := r.plan
  sizeLimit < p.wholeSize .forward || sizeLimit < p.wholeSize .backward

end RecordQuery.Regex
