/-
# RecordQuery.Regex.Basic -- regular expressions and where they match

An expression relates the places of a text, which are counted in characters: it
matches from one place to another.  `Regex.reach` sends a set of places to all
those that it matches up to from there; sets of places are increasing lists.  No
place is ever visited more often than the text has places, so that repetition ends
even where what is repeated matches nothing at all.  `Regex.occursIn` asks for a
match anywhere in a text.
-/
import RecordQuery.Regex.CharSet

namespace RecordQuery

set_option autoImplicit false

/-- How a place lies to the words next to it. -/
inductive WordEdge where
  | boundary
  | noBoundary
  | start
  | finish
  | notAfterWord
  | notBeforeWord
deriving DecidableEq

namespace WordEdge

/-- Decides by whether a word character stands before and after the place. -/
def holds : WordEdge → Bool → Bool → Bool
  | .boundary, before, after => before != after
  | .noBoundary, before, after => before == after
  | .start, before, after => !before && after
  | .finish, before, after => before && !after
  | .notAfterWord, before, _ => !before
  | .notBeforeWord, _, after => !after

end WordEdge

/-- A condition on a place that takes up no text. -/
inductive Look where
  | textStart
  | textEnd
  | lineStart
  | lineEnd
  | lineStartCrlf
  | lineEndCrlf
  | word (edge : WordEdge) (letters : CharSet)
deriving DecidableEq

namespace Look

/-- Decides by the characters before and after the place.  A carriage return and a line feed
together end one line. -/
def holds : Look → Option Char → Option Char → Bool
  | .textStart, before, _ => before.isNone
  | .textEnd, _, after => after.isNone
  | .lineStart, before, _ => before.all (· == '\n')
  | .lineEnd, _, after => after.all (· == '\n')
  | .lineStartCrlf, before, after =>
    before.all fun b => b == '\n' || (b == '\r' && after != some '\n')
  | .lineEndCrlf, before, after =>
    after.all fun a => a == '\r' || (a == '\n' && before != some '\r')
  | .word edge letters, before, after =>
    edge.holds (before.any letters.contains) (after.any letters.contains)

end Look

/-- A regular expression.  A group that captures what it matches has a place of its own. -/
inductive Regex where
  | empty
  | chars (s : CharSet)
  | look (l : Look)
  | seq (a b : Regex)
  | alt (a b : Regex)
  | group (r : Regex) (capturedAt : Option Nat)
  | repeated (r : Regex) (atLeast : Nat) (atMost : Option Nat)
deriving DecidableEq

namespace Regex

/-- Places of a text in increasing order. -/
abbrev Places := List Nat

namespace Places

def union (ps qs : Places) : Places := (ps.merge qs (· ≤ ·)).eraseReps

/-- Takes a step so many times, or until no place is left. -/
def advance (step : Places → Places) : Nat → Places → Places
  | 0, ps => ps
  | _ + 1, [] => []
  | n + 1, ps => advance step n (step ps)

/-- The places seen and those reached from the front in at most so many steps. -/
def spread (step : Places → Places) : Nat → Places → Places → Places
  | 0, seen, _ => seen
  | n + 1, seen, front =>
    match (step front).filter fun p => !seen.contains p with
    | [] => seen
    | fresh => spread step n (union seen fresh) fresh

end Places

/-- The character before a place. -/
def before (text : Array Char) (place : Nat) : Option Char :=
  if place = 0 then none else text[place - 1]?

/-- The places up to which the expression matches from one of the given places.  More rounds of a
repetition than the text has places change nothing. -/
def reach (text : Array Char) : Regex → Places → Places
  | .empty, ps => ps
  | .chars s, ps => (ps.filter fun p => text[p]?.any s.contains).map (· + 1)
  | .look l, ps => ps.filter fun p => l.holds (before text p) text[p]?
  | .seq a b, ps => reach text b (reach text a ps)
  | .alt a b, ps => Places.union (reach text a ps) (reach text b ps)
  | .group r _, ps => reach text r ps
  | .repeated r atLeast atMost, ps =>
    let rounds := text.size + 1
    let first := Places.advance (fun qs => reach text r qs) (min atLeast rounds) ps
    let more := match atMost with
      | some n => min (n - atLeast) rounds
      | none => rounds
    Places.spread (fun qs => reach text r qs) more first first

/-- The expression matches somewhere in the text. -/
def occursIn (r : Regex) (text : String) : Bool :=
  let chars := text.toList.toArray
  reach chars r (List.range (chars.size + 1)) != []

/-- Combines neighbours in a list. -/
def combinePairs (combine : Regex → Regex → Regex) : List Regex → List Regex
  | a :: b :: rest => combine a b :: combinePairs combine rest
  | rs => rs

/-- Combines the expressions of a list, in so many rounds at most, to a tree that is no deeper than
it has to be. -/
def combineAll (combine : Regex → Regex → Regex) : Nat → List Regex → Regex
  | _, [] => .empty
  | _, [r] => r
  | 0, rs => rs.foldr combine .empty
  | rounds + 1, rs => combineAll combine rounds (combinePairs combine rs)

/-- One expression after the other. -/
def concat (rs : List Regex) : Regex := combineAll .seq rs.length rs

/-- Any of some expressions. -/
def anyOf (rs : List Regex) : Regex := combineAll .alt rs.length rs

end Regex

end RecordQuery
