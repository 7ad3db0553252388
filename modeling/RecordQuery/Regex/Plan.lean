/-
# RecordQuery.Regex.Plan -- regular expressions in their simplest form

Before an expression is compiled, characters in a row become one literal, nested
sequences and alternatives become flat, alternatives that are single characters or
sets become one set, what all alternatives begin with is taken out of them, and
repetitions that change nothing are left out.  `Regex.plan` does all of this; the
places of a match do not change by it.
-/
import RecordQuery.Regex.Basic

namespace RecordQuery.Regex

set_option autoImplicit false

/-- A simple form.  A literal has at least one character; the empty expression is the sequence of
nothing. -/
inductive Plan where
  | literal (text : List Char)
  | set (s : CharSet)
  | look (l : Look)
  | captured (p : Plan) (place : Nat)
  | sequence (parts : List Plan)
  | choice (branches : List Plan)
  | repeated (p : Plan) (atLeast : Nat) (atMost : Option Nat)

namespace Plan

mutual

/-- The two forms are equal. -/
def same : Plan → Plan → Bool
  | .literal s, .literal t => s == t
  | .set s, .set t => s == t
  | .look l, .look m => l == m
  | .captured p a, .captured q b => a == b && same p q
  | .sequence ps, .sequence qs => allSame ps qs
  | .choice ps, .choice qs => allSame ps qs
  | .repeated p a b, .repeated q c d => a == c && b == d && same p q
  | _, _ => false

/-- The two lists have equal forms in the same order. -/
def allSame : List Plan → List Plan → Bool
  | [], [] => true
  | p :: ps, q :: qs => same p q && allSame ps qs
  | _, _ => false

end

def empty : Plan := .sequence []

/-- The only character of a set. -/
def onlyCharacter? (s : CharSet) : Option Char :=
  match s.ranges with
  | [(first, last)] => if first = last then some (Char.ofNat first) else none
  | _ => none

def ofSet (s : CharSet) : Plan :=
  match onlyCharacter? s with
  | some c => .literal [c]
  | none => .set s

/-- The parts of a sequence; anything else is its own only part. -/
def parts : Plan → List Plan
  | .sequence ps => ps
  | p => [p]

/-- The branches of a choice; anything else is its own only branch. -/
def branches : Plan → List Plan
  | .choice ps => ps
  | p => [p]

/-- Puts a part before others; two literals become one. -/
def putFirst (p : Plan) (rest : List Plan) : List Plan :=
  match p, rest with
  | .literal s, .literal t :: more => .literal (s ++ t) :: more
  | _, _ => p :: rest

/-- One part after the other. -/
def ofParts (ps : List Plan) : Plan :=
  match (ps.flatMap parts).foldr putFirst [] with
  | [p] => p
  | merged => .sequence merged

/-- The character of a literal of one character. -/
def character? : Plan → Option Char
  | .literal [c] => some c
  | _ => none

def set? : Plan → Option CharSet
  | .set s => some s
  | _ => none

/-- The set that some branches are together: all of them single characters, or all of them sets. -/
def unionOf? (ps : List Plan) : Option CharSet :=
  match ps.mapM character?, ps.mapM set? with
  | some cs, _ => some (.ofList cs)
  | none, some sets => some (.unionAll sets)
  | none, none => none

/-- How many parts in front two lists have in common. -/
def commonLength : List Plan → List Plan → Nat
  | p :: ps, q :: qs => if p.same q then commonLength ps qs + 1 else 0
  | _, _ => 0

/-- The parts of a sequence that has at least two. -/
def sequence? : Plan → Option (List Plan)
  | .sequence (p :: q :: rest) => some (p :: q :: rest)
  | .sequence _ => none
  | _ => none

/-- The parts with which all branches begin, and each branch without them. -/
def commonParts? (ps : List Plan) : Option (List Plan × List (List Plan)) :=
  match ps.mapM sequence? with
  | some (first :: rest) =>
    let n := rest.foldl (fun n parts => min n (commonLength first parts)) first.length
    if n = 0 then none else some (first.take n, (first :: rest).map (·.drop n))
  | _ => none

/-- One of some branches.  What they have in common is taken out in so many rounds at most. -/
def ofBranches : Nat → List Plan → Plan
  | _, [p] => p
  | rounds, ps =>
    let flat := ps.flatMap branches
    match unionOf? flat with
    | some s => ofSet s
    | none =>
      match rounds, commonParts? flat with
      | rounds + 1, some (common, rests) =>
        ofParts (common ++ [ofBranches rounds (rests.map ofParts)])
      | _, _ => .choice flat

mutual

/-- The expression matches the empty text only. -/
def takesNothing : Plan → Bool
  | .literal _ => false
  | .set _ => false
  | .look _ => true
  | .captured p _ => takesNothing p
  | .sequence ps => allTakeNothing ps
  | .choice ps => allTakeNothing ps
  | .repeated p _ _ => takesNothing p

/-- Each of the expressions matches the empty text only. -/
def allTakeNothing : List Plan → Bool
  | [] => true
  | p :: rest => takesNothing p && allTakeNothing rest

end

/-- A repetition.  What takes nothing is repeated once at most. -/
def ofRepetition (p : Plan) (atLeast : Nat) (atMost : Option Nat) : Plan :=
  let (atLeast, atMost) :=
    if takesNothing p then (min atLeast 1, some ((atMost.map (min 1)).getD 1)) else (atLeast, atMost)
  if atMost = some 0 then empty
  else if atLeast = 1 ∧ atMost = some 1 then p
  else .repeated p atLeast atMost

end Plan

/-- The alternatives of an expression, each as the parts that it is made of. -/
def alternatives : Regex → List (List Plan)
  | .empty => [[]]
  | .chars s => [[.ofSet s]]
  | .look l => [[.look l]]
  | .seq a b => [whole (alternatives a) ++ whole (alternatives b)]
  | .alt a b => alternatives a ++ alternatives b
  | .group r capturedAt =>
    let p := Plan.ofParts (whole (alternatives r))
    match capturedAt with
    | some place => [[.captured p place]]
    | none => [p.parts]
  | .repeated r atLeast atMost =>
    [(Plan.ofRepetition (Plan.ofParts (whole (alternatives r))) atLeast atMost).parts]
where
  /-- The parts of what has these alternatives. -/
  whole : List (List Plan) → List Plan
    | [ps] => ps
    | branches => (Plan.ofBranches 2 (branches.map Plan.ofParts)).parts

/-- The simplest form of an expression. -/
def plan (r : Regex) : Plan := .ofParts (alternatives.whole (alternatives r))

end RecordQuery.Regex
