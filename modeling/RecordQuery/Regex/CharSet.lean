/-
# RecordQuery.Regex.CharSet -- sets of characters

What one step of a regular expression can match, as ranges of code points in
increasing order with gaps between them, so that equal sets are equal values.
Everything is made from `insert`, which adds a range, and `compl`, which leaves the
gaps; `mem_insertRange` and `mem_gaps` say what they do to the members.
-/
import RecordQuery.Text.Blank
import RecordQuery.Text.CaseFold

namespace RecordQuery

set_option autoImplicit false

/-- A code point and a later one, or the same. -/
abbrev CodeRange := Nat × Nat

namespace CodeRange

/-- The last code point of all. -/
def lastCode : Nat := 0x10FFFF

/-- The ranges are in increasing order, with gaps between them, and begin at `low` or later. -/
def Apart (low : Nat) : List CodeRange → Prop
  | [] => True
  | (first, last) :: rest => low ≤ first ∧ first ≤ last ∧ Apart (last + 2) rest

/-- The code point is in one of the ranges. -/
def Mem (code : Nat) (rs : List CodeRange) : Prop :=
  ∃ r ∈ rs, r.1 ≤ code ∧ code ≤ r.2

/-- Adds a range, which takes in those that it meets or touches. -/
def insertRange (first last : Nat) : List CodeRange → List CodeRange
  | [] => [(first, last)]
  | (a, b) :: rest =>
    if last + 1 < a then (first, last) :: (a, b) :: rest
    else if b + 1 < first then (a, b) :: insertRange first last rest
    else insertRange (min first a) (max last b) rest

/-- The ranges between those of a list from the code point `next` on. -/
def gaps (next : Nat) : List CodeRange → List CodeRange
  | [] => if next ≤ lastCode then [(next, lastCode)] else []
  | (first, last) :: rest =>
    if next < first then (next, first - 1) :: gaps (last + 1) rest else gaps (last + 1) rest

theorem Apart.mono {low low' : Nat} {rs : List CodeRange} (h : Apart low rs) (h' : low' ≤ low) :
    Apart low' rs := by
  cases rs with
  | nil => trivial
  | cons r rest => exact ⟨Nat.le_trans h' h.1, h.2⟩

theorem Apart.insertRange {first last low : Nat} {rs : List CodeRange} (h : Apart low rs)
    (hlow : low ≤ first) (hrange : first ≤ last) : Apart low (insertRange first last rs) := by
  induction rs generalizing first last low with
  | nil => exact ⟨hlow, hrange, trivial⟩
  | cons r rest ih =>
    obtain ⟨a, b⟩ := r
    obtain ⟨ha, hab, hrest⟩ := h
    simp only [CodeRange.insertRange]
    split
    · exact ⟨hlow, hrange, by omega, hab, hrest⟩
    · split
      · exact ⟨ha, hab, ih hrest (by omega) hrange⟩
      · exact ih (hrest.mono (by omega)) (by omega) (by omega)

theorem Apart.gaps {next low : Nat} {rs : List CodeRange} (h : Apart next rs) (hlow : low ≤ next) :
    Apart low (gaps next rs) := by
  induction rs generalizing next low with
  | nil =>
    simp only [CodeRange.gaps]
    split
    · exact ⟨hlow, by assumption, trivial⟩
    · trivial
  | cons r rest ih =>
    obtain ⟨first, last⟩ := r
    obtain ⟨hfirst, hrange, hrest⟩ := h
    simp only [CodeRange.gaps]
    split
    · exact ⟨hlow, by omega, ih (hrest.mono (by omega)) (by omega)⟩
    · exact ih (hrest.mono (by omega)) (by omega)

theorem mem_cons {code : Nat} {r : CodeRange} {rs : List CodeRange} :
    Mem code (r :: rs) ↔ (r.1 ≤ code ∧ code ≤ r.2) ∨ Mem code rs := by
  simp [Mem]

theorem mem_insertRange {code first last : Nat} {rs : List CodeRange} (hrange : first ≤ last)
    (h : ∀ r ∈ rs, r.1 ≤ r.2) :
    Mem code (insertRange first last rs) ↔ (first ≤ code ∧ code ≤ last) ∨ Mem code rs := by
  induction rs generalizing first last with
  | nil => simp [insertRange, Mem]
  | cons r rest ih =>
    obtain ⟨a, b⟩ := r
    have hab : a ≤ b := h (a, b) (by simp)
    have hrest : ∀ r ∈ rest, r.1 ≤ r.2 := fun r hr => h r (by simp [hr])
    simp only [insertRange]
    split
    · rw [mem_cons]
    · split
      · rw [mem_cons, mem_cons, ih hrange hrest]
        exact or_left_comm
      · rw [ih (by omega) hrest, mem_cons, ← or_assoc]
        refine or_congr_left ?_
        dsimp only
        omega

theorem Apart.le {code low : Nat} {rs : List CodeRange} (h : Apart low rs) (hmem : Mem code rs) :
    low ≤ code := by
  induction rs generalizing low with
  | nil => simp [Mem] at hmem
  | cons r rest ih =>
    obtain ⟨first, last⟩ := r
    obtain ⟨hfirst, hrange, hrest⟩ := h
    rcases mem_cons.mp hmem with h | h
    · exact Nat.le_trans hfirst h.1
    · exact Nat.le_trans (by omega) (ih hrest h)

theorem Apart.valid {low : Nat} {rs : List CodeRange} (h : Apart low rs) :
    ∀ r ∈ rs, r.1 ≤ r.2 := by
  induction rs generalizing low with
  | nil => simp
  | cons r rest ih =>
    intro s hs
    rcases List.mem_cons.mp hs with rfl | hs
    · exact h.2.1
    · exact ih h.2.2 s hs

theorem mem_gaps {code next : Nat} {rs : List CodeRange} (h : Apart next rs)
    (hcode : code ≤ lastCode) : Mem code (gaps next rs) ↔ next ≤ code ∧ ¬ Mem code rs := by
  induction rs generalizing next with
  | nil =>
    simp only [gaps]
    split
    · simp [Mem, hcode]
    · simp only [Mem, List.not_mem_nil, false_and, exists_false, not_false_eq_true, and_true,
        false_iff]
      omega
  | cons r rest ih =>
    obtain ⟨first, last⟩ := r
    obtain ⟨hfirst, hrange, hrest⟩ := h
    have hlater : Mem code rest → last + 2 ≤ code := hrest.le
    simp only [gaps]
    split
    · rw [mem_cons, mem_cons, ih (hrest.mono (by omega))]
      dsimp only
      constructor
      · rintro (h | ⟨h, hnot⟩)
        · exact ⟨h.1, fun | .inl h' => by omega | .inr h' => by have := hlater h'; omega⟩
        · exact ⟨by omega, fun | .inl h' => by omega | .inr h' => hnot h'⟩
      · rintro ⟨h, hnot⟩
        by_cases hlast : code ≤ last
        · exact .inl ⟨h, by have := fun h' => hnot (.inl ⟨h', hlast⟩); omega⟩
        · exact .inr ⟨by omega, fun h' => hnot (.inr h')⟩
    · rw [mem_cons, ih (hrest.mono (by omega))]
      dsimp only
      constructor
      · rintro ⟨h, hnot⟩
        exact ⟨by omega, fun | .inl h' => by omega | .inr h' => hnot h'⟩
      · rintro ⟨h, hnot⟩
        refine ⟨?_, fun h' => hnot (.inr h')⟩
        have := fun h' => hnot (.inl ⟨Nat.le_trans (by omega) h, h'⟩)
        omega

end CodeRange

open CodeRange (Apart)

structure CharSet where
  ranges : List CodeRange
  apart : Apart 0 ranges
deriving DecidableEq

namespace CharSet

/-- The code point is in the set. -/
def hasCode (s : CharSet) (code : Nat) : Bool :=
  s.ranges.any fun r => r.1 ≤ code && code ≤ r.2

def contains (s : CharSet) (c : Char) : Bool := s.hasCode c.toNat

/-- The set has a code point between these two, which count as well. -/
def meets (s : CharSet) (first last : Nat) : Bool :=
  s.ranges.any fun r => r.1 ≤ last && first ≤ r.2

def none : CharSet := ⟨[], trivial⟩

/-- Adds a range; one that ends before it begins adds nothing. -/
def insert (s : CharSet) (r : CodeRange) : CharSet :=
  if h : r.1 ≤ r.2 then
    ⟨CodeRange.insertRange r.1 r.2 s.ranges, s.apart.insertRange (Nat.zero_le _) h⟩
  else s

def ofRanges (rs : List CodeRange) : CharSet := rs.foldr (fun r s => s.insert r) none

def compl (s : CharSet) : CharSet := ⟨CodeRange.gaps 0 s.ranges, s.apart.gaps (Nat.zero_le _)⟩

def union (a b : CharSet) : CharSet := a.ranges.foldr (fun r s => s.insert r) b

def inter (a b : CharSet) : CharSet := (a.compl.union b.compl).compl

/-- What is in the first set and not in the second. -/
def diff (a b : CharSet) : CharSet := a.inter b.compl

/-- What is in exactly one of the sets. -/
def symmDiff (a b : CharSet) : CharSet := (a.diff b).union (b.diff a)

/-- The complement if asked for. -/
def complIf (negated : Bool) (s : CharSet) : CharSet := if negated then s.compl else s

def unionAll (sets : List CharSet) : CharSet := sets.foldr union none

def ofCodes (codes : List Nat) : CharSet := ofRanges (codes.map fun code => (code, code))

def single (c : Char) : CharSet := ofCodes [c.toNat]

/-- The characters of a list. -/
def ofList (cs : List Char) : CharSet := ofCodes (cs.map Char.toNat)

/-- With what the characters of the set fold to when case is disregarded. -/
def withFolded (s : CharSet) : CharSet :=
  s.union (ofCodes (Text.caseSteps.flatMap fun step =>
    if s.meets step.first step.last then (step.codes.filter s.hasCode).map step.target else []))

/-- With what folds to a character of the set when case is disregarded. -/
def withUnfolded (s : CharSet) : CharSet :=
  s.union (ofCodes (Text.caseSteps.flatMap fun step =>
    if s.meets (step.target step.first) (step.target step.last) then
      step.codes.filter fun code => s.hasCode (step.target code)
    else []))

/-- With all characters that differ from one of the set only in case. -/
def anyCase (s : CharSet) : CharSet := s.withFolded.withUnfolded

/-! ## Sets with a name -/

def all : CharSet := none.compl

/-- All characters but line feeds. -/
def notLineFeed : CharSet := (single '\n').compl

/-- All characters but line feeds and carriage returns. -/
def notLineEnd : CharSet := (ofList ['\n', '\r']).compl

def blank : CharSet := ofRanges Text.blankRanges

def ascii : CharSet := ofRanges [(0, 0x7F)]

def asciiDigit : CharSet := ofRanges [(0x30, 0x39)]

def asciiBlank : CharSet := ofRanges [(0x9, 0xD), (0x20, 0x20)]

def asciiWord : CharSet := ofRanges [(0x30, 0x39), (0x41, 0x5A), (0x5F, 0x5F), (0x61, 0x7A)]

/-- The sets of ASCII characters that have a name. -/
def ofName? : String → Option CharSet
  | "alnum" => some (ofRanges [(0x30, 0x39), (0x41, 0x5A), (0x61, 0x7A)])
  | "alpha" => some (ofRanges [(0x41, 0x5A), (0x61, 0x7A)])
  | "ascii" => some ascii
  | "blank" => some (ofRanges [(0x9, 0x9), (0x20, 0x20)])
  | "cntrl" => some (ofRanges [(0x0, 0x1F), (0x7F, 0x7F)])
  | "digit" => some asciiDigit
  | "graph" => some (ofRanges [(0x21, 0x7E)])
  | "lower" => some (ofRanges [(0x61, 0x7A)])
  | "print" => some (ofRanges [(0x20, 0x7E)])
  | "punct" => some (ofRanges [(0x21, 0x2F), (0x3A, 0x40), (0x5B, 0x60), (0x7B, 0x7E)])
  | "space" => some asciiBlank
  | "upper" => some (ofRanges [(0x41, 0x5A)])
  | "word" => some asciiWord
  | "xdigit" => some (ofRanges [(0x30, 0x39), (0x41, 0x46), (0x61, 0x66)])
  | _ => Option.none

/-! ## Membership -/

theorem hasCode_iff {s : CharSet} {code : Nat} :
    s.hasCode code = true ↔ CodeRange.Mem code s.ranges := by
  simp [hasCode, CodeRange.Mem]

theorem hasCode_insert (s : CharSet) (r : CodeRange) (code : Nat) :
    (s.insert r).hasCode code = ((r.1 ≤ code && code ≤ r.2) || s.hasCode code) := by
  rw [Bool.eq_iff_iff]
  unfold insert
  split
  · next h => simp [hasCode_iff, CodeRange.mem_insertRange h s.apart.valid]
  · simp only [Bool.or_eq_true, Bool.and_eq_true, decide_eq_true_eq]
    exact ⟨.inr, fun | .inl h => by omega | .inr h => h⟩

theorem hasCode_foldr_insert (s : CharSet) (rs : List CodeRange) (code : Nat) :
    (rs.foldr (fun r s => s.insert r) s).hasCode code =
      (rs.any (fun r => r.1 ≤ code && code ≤ r.2) || s.hasCode code) := by
  induction rs with
  | nil => rfl
  | cons r rest ih => rw [List.foldr_cons, hasCode_insert, ih, List.any_cons, Bool.or_assoc]

theorem hasCode_ofRanges (rs : List CodeRange) (code : Nat) :
    (ofRanges rs).hasCode code = rs.any fun r => r.1 ≤ code && code ≤ r.2 := by
  rw [ofRanges, hasCode_foldr_insert]
  exact Bool.or_false _

theorem hasCode_union (a b : CharSet) (code : Nat) :
    (a.union b).hasCode code = (a.hasCode code || b.hasCode code) :=
  hasCode_foldr_insert b a.ranges code

theorem hasCode_compl (s : CharSet) {code : Nat} (h : code ≤ CodeRange.lastCode) :
    s.compl.hasCode code = !s.hasCode code := by
  rw [Bool.eq_iff_iff, hasCode_iff, Bool.not_eq_true', ← Bool.not_eq_true, hasCode_iff, compl,
    CodeRange.mem_gaps s.apart h]
  simp

theorem toNat_le_lastCode (c : Char) : c.toNat ≤ CodeRange.lastCode := by
  have h := c.valid
  simp only [UInt32.isValidChar, Nat.isValidChar] at h
  unfold CodeRange.lastCode Char.toNat
  omega

theorem contains_union (a b : CharSet) (c : Char) :
    (a.union b).contains c = (a.contains c || b.contains c) :=
  hasCode_union a b c.toNat

theorem contains_compl (s : CharSet) (c : Char) : s.compl.contains c = !s.contains c :=
  hasCode_compl s (toNat_le_lastCode c)

theorem contains_inter (a b : CharSet) (c : Char) :
    (a.inter b).contains c = (a.contains c && b.contains c) := by
  simp only [inter, contains_compl, contains_union, Bool.not_or, Bool.not_not]

theorem contains_diff (a b : CharSet) (c : Char) :
    (a.diff b).contains c = (a.contains c && !b.contains c) := by
  rw [diff, contains_inter, contains_compl]

theorem contains_symmDiff (a b : CharSet) (c : Char) :
    (a.symmDiff b).contains c = (a.contains c ^^ b.contains c) := by
  rw [symmDiff, contains_union, contains_diff, contains_diff]
  cases a.contains c <;> cases b.contains c <;> rfl

end CharSet

end RecordQuery
