/-
# RecordQuery.Proofs.ConditionText -- which conditions survive being written and read

Writing forgets what kind of literal a word came from and whether a list of one was
a list; reading gives back texts, and a list where a comma or the list operator asks
for one.  `Canonical` says of a condition, in terms of its own parts, that nothing
is forgotten, and `parse_eq_ok_iff_canonical` says that a condition can be read from
a text exactly if it is canonical and the text is the one it is written as.

The fragment of a condition (`fragment`) is what a writer puts down for it and what
a reader finds; `toCondition` and `fragment` undo each other on canonical conditions.
-/
import RecordQuery.Proofs.LongestKey

namespace RecordQuery

set_option autoImplicit false

namespace Operand

/-- The literals that an operand consists of. -/
def literals : Operand → List Literal
  | .one v => [v]
  | .many vs => vs

theorem literals_ne_nil {operand : Operand}
    (shape : (∃ v, operand = .one v) ∨ ∃ vs, operand = .many vs ∧ 2 ≤ vs.length) :
    operand.literals ≠ [] := by
  rcases shape with ⟨v, rfl⟩ | ⟨vs, rfl, several⟩
  · simp [literals]
  · rintro rfl
    simp at several

end Operand

namespace Condition

/-- The fragment that is written for a condition. -/
def fragment (c : Condition) : Fragment :=
  ⟨c.key.toList, c.operator, c.operand.literals.map fun v => v.render.toList⟩

theorem renderBody_toList (c : Condition) : c.renderBody.toList = c.fragment.text := by
  obtain ⟨connective, key, operator, operand⟩ := c
  cases operand with
  | one v => simp [renderBody, Operand.render, Operand.literals, fragment, Fragment.text]
  | many vs =>
      simp [renderBody, Operand.render, Operand.literals, fragment, Fragment.text,
        Function.comp_def]

/-- An unset connective is written like `and`. -/
theorem render_toList (c : Condition) :
    c.render.toList = (c.connective.getD .and).mark ++ c.fragment.text := by
  rw [← renderBody_toList]
  rcases shape : c.connective with _ | _ | _ <;> simp [render, isOr, shape, Connective.mark]

/-! ## Conditions that can be read -/

/-- A condition that consists of words, written out, and whose operand has a shape that text can
give it.  A test for null ignores its operand, so any that is not empty will do there. -/
structure Transmissible (c : Condition) : Prop where
  key : Text.isWord c.key.toList = true
  literals : ∀ v ∈ c.operand.literals, Text.isWord v.render.toList = true
  oneOf : c.operator = .oneOf →
    ∃ v vs, c.operand = .many (v :: vs) ∧ Text.NoInnerUnderscore v.render.toList
  isNull : c.operator = .isNull → c.operand.literals ≠ []
  other : c.operator ≠ .oneOf → c.operator ≠ .isNull →
    (∃ v, c.operand = .one v) ∨ ∃ vs, c.operand = .many vs ∧ 2 ≤ vs.length

/-- A condition that consists of words, of nothing but texts, and whose operand has the shape that
its text would give it. -/
structure Canonical (c : Condition) : Prop where
  key : Text.isWord c.key.toList = true
  literals : ∀ v ∈ c.operand.literals, ∃ s, v = .text s ∧ Text.isWord s.toList = true
  oneOf : c.operator = .oneOf →
    ∃ v vs, c.operand = .many (v :: vs) ∧ Text.NoInnerUnderscore v.render.toList
  other : c.operator ≠ .oneOf →
    (∃ v, c.operand = .one v) ∨ ∃ vs, c.operand = .many vs ∧ 2 ≤ vs.length

theorem Transmissible.literals_ne_nil {c : Condition} (transmissible : c.Transmissible) :
    c.operand.literals ≠ [] := by
  by_cases membership : c.operator = .oneOf
  · obtain ⟨v, vs, shape, -⟩ := transmissible.oneOf membership
    simp [shape, Operand.literals]
  · by_cases null : c.operator = .isNull
    · exact transmissible.isNull null
    · exact Operand.literals_ne_nil (transmissible.other membership null)

theorem Transmissible.wellFormed {c : Condition} (transmissible : c.Transmissible) :
    c.fragment.WellFormed := by
  refine ⟨transmissible.key, ?_, fun w member => ?_⟩
  · simpa [fragment] using transmissible.literals_ne_nil
  · obtain ⟨v, inOperand, rfl⟩ := List.mem_map.mp member
    exact transmissible.literals v inOperand

theorem Transmissible.greedy {c : Condition} (transmissible : c.Transmissible) :
    c.fragment.Greedy := by
  intro membership
  obtain ⟨v, vs, shape, tight⟩ := transmissible.oneOf membership
  simpa [fragment, shape, Operand.literals] using tight

theorem Canonical.transmissible {c : Condition} (canonical : c.Canonical) : c.Transmissible where
  key := canonical.key
  literals v member := by
    obtain ⟨s, rfl, isWord⟩ := canonical.literals v member
    exact isWord
  oneOf := canonical.oneOf
  isNull null := Operand.literals_ne_nil (canonical.other (by simp [null]))
  other membership _ := canonical.other membership

theorem Canonical.wellFormed {c : Condition} (canonical : c.Canonical) :
    c.fragment.WellFormed :=
  canonical.transmissible.wellFormed

theorem Canonical.greedy {c : Condition} (canonical : c.Canonical) : c.fragment.Greedy :=
  canonical.transmissible.greedy

/-- Being canonical is about the parts other than the connective. -/
theorem Canonical.connect {c : Condition} (canonical : c.Canonical)
    (connective : Option Connective) : Canonical { c with connective } :=
  ⟨canonical.key, canonical.literals, canonical.oneOf, canonical.other⟩

end Condition

namespace Fragment

/-- The words of the value as literals. -/
def texts (f : Fragment) : List Literal :=
  f.words.map fun w => .text (String.ofList w)

theorem operand_of_oneOf {f : Fragment} (membership : f.operator = .oneOf) :
    f.operand = .many f.texts := by
  obtain ⟨key, operator, words⟩ := f
  subst membership
  rfl

theorem operand_of_one {f : Fragment} (other : f.operator ≠ .oneOf) {word : List Char}
    (single : f.words = [word]) : f.operand = .one (.text (String.ofList word)) := by
  obtain ⟨key, operator, words⟩ := f
  subst single
  cases operator with
  | oneOf => exact absurd rfl other
  | _ => rfl

theorem operand_of_many {f : Fragment} (several : 2 ≤ f.words.length) :
    f.operand = .many f.texts := by
  obtain ⟨key, operator, words⟩ := f
  match words, several with
  | _ :: _ :: _, _ => cases operator <;> rfl

theorem literals_operand (f : Fragment) : f.operand.literals = f.texts := by
  by_cases membership : f.operator = .oneOf
  · rw [operand_of_oneOf membership, Operand.literals]
  · match shape : f.words with
    | [] => cases f; subst shape; rename_i operator; cases operator <;> rfl
    | [word] => rw [operand_of_one membership shape, texts, shape]; rfl
    | _ :: _ :: _ => rw [operand_of_many (by simp [shape]), Operand.literals]

end Fragment

namespace Condition

/-- Literals that are texts are what their written words are read as. -/
theorem texts_fragment {c : Condition}
    (texts : ∀ v ∈ c.operand.literals, ∃ s, v = .text s ∧ Text.isWord s.toList = true) :
    c.fragment.texts = c.operand.literals := by
  rw [Fragment.texts, fragment, List.map_map]
  refine (List.map_congr_left fun v member => ?_).trans (List.map_id _)
  obtain ⟨s, rfl, -⟩ := texts v member
  simp [Literal.render]

theorem Canonical.operand_eq {c : Condition} (canonical : c.Canonical) :
    c.fragment.operand = c.operand := by
  have same := texts_fragment canonical.literals
  by_cases membership : c.operator = .oneOf
  · obtain ⟨v, vs, shape, -⟩ := canonical.oneOf membership
    rw [Fragment.operand_of_oneOf membership, same, shape, Operand.literals]
  · rcases canonical.other membership with ⟨v, shape⟩ | ⟨vs, shape, several⟩
    · have single : c.fragment.words = [v.render.toList] := by
        simp [fragment, shape, Operand.literals]
      obtain ⟨s, rfl, -⟩ := canonical.literals v (by simp [shape, Operand.literals])
      rw [Fragment.operand_of_one membership single, shape]
      simp [Literal.render]
    · rw [Fragment.operand_of_many (by simpa [fragment, shape, Operand.literals] using several),
        same, shape, Operand.literals]

/-- A condition is canonical exactly if its fragment is one that is read, and is read as the
condition's own operand. -/
theorem canonical_iff {c : Condition} :
    c.Canonical ↔ c.fragment.WellFormed ∧ c.fragment.Greedy ∧ c.fragment.operand = c.operand := by
  constructor
  · exact fun canonical => ⟨canonical.wellFormed, canonical.greedy, canonical.operand_eq⟩
  · rintro ⟨valid, greedy, same⟩
    have nonempty : c.fragment.words ≠ [] := valid.2.1
    refine ⟨valid.1, ?_, ?_, ?_⟩
    · intro v member
      rw [← same, Fragment.literals_operand] at member
      obtain ⟨w, inWords, rfl⟩ := List.mem_map.mp member
      exact ⟨_, rfl, by simpa using valid.2.2 w inWords⟩
    · intro membership
      obtain ⟨word, more, shape⟩ := List.exists_cons_of_ne_nil nonempty
      rw [← same, Fragment.operand_of_oneOf membership, Fragment.texts, shape]
      refine ⟨_, _, rfl, ?_⟩
      simpa [Literal.render] using greedy membership word (by simp [shape])
    · intro other
      match shape : c.fragment.words with
      | [] => exact absurd shape nonempty
      | [word] => exact .inl ⟨_, by rw [← same, Fragment.operand_of_one other shape]⟩
      | _ :: _ :: _ =>
          have several : 2 ≤ c.fragment.words.length := by simp [shape]
          refine .inr ⟨_, by rw [← same, Fragment.operand_of_many several], ?_⟩
          simpa [Fragment.texts] using several

end Condition

/-! ## Reading what was written -/

namespace Fragment

/-- What is written for the condition that a fragment stands for is the fragment. -/
theorem fragment_toCondition (f : Fragment) (connective : Connective) :
    (f.toCondition connective).fragment = f := by
  have words : f.operand.literals.map (fun v => v.render.toList) = f.words := by
    rw [literals_operand, texts, List.map_map]
    exact (List.map_congr_left fun w _ => by simp [Literal.render]).trans (List.map_id _)
  simp [Condition.fragment, toCondition, words]

theorem canonical_toCondition {f : Fragment} (valid : f.WellFormed) (greedy : f.Greedy)
    (connective : Connective) : (f.toCondition connective).Canonical := by
  rw [Condition.canonical_iff, f.fragment_toCondition connective]
  exact ⟨valid, greedy, rfl⟩

end Fragment

namespace Condition

/-- **Reading accepts exactly what writing produces.** -/
theorem parse_eq_ok_iff_canonical {text : String} {c : Condition} :
    parse text = .ok c ↔ (c.Canonical ∧ c.connective ≠ none) ∧ c.render = text := by
  rw [parse_eq_ok_iff]
  constructor
  · rintro ⟨connective, f, ⟨valid, parts⟩, greedy, rfl⟩
    refine ⟨⟨f.canonical_toCondition valid greedy connective, by simp [Fragment.toCondition]⟩, ?_⟩
    rw [← String.toList_inj, render_toList, parts, f.fragment_toCondition connective]
    rfl
  · rintro ⟨⟨canonical, set⟩, rfl⟩
    obtain ⟨connective, shape⟩ := Option.ne_none_iff_exists'.mp set
    refine ⟨connective, c.fragment, ⟨canonical.wellFormed, ?_⟩, canonical.greedy, ?_⟩
    · rw [render_toList, shape]
      rfl
    · obtain ⟨_, key, operator, operand⟩ := c
      have same := canonical.operand_eq
      simp_all [Fragment.toCondition, fragment]

end Condition

end RecordQuery
