/-
# RecordQuery.Proofs.Traversal -- lists read item by item, up to the first error

`List.mapM` over `Except` is how queries are read and filters are made.  It
succeeds exactly if every item does (`mapM_eq_ok_iff`), and fails exactly as the
first item that fails (`FirstError`, `mapM_eq_error_iff`).  Two traversals whose
items agree in order agree as a whole, error for error (`Agree.mapM`,
`Agree.mapM_map`), and one whose items may fail where those of the other do not
differs from it by such a failure only (`Stricter.mapM`).
-/
import Mathlib.Data.List.Forall2

namespace RecordQuery

set_option autoImplicit false

universe u

variable {ε α β γ δ : Type u}

theorem bind_eq_ok_iff {x : Except ε α} {next : α → Except ε β} {b : β} :
    x >>= next = .ok b ↔ ∃ a, x = .ok a ∧ next a = .ok b := by
  cases x <;> simp [bind, Except.bind]

theorem mapM_eq_ok_iff {f : α → Except ε β} {xs : List α} {ys : List β} :
    xs.mapM f = .ok ys ↔ List.Forall₂ (fun x y => f x = .ok y) xs ys := by
  induction xs generalizing ys with
  | nil => cases ys <;> simp [pure, Except.pure]
  | cons x xs ih =>
      rw [List.mapM_cons, List.forall₂_cons_left_iff, bind_eq_ok_iff]
      constructor
      · rintro ⟨y, first, rest⟩
        obtain ⟨ys', others, same⟩ := bind_eq_ok_iff.mp rest
        cases same
        exact ⟨y, ys', first, ih.mp others, rfl⟩
      · rintro ⟨y, ys', first, others, rfl⟩
        exact ⟨y, first, bind_eq_ok_iff.mpr ⟨ys', ih.mpr others, rfl⟩⟩

/-- A reader that accepts exactly what a writer writes reads a list back item by item. -/
theorem mapM_eq_ok_iff_of_inverse {read : α → Except ε β} {write : β → α} {valid : β → Prop}
    (inverse : ∀ x y, read x = .ok y ↔ valid y ∧ write y = x) {xs : List α} {ys : List β} :
    xs.mapM read = .ok ys ↔ (∀ y ∈ ys, valid y) ∧ ys.map write = xs := by
  simp only [mapM_eq_ok_iff, inverse]
  induction ys generalizing xs with
  | nil => simp
  | cons y ys ih =>
      cases xs with
      | nil => simp
      | cons x xs =>
          rw [List.forall₂_cons, ih]
          simp only [List.forall_mem_cons, List.map_cons, List.cons.injEq]
          tauto

theorem mapM_eq_ok_map {f : α → Except ε β} {g : α → β} {xs : List α}
    (each : ∀ x ∈ xs, f x = .ok (g x)) : xs.mapM f = .ok (xs.map g) := by
  rw [mapM_eq_ok_iff, List.forall₂_map_right_iff, List.forall₂_same]
  exact each

/-- Lists whose items are traversed with the same outcomes have the same outcome. -/
theorem mapM_eq_mapM_of_forall₂ {f : α → Except ε γ} {g : β → Except ε γ} {xs : List α}
    {ys : List β} (same : List.Forall₂ (fun x y => f x = g y) xs ys) : xs.mapM f = ys.mapM g := by
  induction same with
  | nil => rfl
  | cons first _ ih => rw [List.mapM_cons, List.mapM_cons, first, ih]

/-! ## Lists taken apart at an item -/

section Split

variable {P : α → Prop} {Q : α → List α → Prop}

theorem not_exists_split_nil :
    ¬ ∃ front x back, [] = front ++ x :: back ∧ (∀ y ∈ front, P y) ∧ Q x back := by
  rintro ⟨front, x, back, shape, -⟩
  simp at shape

/-- A list comes apart at its first item, or at a later one if the first may stand in front. -/
theorem exists_split_cons {x : α} {xs : List α} :
    (∃ front y back, x :: xs = front ++ y :: back ∧ (∀ z ∈ front, P z) ∧ Q y back) ↔
      Q x xs ∨ P x ∧ ∃ front y back, xs = front ++ y :: back ∧ (∀ z ∈ front, P z) ∧ Q y back := by
  constructor
  · rintro ⟨front, y, back, shape, before, found⟩
    cases front with
    | nil =>
        cases shape
        exact .inl found
    | cons z front =>
        cases shape
        obtain ⟨first, others⟩ := List.forall_mem_cons.mp before
        exact .inr ⟨first, front, y, back, rfl, others, found⟩
  · rintro (found | ⟨first, front, y, back, rfl, before, found⟩)
    · exact ⟨[], x, xs, rfl, by simp, found⟩
    · exact ⟨x :: front, y, back, rfl, List.forall_mem_cons.mpr ⟨first, before⟩, found⟩

end Split

/-! ## The first error -/

theorem bind_eq_error_iff {x : Except ε α} {next : α → Except ε β} {e : ε} :
    x >>= next = .error e ↔ x = .error e ∨ ∃ a, x = .ok a ∧ next a = .error e := by
  cases x <;> simp [bind, Except.bind]

/-- What is made of a result does not add to the errors. -/
theorem bind_pure_eq_error_iff {x : Except ε α} {f : α → β} {e : ε} :
    (x >>= fun a => pure (f a)) = .error e ↔ x = .error e := by
  cases x <;> simp [bind, Except.bind, pure, Except.pure]

/-- Some item fails with the error, and every item before it succeeds. -/
def FirstError (f : α → Except ε β) (xs : List α) (e : ε) : Prop :=
  ∃ front x back, xs = front ++ x :: back ∧ (∀ y ∈ front, ∃ b, f y = .ok b) ∧ f x = .error e

theorem not_firstError_nil {f : α → Except ε β} {e : ε} : ¬ FirstError f [] e :=
  not_exists_split_nil

theorem firstError_cons {f : α → Except ε β} {x : α} {xs : List α} {e : ε} :
    FirstError f (x :: xs) e ↔ f x = .error e ∨ (∃ b, f x = .ok b) ∧ FirstError f xs e :=
  exists_split_cons

/-- **A traversal fails exactly as its first item that fails.** -/
theorem mapM_eq_error_iff {f : α → Except ε β} {xs : List α} {e : ε} :
    xs.mapM f = .error e ↔ FirstError f xs e := by
  induction xs with
  | nil => simp [not_firstError_nil, pure, Except.pure]
  | cons x xs ih =>
      rw [List.mapM_cons, firstError_cons, bind_eq_error_iff]
      refine or_congr_right ⟨?_, ?_⟩
      · rintro ⟨b, first, rest⟩
        rcases bind_eq_error_iff.mp rest with later | ⟨bs, -, impossible⟩
        · exact ⟨⟨b, first⟩, ih.mp later⟩
        · cases impossible
      · rintro ⟨⟨b, first⟩, later⟩
        exact ⟨b, first, bind_eq_error_iff.mpr (.inl (ih.mpr later))⟩

/-- Either every item succeeds or there is a first error. -/
theorem forall_ok_or_firstError (f : α → Except ε β) (xs : List α) :
    (∀ x ∈ xs, ∃ b, f x = .ok b) ∨ ∃ e, FirstError f xs e := by
  induction xs with
  | nil => exact .inl (by simp)
  | cons x xs ih =>
      simp only [firstError_cons, List.forall_mem_cons]
      cases outcome : f x with
      | error e => exact .inr ⟨e, .inl rfl⟩
      | ok b =>
          rcases ih with others | ⟨e, later⟩
          · exact .inl ⟨⟨b, rfl⟩, others⟩
          · exact .inr ⟨e, .inr ⟨⟨b, rfl⟩, later⟩⟩

theorem FirstError.not_forall_ok {f : α → Except ε β} {xs : List α} {e : ε}
    (first : FirstError f xs e) : ¬ ∀ x ∈ xs, ∃ b, f x = .ok b := by
  obtain ⟨front, x, back, rfl, -, failed⟩ := first
  intro all
  obtain ⟨b, succeeded⟩ := all x (by simp)
  rw [failed] at succeeded
  cases succeeded

theorem exists_mapM_eq_ok_iff {f : α → Except ε β} {xs : List α} :
    (∃ ys, xs.mapM f = .ok ys) ↔ ∀ x ∈ xs, ∃ b, f x = .ok b := by
  constructor
  · rintro ⟨ys, succeeded⟩
    refine (forall_ok_or_firstError f xs).resolve_right ?_
    rintro ⟨e, first⟩
    rw [mapM_eq_error_iff.mpr first] at succeeded
    cases succeeded
  · intro all
    cases outcome : xs.mapM f with
    | ok ys => exact ⟨ys, rfl⟩
    | error e => exact absurd all (mapM_eq_error_iff.mp outcome).not_forall_ok

theorem exists_firstError {f : α → Except ε β} {xs : List α}
    (fails : ∃ x ∈ xs, ∃ e, f x = .error e) : ∃ e, FirstError f xs e := by
  obtain ⟨x, member, e, failed⟩ := fails
  refine (forall_ok_or_firstError f xs).resolve_left fun all => ?_
  obtain ⟨b, succeeded⟩ := all x member
  rw [failed] at succeeded
  cases succeeded

/-! ## Two outcomes that agree -/

/-- Both fail with one error, or both succeed with related results. -/
inductive Agree (R : α → β → Prop) : Except ε α → Except ε β → Prop
  | ok {a : α} {b : β} (related : R a b) : Agree R (.ok a) (.ok b)
  | error (e : ε) : Agree R (.error e) (.error e)

namespace Agree

variable {R : α → β → Prop} {S : γ → δ → Prop}

theorem bind {x : Except ε α} {y : Except ε β} {f : α → Except ε γ} {g : β → Except ε δ}
    (first : Agree R x y) (next : ∀ a b, R a b → Agree S (f a) (g b)) :
    Agree S (x >>= f) (y >>= g) := by
  cases first with
  | ok related => exact next _ _ related
  | error e => exact .error e

theorem error_iff {x : Except ε α} {y : Except ε β} (agree : Agree R x y) (e : ε) :
    x = .error e ↔ y = .error e := by
  cases agree <;> simp

theorem imp {x : Except ε α} {y : Except ε β} {T : α → β → Prop} (agree : Agree R x y)
    (weaker : ∀ a b, R a b → T a b) : Agree T x y := by
  cases agree with
  | ok related => exact .ok (weaker _ _ related)
  | error e => exact .error e

/-- Agreement on nothing but the errors. -/
theorem of_error_iff {x : Except ε α} {y : Except ε β} (same : ∀ e, x = .error e ↔ y = .error e) :
    Agree (fun _ _ => True) x y := by
  cases x with
  | error e =>
      rw [(same e).mp rfl]
      exact .error e
  | ok a =>
      cases y with
      | error e => exact absurd ((same e).mpr rfl) (by simp)
      | ok b => exact .ok trivial

/-- Where two traversals of a list agree at every item, they agree. -/
theorem mapM {f : γ → Except ε α} {g : γ → Except ε β} {xs : List γ}
    (items : ∀ x ∈ xs, Agree R (f x) (g x)) :
    Agree (List.Forall₂ R) (xs.mapM f) (xs.mapM g) := by
  induction xs with
  | nil => exact .ok .nil
  | cons x xs ih =>
      obtain ⟨first, others⟩ := List.forall_mem_cons.mp items
      rw [List.mapM_cons, List.mapM_cons]
      exact first.bind fun a b relatedHead => (ih others).bind fun as bs relatedTail =>
        .ok (.cons relatedHead relatedTail)

/-- Where every item of a list agrees with the item it is made into, so do the two lists. -/
theorem mapM_map {f : γ → Except ε α} {g : δ → Except ε β} {into : δ → γ} {h : β → α}
    {xs : List δ} (items : ∀ x ∈ xs, Agree (fun a b => a = h b) (f (into x)) (g x)) :
    Agree (fun as bs => as = bs.map h) ((xs.map into).mapM f) (xs.mapM g) := by
  rw [List.mapM_map]
  refine (Agree.mapM items).imp fun as bs related => ?_
  rwa [← List.forall₂_eq_eq_eq, List.forall₂_map_right_iff]

end Agree

/-- The first error is the same for two functions that fail alike. -/
theorem firstError_congr {f : α → Except ε β} {g : α → Except ε γ} {xs : List α} {e : ε}
    (items : ∀ x ∈ xs, ∀ e, f x = .error e ↔ g x = .error e) :
    FirstError f xs e ↔ FirstError g xs e := by
  rw [← mapM_eq_error_iff, ← mapM_eq_error_iff]
  exact (Agree.mapM fun x member => .of_error_iff (items x member)).error_iff e

/-! ## Outcomes that fail more often -/

/-- The first outcome is the second, unless it is a failure of a kind that is allowed. -/
inductive Stricter (P : ε → Prop) : Except ε α → Except ε α → Prop
  | same (x : Except ε α) : Stricter P x x
  | fails {e : ε} (allowed : P e) (y : Except ε α) : Stricter P (.error e) y

namespace Stricter

variable {P : ε → Prop}

theorem bind {x y : Except ε α} {f g : α → Except ε β} (first : Stricter P x y)
    (next : ∀ a, Stricter P (f a) (g a)) : Stricter P (x >>= f) (y >>= g) := by
  cases first with
  | fails allowed y => exact .fails allowed _
  | same x =>
      cases x with
      | error e => exact .same _
      | ok a => exact next a

/-- A traversal is stricter where every item is. -/
theorem mapM {f g : α → Except ε β} {xs : List α} (items : ∀ x ∈ xs, Stricter P (f x) (g x)) :
    Stricter P (xs.mapM f) (xs.mapM g) := by
  induction xs with
  | nil => exact .same _
  | cons x xs ih =>
      obtain ⟨first, others⟩ := List.forall_mem_cons.mp items
      rw [List.mapM_cons, List.mapM_cons]
      exact first.bind fun b => (ih others).bind fun bs => .same _

theorem imp {Q : ε → Prop} {x y : Except ε α} (stricter : Stricter P x y)
    (weaker : ∀ e, P e → Q e) : Stricter Q x y := by
  cases stricter with
  | same x => exact .same x
  | fails allowed y => exact .fails (weaker _ allowed) y

/-- What the stricter one gives, the other one gives as well. -/
theorem eq_ok {x y : Except ε α} {a : α} (stricter : Stricter P x y) (given : x = .ok a) :
    y = .ok a := by
  cases stricter with
  | same x => exact given
  | fails allowed y => cases given

theorem exists_error {x y : Except ε α} (stricter : Stricter P x y) (differ : x ≠ y) :
    ∃ e, P e ∧ x = .error e := by
  cases stricter with
  | same x => exact absurd rfl differ
  | fails allowed y => exact ⟨_, allowed, rfl⟩

end Stricter

end RecordQuery
