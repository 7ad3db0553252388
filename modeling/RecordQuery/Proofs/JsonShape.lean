/-
# RecordQuery.Proofs.JsonShape -- what the values that are read look like

The reader does not make every value there is.  It nests arrays and objects no deeper than it is
allowed to, keeps the names of an object in order and each of them once, and gives a whole
number its unsigned form only if that is the only one.  `JsonValue.Regular` says this of a value
and everything inside it, and `regular_of_read` that it is so of all that are read.

`Yields r P` is what carries it through the reader: whatever `r` reads has the property `P`,
wherever it starts.  There is one lemma for each loop, by induction on the number that bounds
it, with the invariant that what has been read so far has the property.
-/
import RecordQuery.Proofs.JsonText

namespace RecordQuery

set_option autoImplicit false

/-! ## The shape of a value -/

/-- A number is unsigned only if it is too large for the signed form. -/
def Number.SignedFirst : Number → Prop
  | .unsigned n => Int64.maxValue.toInt < n.toNat
  | .signed _ | .binary _ => True

/-- A value as it is read where arrays and objects may be nested so deep. -/
def JsonValue.Regular : Nat → JsonValue → Prop
  | _, .null | _, .bool _ | _, .text _ => True
  | _, .number n => n.SignedFirst
  | 0, .array _ | 0, .object _ => False
  | depth + 1, .array items => ∀ v ∈ items, Regular depth v
  | depth + 1, .object entries =>
    JsonObject.InOrder entries ∧ ∀ e ∈ entries, Regular depth e.2

namespace JsonNumber

theorem appendDigits_lt (n : Nat) (digits : List Char) (small : n < UInt64.size) :
    (appendDigits n digits).1 < UInt64.size := by
  induction digits generalizing n with
  | nil => exact small
  | cons c digits ih =>
      rw [appendDigits]
      split
      · rename_i next
        exact ih _ next
      · exact small

theorem ofWhole_signedFirst (negative : Bool) {n : Nat} (small : n < UInt64.size) :
    (ofWhole negative n).SignedFirst := by
  unfold ofWhole
  split
  · split <;> trivial
  · split
    · trivial
    · rename_i large
      show Int64.maxValue.toInt < (UInt64.ofNat n).toNat
      rw [UInt64.toNat_ofNat_of_lt' small]
      omega

theorem value?_signedFirst {literal : JsonNumber} {n : Number} (spells : literal.value? = some n) :
    n.SignedFirst := by
  unfold value? at spells
  dsimp only at spells
  split at spells
  · cases spells
    exact ofWhole_signedFirst _ (appendDigits_lt 0 _ (by decide))
  · obtain ⟨rank, -, rfl⟩ := Option.map_eq_some_iff.mp spells
    trivial

end JsonNumber

namespace JsonReader

variable {α β : Type}

/-! ## What readers yield -/

/-- Whatever is read has the property. -/
def Yields (r : Reading α) (P : α → Prop) : Prop :=
  ∀ text a rest, r.run text = .ok (a, rest) → P a

section Steps

variable {P : β → Prop} {Q : α → Prop} {r : Reading α} {next : α → Reading β}

theorem yields_pure {b : β} (holds : P b) : Yields (pure b) P := by
  rintro text _ _ ⟨⟩
  exact holds

theorem yields_fail (fault : JsonFault) : Yields (fail fault) P := by
  rintro text _ _ ⟨⟩

theorem yields_failAtNext (fault : JsonFault) : Yields (failAtNext fault) P := by
  rintro text _ _ ⟨⟩

theorem Yields.bind (first : Yields r Q) (later : ∀ a, Q a → Yields (next a) P) :
    Yields (r >>= next) P := by
  intro text b rest read
  obtain ⟨a, middle, readFirst, readLater⟩ := run_bind_eq_ok_iff.mp read
  exact later a (first text a middle readFirst) middle b rest readLater

/-- What comes first may be anything. -/
theorem yields_bind (later : ∀ a, Yields (next a) P) : Yields (r >>= next) P :=
  Yields.bind (Q := fun _ => True) (fun _ _ _ _ => trivial) fun a _ => later a

end Steps

theorem yields_number (negative : Bool) : Yields (number negative) Number.SignedFirst := by
  refine yields_bind fun whole => yields_bind fun fraction => yields_bind fun exponent => ?_
  split
  · rename_i n spells
    exact yields_pure (JsonNumber.value?_signedFirst spells)
  · exact yields_fail _

/-! ## Arrays and objects -/

section Inside

variable {P : JsonValue → Prop} {value : Reading JsonValue} (each : Yields value P)

include each

theorem yields_items (fuel : Nat) {read : List JsonValue} (all : ∀ v ∈ read, P v) :
    Yields (items value fuel read) fun vs => ∀ v ∈ vs, P v := by
  induction fuel generalizing read with
  | zero => exact yields_fail _
  | succ fuel ih =>
      have more : Yields (value >>= fun item => items value fuel (item :: read))
          fun vs => ∀ v ∈ vs, P v :=
        each.bind fun item holds => ih (List.forall_mem_cons.mpr ⟨holds, all⟩)
      rw [items]
      refine yields_bind fun next => ?_
      split
      · exact yields_failAtNext _
      · refine yields_bind fun _ => yields_pure fun v member => all v (List.mem_reverse.mp member)
      · split
        · refine each.bind fun item holds => ih ?_
          simpa using holds
        · split
          · refine yields_bind fun _ => yields_bind fun next => ?_
            split
            · exact yields_failAtNext _
            · exact yields_failAtNext _
            · exact more
          · exact yields_failAtNext _

theorem yields_entry (size : Nat) : Yields (entry size value) fun e => P e.2 := by
  refine yields_bind fun _ => yields_bind fun name => yields_bind fun next => ?_
  split
  · exact yields_failAtNext _
  · exact yields_bind fun _ => each.bind fun v holds => yields_pure holds
  · exact yields_failAtNext _

theorem yields_entries (size fuel : Nat) (first : Bool) {read : JsonObject}
    (ordered : read.InOrder) (all : ∀ e ∈ read, P e.2) :
    Yields (entries size value fuel first read)
      fun es => JsonObject.InOrder es ∧ ∀ e ∈ es, P e.2 := by
  induction fuel generalizing first read with
  | zero => exact yields_fail _
  | succ fuel ih =>
      have more : Yields (entry size value >>= fun e =>
          entries size value fuel false (read.insertEntry e.1 e.2))
          fun es => JsonObject.InOrder es ∧ ∀ e ∈ es, P e.2 := by
        refine (yields_entry each size).bind fun e holds => ih false ?_ ?_
        · exact ordered.insertEntry e.1 e.2
        · intro e' member
          rcases JsonObject.mem_insertEntry member with rfl | old
          · exact holds
          · exact all e' old
      rw [entries]
      refine yields_bind fun next => ?_
      split
      · exact yields_failAtNext _
      · exact yields_bind fun _ => yields_pure ⟨ordered, all⟩
      · split
        · split
          · exact more
          · exact yields_failAtNext _
        · split
          · refine yields_bind fun _ => yields_bind fun next => ?_
            split
            · exact yields_failAtNext _
            · exact more
            · exact yields_failAtNext _
            · exact yields_failAtNext _
          · exact yields_failAtNext _

end Inside

/-! ## Values -/

theorem yields_valueOf {P : JsonValue → Prop} {size : Nat} {inner? : Option (Reading JsonValue)}
    (null : P .null) (bool : ∀ b, P (.bool b)) (text : ∀ s, P (.text s))
    (number : ∀ n : Number, n.SignedFirst → P (.number n))
    (array : ∀ inner ∈ inner?, Yields (items inner size []) fun vs => P (.array vs))
    (object : ∀ inner ∈ inner?, Yields (entries size inner size true []) fun es => P (.object es)) :
    Yields (valueOf size inner?) P := by
  refine yields_bind fun next => ?_
  split
  · exact yields_failAtNext _
  · exact yields_bind fun _ => yields_bind fun _ => yields_pure null
  · exact yields_bind fun _ => yields_bind fun _ => yields_pure (bool true)
  · exact yields_bind fun _ => yields_bind fun _ => yields_pure (bool false)
  · exact yields_bind fun _ => (yields_number true).bind fun n first => yields_pure (number n first)
  · exact yields_bind fun _ => yields_bind fun s => yields_pure (text s)
  · cases inner? with
    | none => exact yields_failAtNext _
    | some inner =>
        exact yields_bind fun _ => (array inner rfl).bind fun vs holds => yields_pure holds
  · cases inner? with
    | none => exact yields_failAtNext _
    | some inner =>
        exact yields_bind fun _ => (object inner rfl).bind fun es holds => yields_pure holds
  · split
    · exact (yields_number false).bind fun n first => yields_pure (number n first)
    · exact yields_failAtNext _

theorem yields_value (size depth : Nat) : Yields (value size depth) (JsonValue.Regular depth) := by
  induction depth with
  | zero =>
      exact yields_valueOf trivial (fun _ => trivial) (fun _ => trivial) (fun _ first => first)
        (by simp) (by simp)
  | succ depth ih =>
      refine yields_valueOf trivial (fun _ => trivial) (fun _ => trivial) (fun _ first => first)
        ?_ ?_
      · rintro _ ⟨⟩
        exact yields_items ih size (by simp)
      · rintro _ ⟨⟩
        exact yields_entries ih size size true .nil (by simp)

/-- Every value that is read is regular. -/
theorem regular_of_read {text : String} {v : JsonValue} (read : JsonValue.read text = .ok v) :
    v.Regular depthLimit := by
  obtain ⟨size, back, readValue, -⟩ := value_of_read read
  exact yields_value size depthLimit _ _ _ readValue

end JsonReader

end RecordQuery
