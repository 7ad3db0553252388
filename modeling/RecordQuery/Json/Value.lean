/-
# RecordQuery.Json.Value -- JSON values

An object is a list of named values.  The reader keeps it sorted by name with every
name once (`insertEntry`); a printer writes the entries in the order they stand in.
-/
import RecordQuery.Number.Basic

namespace RecordQuery

set_option autoImplicit false

inductive JsonValue where
  | null
  | bool (value : Bool)
  | number (value : Number)
  | text (value : String)
  | array (items : List JsonValue)
  | object (entries : List (String × JsonValue))

/-- The entries of an object. -/
abbrev JsonObject := List (String × JsonValue)

namespace JsonObject

/-- Puts a value under a name, at the name's place in the order by code points.  A value already
there is replaced. -/
def insertEntry (name : String) (value : JsonValue) : JsonObject → JsonObject
  | [] => [(name, value)]
  | entry :: rest =>
    match compare name entry.1 with
    | .lt => (name, value) :: entry :: rest
    | .eq => (name, value) :: rest
    | .gt => entry :: insertEntry name value rest

/-- The value under a name. -/
def get? (object : JsonObject) (name : String) : Option JsonValue :=
  (object.find? fun entry => entry.1 == name).map Prod.snd

theorem get?_cons (entry : String × JsonValue) (object : JsonObject) (name : String) :
    get? (entry :: object) name = if name = entry.1 then some entry.2 else object.get? name := by
  by_cases same : name = entry.1
  · simp [get?, same]
  · simp [get?, same, Ne.symm same]

/-- An entry put in changes what is under its own name only. -/
theorem get?_insertEntry (object : JsonObject) (key : String) (v : JsonValue) (name : String) :
    (object.insertEntry key v).get? name = if name = key then some v else object.get? name := by
  induction object with
  | nil => exact get?_cons _ _ _
  | cons entry rest ih =>
      rw [insertEntry]
      split
      · exact get?_cons _ _ _
      · rename_i equal
        obtain rfl : key = entry.1 := Std.LawfulEqCmp.eq_of_compare equal
        rw [get?_cons, get?_cons]
        by_cases same : name = entry.1 <;> simp [same]
      · rename_i greater
        have other : entry.1 ≠ key := by
          rintro rfl
          simp at greater
        rw [get?_cons, get?_cons, ih]
        by_cases first : name = entry.1 <;> simp [first, other]

/-- Every name stands before the later ones, so none stands twice. -/
def InOrder (object : JsonObject) : Prop :=
  object.Pairwise fun a b => compare a.1 b.1 = .lt

theorem mem_insertEntry {object : JsonObject} {key : String} {v : JsonValue}
    {e : String × JsonValue} (member : e ∈ object.insertEntry key v) :
    e = (key, v) ∨ e ∈ object := by
  induction object with
  | nil => exact .inl (List.mem_singleton.mp member)
  | cons entry rest ih =>
      rw [insertEntry] at member
      split at member
      · exact List.mem_cons.mp member
      · exact (List.mem_cons.mp member).imp_right (List.mem_cons_of_mem _)
      · rcases List.mem_cons.mp member with rfl | later
        · exact .inr List.mem_cons_self
        · exact (ih later).imp_right (List.mem_cons_of_mem _)

theorem InOrder.insertEntry {object : JsonObject} (ordered : object.InOrder) (key : String)
    (v : JsonValue) : (object.insertEntry key v).InOrder := by
  induction object with
  | nil => exact List.pairwise_singleton _ _
  | cons entry rest ih =>
      obtain ⟨before, inOrder⟩ := List.pairwise_cons.mp ordered
      rw [JsonObject.insertEntry]
      split
      · rename_i less
        refine List.pairwise_cons.mpr ⟨fun e member => ?_, ordered⟩
        rcases List.mem_cons.mp member with rfl | later
        · exact less
        · exact Std.TransCmp.lt_trans less (before e later)
      · rename_i equal
        obtain rfl : key = entry.1 := Std.LawfulEqCmp.eq_of_compare equal
        exact List.pairwise_cons.mpr ⟨before, inOrder⟩
      · rename_i greater
        refine List.pairwise_cons.mpr ⟨fun e member => ?_, ih inOrder⟩
        rcases mem_insertEntry member with rfl | old
        · exact Std.OrientedCmp.lt_of_gt greater
        · exact before e old

/-- An entry whose name stands behind all others is put at the end. -/
theorem insertEntry_of_last {object : JsonObject} {key : String} (v : JsonValue)
    (last : ∀ e ∈ object, compare e.1 key = .lt) :
    object.insertEntry key v = object ++ [(key, v)] := by
  induction object with
  | nil => rfl
  | cons entry rest ih =>
      obtain ⟨first, others⟩ := List.forall_mem_cons.mp last
      have greater : compare key entry.1 = .gt := Std.OrientedCmp.gt_of_lt first
      rw [insertEntry, greater]
      exact congrArg (entry :: ·) (ih others)

end JsonObject

end RecordQuery
