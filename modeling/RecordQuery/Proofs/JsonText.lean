/-
# RecordQuery.Proofs.JsonText -- printed JSON is read back

`Prints depth text v` says that a text is read as the value `v` wherever it stands: behind
blanks, before any other text that no number goes on with, and with any bound on the size of the
text that is above its own length.  Null, truth values and strings are printed so (`prints_null`,
`prints_bool`, `prints_string`), and what is put together on lines of its own from parts printed
so is read as an array or an object of them (`prints_array`, `prints_object`).  `read_of_prints`
is the same of a whole text.

The reader's loops go from one comma to the next, so each has a lemma for its last step, for
its first part and for a part behind a comma, and an induction over the parts that are left.
An object is read in the order of its names, whatever order it was printed in; what it then
holds under a name is what `JsonObject.get?_insertEntry` says.
-/
import RecordQuery.Json.Printer
import RecordQuery.Json.Reader
import RecordQuery.Proofs.Traversal
import RecordQuery.Proofs.WordSplit
import Mathlib.Data.List.TakeWhile

namespace RecordQuery.JsonReader

set_option autoImplicit false

open JsonPrinter

variable {α β : Type} {text rest blanks : List Char}

/-! ## Steps -/

theorem run_bind_of_ok {r : Reading α} {next : α → Reading β} {a : α}
    (read : r.run text = .ok (a, rest)) : (r >>= next).run text = (next a).run rest := by
  rw [StateT.run_bind, read]
  rfl

theorem run_bind_eq_ok_iff {r : Reading α} {next : α → Reading β} {b : β} :
    (r >>= next).run text = .ok (b, rest) ↔
      ∃ a middle, r.run text = .ok (a, middle) ∧ (next a).run middle = .ok (b, rest) := by
  rw [StateT.run_bind, bind_eq_ok_iff, Prod.exists]

theorem run_skip (c : Char) : skip.run (c :: rest) = .ok ((), rest) := rfl

theorem run_peek? (c : Char) : peek?.run (c :: rest) = .ok (some c, c :: rest) := rfl

theorem run_next? (c : Char) : next?.run (c :: rest) = .ok (some c, rest) := rfl

theorem run_peekPastBlanks? {c : Char} (blank : ∀ d ∈ blanks, isBlank d = true)
    (ends : isBlank c = false) :
    peekPastBlanks?.run (blanks ++ c :: rest) = .ok (some c, c :: rest) := by
  have left : (blanks ++ c :: rest).dropWhile isBlank = c :: rest :=
    Text.dropWhile_run blank (by simpa using ends)
  show Except.ok (((blanks ++ c :: rest).dropWhile isBlank).head?,
    (blanks ++ c :: rest).dropWhile isBlank) = _
  rw [left]
  rfl

theorem run_peekPastBlanks?_self {c : Char} (ends : isBlank c = false) :
    peekPastBlanks?.run (c :: rest) = .ok (some c, c :: rest) :=
  @run_peekPastBlanks? rest [] c (by simp) ends

theorem run_peekPastBlanks?_end (blank : ∀ d ∈ blanks, isBlank d = true) :
    peekPastBlanks?.run blanks = .ok (none, []) := by
  have left : (blanks ++ []).dropWhile isBlank = [] := Text.dropWhile_run blank (by simp)
  rw [List.append_nil] at left
  show Except.ok ((blanks.dropWhile isBlank).head?, blanks.dropWhile isBlank) = _
  rw [left]
  rfl

/-! ## Strings -/

theorem hexDigits_of_control : ∀ n < 0x20, ∃ a b c d, hexDigits n = [a, b, c, d] ∧
    hexDigit? a = some 0 ∧ hexDigit? b = some 0 ∧ hexDigit? c = some (n / 16) ∧
      hexDigit? d = some (n % 16) := by
  intro n small
  refine ⟨'0', '0', (n / 16).digitChar, (n % 16).digitChar, ?_⟩
  revert n
  decide

theorem run_hexUnit {p q r s : Char} {a b c d : Nat} (first : hexDigit? p = some a)
    (second : hexDigit? q = some b) (third : hexDigit? r = some c) (fourth : hexDigit? s = some d) :
    hexUnit.run (p :: q :: r :: s :: rest) = .ok (((a * 16 + b) * 16 + c) * 16 + d, rest) := by
  have look : (get : Reading (List Char)).run (p :: q :: r :: s :: rest) = .ok (_, _) := rfl
  have taken : (set rest : Reading Unit).run (p :: q :: r :: s :: rest) = .ok ((), rest) := rfl
  rw [hexUnit, run_bind_of_ok look]
  simp only
  rw [run_bind_of_ok taken, first, second, third, fourth]
  rfl

theorem run_unicodeEscape {c : Char} (control : c.toNat < 0x20) :
    unicodeEscape.run (hexDigits c.toNat ++ rest) = .ok (c, rest) := by
  obtain ⟨p, q, r, s, written, first, second, third, fourth⟩ := hexDigits_of_control _ control
  have unit : hexUnit.run (hexDigits c.toNat ++ rest) = .ok (c.toNat, rest) := by
    have value : ((0 * 16 + 0) * 16 + c.toNat / 16) * 16 + c.toNat % 16 = c.toNat := by omega
    have read : hexUnit.run ([p, q, r, s] ++ rest) = .ok (_, rest) :=
      run_hexUnit first second third fourth
    rw [written, read, value]
  have noPair : ¬ (0xDC00 ≤ c.toNat ∧ c.toNat ≤ 0xDFFF) := by omega
  have noFirst : ¬ (0xD800 ≤ c.toNat ∧ c.toNat ≤ 0xDBFF) := by omega
  rw [unicodeEscape, run_bind_of_ok unit, if_neg noPair, if_neg noFirst, Char.ofNat_toNat]
  rfl

/-- A character is read from what is written for it. -/
theorem run_stringTail_escapedChar (fuel : Nat) (read : List Char) (c : Char) :
    (stringTail (fuel + 1) read).run (escapedChar c ++ rest) =
      (stringTail fuel (c :: read)).run rest := by
  by_cases short : c ∈ ['\x22', '\\', '\x08', '\x0c', '\n', '\r', '\t']
  · simp only [List.mem_cons, List.not_mem_nil, or_false] at short
    rcases short with rfl | rfl | rfl | rfl | rfl | rfl | rfl <;> rfl
  · simp only [List.mem_cons, List.not_mem_nil, or_false, not_or] at short
    obtain ⟨notQuote, notBackslash, others⟩ := short
    by_cases control : c.toNat < 0x20
    · have written : escapedChar c = '\\' :: 'u' :: hexDigits c.toNat := by
        simp [escapedChar, notQuote, notBackslash, others, control]
      have escaped : escape.run ('u' :: (hexDigits c.toNat ++ rest)) = .ok (c, rest) :=
        run_unicodeEscape control
      rw [written]
      show StateT.run (escape >>= fun d => stringTail fuel (d :: read))
        ('u' :: (hexDigits c.toNat ++ rest)) = _
      rw [run_bind_of_ok escaped]
    · have written : escapedChar c = [c] := by
        simp [escapedChar, notQuote, notBackslash, others, control]
      rw [written, stringTail, List.singleton_append, run_bind_of_ok (run_next? c)]
      simp only [notQuote, notBackslash, control, if_false]

theorem run_stringTail (fuel : Nat) (read cs : List Char) (enough : cs.length < fuel) :
    (stringTail fuel read).run (cs.flatMap escapedChar ++ '\x22' :: rest) =
      .ok (String.ofList (read.reverse ++ cs), rest) := by
  induction cs generalizing fuel read with
  | nil =>
      obtain ⟨fuel, rfl⟩ := Nat.exists_eq_add_one.mpr enough
      rw [List.append_nil]
      rfl
  | cons c cs ih =>
      obtain ⟨fuel, rfl⟩ := Nat.exists_eq_add_one.mpr (Nat.zero_lt_of_lt enough)
      rw [List.flatMap_cons, List.append_assoc, run_stringTail_escapedChar,
        ih fuel (c :: read) (Nat.lt_of_succ_lt_succ enough), List.reverse_cons, List.append_assoc]
      rfl

/-! ## Values -/

/-- A number may go on with this character. -/
def extendsNumber (c : Char) : Bool :=
  c.isDigit || c == '.' || c == 'e' || c == 'E'

/-- A value that stands before this text ends there. -/
def Follows (rest : List Char) : Prop :=
  ∀ c ∈ rest.head?, extendsNumber c = false

theorem follows_cons {c : Char} (ends : extendsNumber c = false) : Follows (c :: rest) := by
  rintro d ⟨⟩
  exact ends

theorem extendsNumber_of_isBlank {c : Char} (blank : isBlank c = true) :
    extendsNumber c = false := by
  simp only [isBlank, Bool.or_eq_true, beq_iff_eq] at blank
  rcases blank with ((rfl | rfl) | rfl) | rfl <;> rfl

theorem follows_blanks {c : Char} (blank : ∀ d ∈ blanks, isBlank d = true)
    (ends : extendsNumber c = false) : Follows (blanks ++ c :: rest) := by
  cases blanks with
  | nil => exact follows_cons ends
  | cons d blanks => exact follows_cons (extendsNumber_of_isBlank (blank d List.mem_cons_self))

/-- The text is one that the value is read from, where arrays and objects may be nested so deep. -/
structure Prints (depth : Nat) (text : List Char) (v : JsonValue) : Prop where
  starts : ∃ c more, text = c :: more ∧ isBlank c = false ∧ c ≠ ']'
  run : ∀ size blanks rest, text.length < size → (∀ c ∈ blanks, isBlank c = true) →
    Follows rest → (value size depth).run (blanks ++ (text ++ rest)) = .ok (v, rest)

theorem value_eq (size depth : Nat) : ∃ inner?, value size depth = valueOf size inner? := by
  cases depth with
  | zero => exact ⟨none, rfl⟩
  | succ depth => exact ⟨some (value size depth), rfl⟩

section Value

variable {size : Nat} {inner? : Option (Reading JsonValue)} {inner : Reading JsonValue}
  (blank : ∀ c ∈ blanks, isBlank c = true)

include blank

theorem run_valueOf_null :
    (valueOf size inner?).run (blanks ++ 'n' :: 'u' :: 'l' :: 'l' :: rest) = .ok (.null, rest) := by
  unfold valueOf
  rw [run_bind_of_ok (run_peekPastBlanks? blank rfl)]
  rfl

theorem run_valueOf_bool (b : Bool) :
    (valueOf size inner?).run (blanks ++ ((if b then "true" else "false").toList ++ rest)) =
      .ok (.bool b, rest) := by
  unfold valueOf
  cases b with
  | true =>
      have letters : "true".toList ++ rest = 't' :: 'r' :: 'u' :: 'e' :: rest := rfl
      rw [if_pos rfl, letters, run_bind_of_ok (run_peekPastBlanks? blank rfl)]
      rfl
  | false =>
      have letters : "false".toList ++ rest = 'f' :: 'a' :: 'l' :: 's' :: 'e' :: rest := rfl
      rw [if_neg Bool.false_ne_true, letters, run_bind_of_ok (run_peekPastBlanks? blank rfl)]
      rfl

theorem run_valueOf_text :
    (valueOf size inner?).run (blanks ++ '\x22' :: rest) =
      (JsonValue.text <$> string size).run rest := by
  unfold valueOf
  rw [run_bind_of_ok (run_peekPastBlanks? blank rfl)]
  rfl

theorem run_valueOf_array :
    (valueOf size (some inner)).run (blanks ++ '[' :: rest) =
      (JsonValue.array <$> items inner size []).run rest := by
  unfold valueOf
  rw [run_bind_of_ok (run_peekPastBlanks? blank rfl)]
  rfl

theorem run_valueOf_object :
    (valueOf size (some inner)).run (blanks ++ '\x7b' :: rest) =
      (JsonValue.object <$> entries size inner size true []).run rest := by
  unfold valueOf
  rw [run_bind_of_ok (run_peekPastBlanks? blank rfl)]
  rfl

end Value

theorem run_map_of_ok {r : Reading α} {f : α → β} {a : α} (read : r.run text = .ok (a, rest)) :
    (f <$> r).run text = .ok (f a, rest) := by
  rw [StateT.run_map, read]
  rfl

theorem prints_null (depth : Nat) : Prints depth "null".toList .null := by
  refine ⟨⟨'n', ['u', 'l', 'l'], rfl, rfl, by decide⟩, fun size blanks rest _ blank _ => ?_⟩
  obtain ⟨inner?, shape⟩ := value_eq size depth
  rw [shape]
  exact run_valueOf_null blank

theorem prints_bool (depth : Nat) (b : Bool) :
    Prints depth (if b then "true" else "false").toList (.bool b) := by
  constructor
  · cases b with
    | true => exact ⟨'t', ['r', 'u', 'e'], rfl, rfl, by decide⟩
    | false => exact ⟨'f', ['a', 'l', 's', 'e'], rfl, rfl, by decide⟩
  · intro size blanks rest _ blank _
    obtain ⟨inner?, shape⟩ := value_eq size depth
    rw [shape]
    exact run_valueOf_bool blank b

theorem string_toList (s : String) : (JsonPrinter.string s).toList =
    '\x22' :: (s.toList.flatMap escapedChar ++ ['\x22']) := by
  rw [JsonPrinter.string, String.toList_ofList]

theorem length_lt_string (s : String) : s.toList.length < (JsonPrinter.string s).toList.length := by
  have each : ∀ cs : List Char, cs.length ≤ (cs.flatMap escapedChar).length := by
    intro cs
    induction cs with
    | nil => exact Nat.le_refl 0
    | cons c cs ih =>
        have some : 1 ≤ (escapedChar c).length := by
          unfold escapedChar
          repeat' split
          all_goals simp
        rw [List.flatMap_cons, List.length_append, List.length_cons]
        omega
  have inside := each s.toList
  rw [string_toList, List.length_cons, List.length_append]
  omega

/-- A printed string is read as itself, its opening quotation mark already read. -/
theorem run_string {size : Nat} (s : String) (enough : s.toList.length < size) :
    (string size).run (s.toList.flatMap escapedChar ++ '\x22' :: rest) = .ok (s, rest) := by
  rw [string, run_stringTail size [] s.toList enough, List.reverse_nil, List.nil_append,
    String.ofList_toList]

theorem prints_string (depth : Nat) (s : String) :
    Prints depth (JsonPrinter.string s).toList (.text s) := by
  refine ⟨⟨_, _, string_toList s, rfl, by decide⟩, fun size blanks rest enough blank _ => ?_⟩
  obtain ⟨inner?, shape⟩ := value_eq size depth
  have fits := length_lt_string s
  rw [shape, string_toList, List.cons_append, run_valueOf_text blank, List.append_assoc,
    List.singleton_append]
  exact run_map_of_ok (run_string s (by omega))

/-! ## Parts between commas -/

/-- More parts of a list, each behind a comma and blanks. -/
def listed (blanks : List Char) (parts : List (List Char)) : List Char :=
  parts.flatMap fun part => ',' :: (blanks ++ part)

theorem listed_nil (blanks : List Char) : listed blanks [] = [] := rfl

theorem listed_cons (blanks part : List Char) (parts : List (List Char)) :
    listed blanks (part :: parts) = ',' :: (blanks ++ (part ++ listed blanks parts)) := by
  simp [listed]

theorem intercalate_eq_listed (blanks part : List Char) (parts : List (List Char)) :
    (',' :: blanks).intercalate (part :: parts) = part ++ listed blanks parts := by
  induction parts generalizing part with
  | nil => simp [listed]
  | cons next parts ih => simp [List.intercalate_cons_cons, ih, listed_cons]

theorem length_lt_listed (blanks : List Char) (parts : List (List Char)) :
    parts.length ≤ (listed blanks parts).length ∧
      ∀ part ∈ parts, part.length < (listed blanks parts).length := by
  induction parts with
  | nil => simp
  | cons part parts ih =>
      obtain ⟨count, each⟩ := ih
      rw [listed_cons]
      simp only [List.length_cons, List.length_append, List.forall_mem_cons]
      refine ⟨by omega, by omega, fun other member => ?_⟩
      have fits := each other member
      omega

/-- Behind a part of a list stands a comma, or the list ends with blanks and what closes it. -/
theorem follows_listed {c : Char} {parts : List (List Char)} {last : List Char}
    (blankLast : ∀ d ∈ last, isBlank d = true) (ends : extendsNumber c = false) :
    Follows (listed blanks parts ++ (last ++ c :: rest)) := by
  cases parts with
  | nil => exact follows_blanks blankLast ends
  | cons part parts =>
      rw [listed_cons, List.cons_append]
      exact follows_cons rfl

/-- Printed parts on lines of their own. -/
theorem onLines_toList (level : Nat) (opening closing : Char) (first : String)
    (parts : List String) :
    (JsonValue.onLines level opening.toString closing.toString (first :: parts)).toList =
      opening :: ((newline (level + 1)).toList ++ (first.toList ++
        (listed (newline (level + 1)).toList (parts.map String.toList) ++
          ((newline level).toList ++ [closing])))) := by
  have parted := intercalate_eq_listed (newline (level + 1)).toList first.toList
    (parts.map String.toList)
  simp only [JsonValue.onLines, List.isEmpty_cons, Bool.false_eq_true, if_false,
    String.toList_append, String.toList_intercalate, List.map_cons, List.append_assoc] at parted ⊢
  rw [← List.append_assoc _ (listed _ _), ← parted]
  simp

theorem newline_blank (level : Nat) : ∀ c ∈ (newline level).toList, isBlank c = true := by
  intro c member
  rw [newline, String.toList_ofList] at member
  rcases List.mem_cons.mp member with rfl | inBlanks
  · rfl
  · rw [List.eq_of_mem_replicate inBlanks]
    rfl

/-! ## Arrays -/

section Items

variable {size depth fuel : Nat} {t : List Char} {v : JsonValue} {read : List JsonValue}

theorem run_items_end (blank : ∀ c ∈ blanks, isBlank c = true) :
    (items (value size depth) (fuel + 1) read).run (blanks ++ ']' :: rest) =
      .ok (read.reverse, rest) := by
  rw [items, run_bind_of_ok (run_peekPastBlanks? blank rfl)]
  rfl

theorem run_items_first (prints : Prints depth t v) (enough : t.length < size)
    (blank : ∀ c ∈ blanks, isBlank c = true) (follows : Follows rest) :
    (items (value size depth) (fuel + 1) []).run (blanks ++ (t ++ rest)) =
      (items (value size depth) fuel [v]).run rest := by
  obtain ⟨c, more, shape, notBlank, notEnd⟩ := prints.starts
  have item := prints.run size [] rest enough (by simp) follows
  rw [List.nil_append] at item
  rw [shape, List.cons_append] at item ⊢
  rw [items, run_bind_of_ok (run_peekPastBlanks? blank notBlank)]
  split
  · contradiction
  · simp_all
  · exact run_bind_of_ok item

theorem run_items_next {w : JsonValue} (prints : Prints depth t v) (enough : t.length < size)
    (blank : ∀ c ∈ blanks, isBlank c = true) (follows : Follows rest) :
    (items (value size depth) (fuel + 1) (w :: read)).run (',' :: (blanks ++ (t ++ rest))) =
      (items (value size depth) fuel (v :: w :: read)).run rest := by
  obtain ⟨c, more, shape, notBlank, notEnd⟩ := prints.starts
  have item := prints.run size [] rest enough (by simp) follows
  have comma : peekPastBlanks?.run (',' :: (blanks ++ (t ++ rest))) = .ok (some ',', _) :=
    run_peekPastBlanks?_self rfl
  rw [List.nil_append] at item
  rw [shape, List.cons_append] at item comma ⊢
  rw [items, run_bind_of_ok comma]
  refine (run_bind_of_ok (run_skip ',')).trans ?_
  rw [run_bind_of_ok (run_peekPastBlanks? blank notBlank)]
  split
  · contradiction
  · simp_all
  · exact run_bind_of_ok item

theorem run_items_rest {ts : List (List Char)} {vs : List JsonValue} {last : List Char}
    (each : List.Forall₂ (Prints depth) ts vs) (blank : ∀ c ∈ blanks, isBlank c = true)
    (blankLast : ∀ c ∈ last, isBlank c = true) (fits : ∀ t ∈ ts, t.length < size)
    (enough : ts.length < fuel) (w : JsonValue) (read : List JsonValue) :
    (items (value size depth) fuel (w :: read)).run
        (listed blanks ts ++ (last ++ ']' :: rest)) = .ok ((w :: read).reverse ++ vs, rest) := by
  induction each generalizing fuel w read with
  | nil =>
      obtain ⟨fuel, rfl⟩ := Nat.exists_eq_add_one.mpr enough
      rw [listed_nil, List.nil_append, run_items_end blankLast, List.append_nil]
  | @cons t v ts vs first others ih =>
      obtain ⟨fuel, rfl⟩ := Nat.exists_eq_add_one.mpr (Nat.zero_lt_of_lt enough)
      obtain ⟨fitsFirst, fitsOthers⟩ := List.forall_mem_cons.mp fits
      have inOrder : ((v :: w :: read).reverse ++ vs) = (w :: read).reverse ++ v :: vs := by simp
      rw [listed_cons, List.cons_append, List.append_assoc, List.append_assoc,
        run_items_next first fitsFirst blank (follows_listed blankLast rfl),
        ih fitsOthers (Nat.lt_of_succ_lt_succ enough), inOrder]

end Items

/-- Printed values on lines of their own are an array of them. -/
theorem prints_array {depth : Nat} {parts : List String} {vs : List JsonValue}
    (each : List.Forall₂ (fun part v => Prints depth part.toList v) parts vs) (level : Nat) :
    Prints (depth + 1) (JsonValue.onLines level "[" "]" parts).toList (.array vs) := by
  cases each with
  | nil =>
      have brackets : (JsonValue.onLines level "[" "]" []).toList = ['[', ']'] := by
        simp [JsonValue.onLines]
      rw [brackets]
      refine ⟨⟨'[', [']'], rfl, rfl, by decide⟩, fun size blanks rest enough blank _ => ?_⟩
      obtain ⟨fuel, rfl⟩ := Nat.exists_eq_add_one.mpr (Nat.zero_lt_of_lt enough)
      have noBlanks : ∀ c ∈ ([] : List Char), isBlank c = true := by simp
      exact (run_valueOf_array blank).trans (run_map_of_ok (run_items_end noBlanks))
  | @cons first v parts vs item others =>
      have written : (JsonValue.onLines level "[" "]" (first :: parts)).toList = _ :=
        onLines_toList level '[' ']' first parts
      obtain ⟨few, fits⟩ := length_lt_listed (newline (level + 1)).toList (parts.map String.toList)
      refine ⟨⟨'[', _, written, rfl, by decide⟩, fun size blanks rest enough blank _ => ?_⟩
      rw [written] at enough ⊢
      simp only [List.length_cons, List.length_append, List.length_nil] at enough
      obtain ⟨fuel, rfl⟩ := Nat.exists_eq_add_one.mpr (Nat.zero_lt_of_lt enough)
      rw [List.cons_append, value, run_valueOf_array blank]
      simp only [List.append_assoc, List.singleton_append]
      refine run_map_of_ok ?_
      rw [run_items_first item (by omega) (newline_blank _) (follows_listed (newline_blank _) rfl)]
      refine run_items_rest (List.forall₂_map_left_iff.mpr others) (newline_blank _)
        (newline_blank _) (fun t member => ?_) (by omega) v []
      have shorter := fits t member
      omega

/-- An array is read as the list of what its items are read as. -/
theorem prints_array_map {depth level : Nat} {xs : List α} {printed back : α → JsonValue}
    (each : ∀ x ∈ xs, Prints depth ((printed x).prettyAt (level + 1)).toList (back x)) :
    Prints (depth + 1) ((JsonValue.array (xs.map printed)).prettyAt level).toList
      (.array (xs.map back)) := by
  rw [JsonValue.prettyAt, JsonValue.prettyItems_eq_map, List.map_map]
  refine prints_array ?_ level
  rw [List.forall₂_map_left_iff, List.forall₂_map_right_iff, List.forall₂_same]
  exact each

/-! ## Objects -/

/-- The part is the name, a colon and a text of the value. -/
def PrintsEntry (depth : Nat) (part : List Char) (e : String × JsonValue) : Prop :=
  ∃ t, part = (JsonPrinter.string e.1).toList ++ ':' :: ' ' :: t ∧ Prints depth t e.2

theorem printsEntry_of_prints {depth : Nat} {name text : String} {v : JsonValue}
    (prints : Prints depth text.toList v) :
    PrintsEntry depth (JsonPrinter.string name ++ ": " ++ text).toList (name, v) := by
  refine ⟨text.toList, ?_, prints⟩
  simp

/-- The entries of a list as an object, of equal names the last. -/
def ofEntries (es : List (String × JsonValue)) : JsonObject :=
  es.foldl (fun object e => object.insertEntry e.1 e.2) []

/-- Entries in order are the object that they make. -/
theorem ofEntries_of_inOrder {es : JsonObject} (ordered : es.InOrder) : ofEntries es = es := by
  -- Each entry is put behind those that were in front of it.
  have behind : ∀ (es read : JsonObject), (read ++ es).Pairwise (fun a b => compare a.1 b.1 = .lt) →
      es.foldl (fun object e => object.insertEntry e.1 e.2) read = read ++ es := by
    intro es
    induction es with
    | nil => simp
    | cons e es ih =>
        intro read ordered
        have last : ∀ e' ∈ read, compare e'.1 e.1 = .lt := fun e' member =>
          (List.pairwise_append.mp ordered).2.2 e' member e List.mem_cons_self
        rw [List.foldl_cons, JsonObject.insertEntry_of_last e.2 last, ih]
        · simp
        · simpa using ordered
  exact behind es [] ordered

section Entries

variable {size depth fuel : Nat} {part : List Char} {e : String × JsonValue} {read : JsonObject}

theorem run_entry (prints : PrintsEntry depth part e) (enough : part.length < size)
    (follows : Follows rest) :
    (entry size (value size depth)).run (part ++ rest) = .ok (e, rest) := by
  obtain ⟨t, shape, item⟩ := prints
  have short := length_lt_string e.1
  rw [shape] at enough ⊢
  simp only [List.length_append, List.length_cons] at enough
  have name : (string size).run
      (e.1.toList.flatMap escapedChar ++ '\x22' :: ':' :: ' ' :: (t ++ rest)) = _ :=
    run_string e.1 (by omega)
  have colon : peekPastBlanks?.run (':' :: ' ' :: (t ++ rest)) = .ok (some ':', _) :=
    run_peekPastBlanks?_self rfl
  have blank : ∀ c ∈ [' '], isBlank c = true := List.all_eq_true.mp rfl
  rw [string_toList]
  simp only [List.cons_append, List.append_assoc, List.nil_append]
  rw [entry, run_bind_of_ok (run_skip _), run_bind_of_ok name, run_bind_of_ok colon]
  exact run_map_of_ok (item.run size [' '] rest (by omega) blank follows)

theorem exists_quote (prints : PrintsEntry depth part e) : ∃ more, part = '\x22' :: more := by
  obtain ⟨t, shape, -⟩ := prints
  rw [shape, string_toList]
  exact ⟨_, rfl⟩

theorem run_entries_end {first : Bool} (blank : ∀ c ∈ blanks, isBlank c = true) :
    (entries size (value size depth) (fuel + 1) first read).run (blanks ++ '\x7d' :: rest) =
      .ok (read, rest) := by
  rw [entries, run_bind_of_ok (run_peekPastBlanks? blank rfl)]
  rfl

theorem run_entries_first (prints : PrintsEntry depth part e) (enough : part.length < size)
    (blank : ∀ c ∈ blanks, isBlank c = true) (follows : Follows rest) :
    (entries size (value size depth) (fuel + 1) true read).run (blanks ++ (part ++ rest)) =
      (entries size (value size depth) fuel false (read.insertEntry e.1 e.2)).run rest := by
  obtain ⟨more, shape⟩ := exists_quote prints
  have item : (entry size (value size depth)).run (part ++ rest) = .ok (e, rest) :=
    run_entry prints enough follows
  rw [shape, List.cons_append] at item ⊢
  rw [entries, run_bind_of_ok (run_peekPastBlanks? blank rfl)]
  exact run_bind_of_ok item

theorem run_entries_next (prints : PrintsEntry depth part e) (enough : part.length < size)
    (blank : ∀ c ∈ blanks, isBlank c = true) (follows : Follows rest) :
    (entries size (value size depth) (fuel + 1) false read).run
        (',' :: (blanks ++ (part ++ rest))) =
      (entries size (value size depth) fuel false (read.insertEntry e.1 e.2)).run rest := by
  obtain ⟨more, shape⟩ := exists_quote prints
  have item : (entry size (value size depth)).run (part ++ rest) = .ok (e, rest) :=
    run_entry prints enough follows
  have comma : peekPastBlanks?.run (',' :: (blanks ++ (part ++ rest))) = .ok (some ',', _) :=
    run_peekPastBlanks?_self rfl
  rw [shape, List.cons_append] at item comma ⊢
  rw [entries, run_bind_of_ok comma]
  refine (run_bind_of_ok (run_skip ',')).trans ?_
  rw [run_bind_of_ok (run_peekPastBlanks? blank rfl)]
  exact run_bind_of_ok item

theorem run_entries_rest {ts : List (List Char)} {es : List (String × JsonValue)} {last : List Char}
    (each : List.Forall₂ (PrintsEntry depth) ts es) (blank : ∀ c ∈ blanks, isBlank c = true)
    (blankLast : ∀ c ∈ last, isBlank c = true) (fits : ∀ t ∈ ts, t.length < size)
    (enough : ts.length < fuel) (read : JsonObject) :
    (entries size (value size depth) fuel false read).run
        (listed blanks ts ++ (last ++ '\x7d' :: rest)) =
      .ok (es.foldl (fun object e => object.insertEntry e.1 e.2) read, rest) := by
  induction each generalizing fuel read with
  | nil =>
      obtain ⟨fuel, rfl⟩ := Nat.exists_eq_add_one.mpr enough
      exact run_entries_end blankLast
  | @cons t e ts es first others ih =>
      obtain ⟨fuel, rfl⟩ := Nat.exists_eq_add_one.mpr (Nat.zero_lt_of_lt enough)
      obtain ⟨fitsFirst, fitsOthers⟩ := List.forall_mem_cons.mp fits
      rw [listed_cons, List.cons_append, List.append_assoc, List.append_assoc,
        run_entries_next first fitsFirst blank (follows_listed blankLast rfl),
        ih fitsOthers (Nat.lt_of_succ_lt_succ enough)]
      rfl

end Entries

/-- Printed entries on lines of their own are an object of them. -/
theorem prints_object {depth : Nat} {parts : List String} {es : List (String × JsonValue)}
    (each : List.Forall₂ (fun part e => PrintsEntry depth part.toList e) parts es) (level : Nat) :
    Prints (depth + 1) (JsonValue.onLines level "\x7b" "\x7d" parts).toList
      (.object (ofEntries es)) := by
  cases each with
  | nil =>
      have braces : (JsonValue.onLines level "\x7b" "\x7d" []).toList = ['\x7b', '\x7d'] := by
        simp [JsonValue.onLines]
      rw [braces]
      refine ⟨⟨'\x7b', ['\x7d'], rfl, rfl, by decide⟩, fun size blanks rest enough blank _ => ?_⟩
      obtain ⟨fuel, rfl⟩ := Nat.exists_eq_add_one.mpr (Nat.zero_lt_of_lt enough)
      have noBlanks : ∀ c ∈ ([] : List Char), isBlank c = true := by simp
      exact (run_valueOf_object blank).trans (run_map_of_ok (run_entries_end noBlanks))
  | @cons first e parts es item others =>
      have written : (JsonValue.onLines level "\x7b" "\x7d" (first :: parts)).toList = _ :=
        onLines_toList level '\x7b' '\x7d' first parts
      obtain ⟨few, fits⟩ := length_lt_listed (newline (level + 1)).toList (parts.map String.toList)
      refine ⟨⟨'\x7b', _, written, rfl, by decide⟩, fun size blanks rest enough blank _ => ?_⟩
      rw [written] at enough ⊢
      simp only [List.length_cons, List.length_append, List.length_nil] at enough
      obtain ⟨fuel, rfl⟩ := Nat.exists_eq_add_one.mpr (Nat.zero_lt_of_lt enough)
      rw [List.cons_append, value, run_valueOf_object blank]
      simp only [List.append_assoc, List.singleton_append]
      refine run_map_of_ok ?_
      rw [run_entries_first item (by omega) (newline_blank _)
        (follows_listed (newline_blank _) rfl)]
      refine run_entries_rest (List.forall₂_map_left_iff.mpr others) (newline_blank _)
        (newline_blank _) (fun t member => ?_) (by omega) _
      have shorter := fits t member
      omega

/-! ## Whole texts -/

/-- A printed value on a line of its own is read as the value. -/
theorem read_of_prints {text : String} {v : JsonValue} (prints : Prints depthLimit text.toList v) :
    JsonValue.read (text ++ "\n") = .ok v := by
  have line : (text ++ "\n").toList = [] ++ (text.toList ++ ['\n']) := String.toList_append
  have whole : (value ((text ++ "\n").toList.length + 1) depthLimit).run (text ++ "\n").toList =
      .ok (v, ['\n']) := by
    rw [line]
    refine prints.run _ [] ['\n'] ?_ (by simp) (follows_cons rfl)
    simp only [List.nil_append, List.length_append, List.length_singleton]
    omega
  have ends : peekPastBlanks?.run ['\n'] = .ok (none, []) :=
    run_peekPastBlanks?_end (List.all_eq_true.mp rfl)
  have read : document.run (text ++ "\n").toList = .ok (v, []) := by
    have whatIsLeft : (get : Reading (List Char)).run (text ++ "\n").toList = .ok (_, _) := rfl
    rw [document, run_bind_of_ok whatIsLeft, run_bind_of_ok whole, run_bind_of_ok ends]
    rfl
  rw [JsonValue.read, read]
  rfl

/-- A text that is read is a value with blanks behind it. -/
theorem value_of_read {text : String} {v : JsonValue} (read : JsonValue.read text = .ok v) :
    ∃ size back, (value size depthLimit).run text.toList = .ok (v, back) ∧
      ∀ c ∈ back, isBlank c = true := by
  have whatIsLeft : (get : Reading (List Char)).run text.toList = .ok (_, text.toList) := rfl
  rw [JsonValue.read] at read
  cases ran : document.run text.toList with
  | error e =>
      rw [ran] at read
      cases read
  | ok result =>
      obtain ⟨v, rest⟩ := result
      rw [ran] at read
      cases read
      rw [document, run_bind_of_ok whatIsLeft] at ran
      obtain ⟨v, back, readValue, ran⟩ := run_bind_eq_ok_iff.mp ran
      have peeked : peekPastBlanks?.run back =
        .ok ((back.dropWhile isBlank).head?, back.dropWhile isBlank) := rfl
      rw [run_bind_of_ok peeked] at ran
      cases left : back.dropWhile isBlank with
      | nil =>
          rw [left] at ran
          cases ran
          exact ⟨_, back, readValue, List.dropWhile_eq_nil_iff.mp left⟩
      | cons c more =>
          rw [left] at ran
          cases ran

end RecordQuery.JsonReader
