import LiveMarkup.Proofs.Json.Numeral
import LiveMarkup.Proofs.Json.Quoted
/-
# LiveMarkup.Proofs.Json.RoundTrip -- a compact value is read back

What `compact` writes for a value the reader reads as that value and stands behind it
(`ofText?_compact`), provided the value is whole, its numbers are legible and it does not
nest deeper than the reader goes.  `Legible depth` collects the three.

The proof is an induction over the value.  `Reads depth v` is what it carries: the text
of `v` is read as `v` whatever may follow it, as soon as the fuel is twice its length.
An array spends one unit of fuel on itself and one on each item, an object one on each
member, and each of them has written a character for it.
-/

namespace LiveMarkup.Json

set_option autoImplicit false

variable {tail : List Char} {depth : Nat}

/-- A whole value with legible numbers that opens at most `depth` containers at once. -/
inductive Legible : Nat → Json → Prop where
  | null (depth : Nat) : Legible depth .null
  | boolean (depth : Nat) (b : Bool) : Legible depth (.boolean b)
  | number (depth : Nat) {n : Number} (legible : n.Legible) : Legible depth (.number n)
  | string (depth : Nat) (s : String) : Legible depth (.string s)
  | array (depth : Nat) {items : List Json} (inside : ∀ v ∈ items, Legible depth v) :
      Legible (depth + 1) (.array items)
  | object (depth : Nat) {members : List (String × Json)}
      (inside : ∀ m ∈ members, Legible depth m.2) : Legible (depth + 1) (.object members)

/-! ## Texts -/

/-- The texts of items with commas between them. -/
def itemsChars (items : List Json) : List Char :=
  [','].intercalate (items.map fun v => (compact v).toList)

/-- The text of a member. -/
def memberChars (m : String × Json) : List Char :=
  quotedChars m.1.toList ++ ':' :: (compact m.2).toList

/-- The texts of members with commas between them. -/
def membersChars (members : List (String × Json)) : List Char :=
  [','].intercalate (members.map memberChars)

theorem ofItems_eq (items : List Json) : compact.ofItems items = items.map compact := by
  induction items with
  | nil => rfl
  | cons v rest ih => rw [compact.ofItems, ih, List.map_cons]

theorem ofMembers_eq (members : List (String × Json)) :
    (compact.ofMembers members).map String.toList = members.map memberChars := by
  induction members with
  | nil => rfl
  | cons m rest ih =>
      obtain ⟨k, v⟩ := m
      rw [compact.ofMembers, List.map_cons, ih]
      simp [memberChars, quoted]

theorem compact_array (items : List Json) : (compact (.array items)).toList =
    '[' :: (itemsChars items ++ [']']) := by
  simp [compact, enclosed, ofItems_eq, itemsChars, String.toList_intercalate, Function.comp_def]

theorem compact_object (members : List (String × Json)) : (compact (.object members)).toList =
    '\x7b' :: (membersChars members ++ ['\x7d']) := by
  simp [compact, enclosed, membersChars, String.toList_intercalate, ofMembers_eq]

/-! ## One round of the reader -/

/-- What a value starts with is no blank, so the reader starts there. -/
theorem skipBlanks_opening {c : Char} (opening : Cursor.isBlank c = false) (cs : List Char)
    (offset : Nat) : (⟨c :: cs, offset⟩ : Cursor).skipBlanks = ⟨c :: cs, offset⟩ :=
  Cursor.skipBlanks_of_head fun d first => by cases first; exact opening

theorem readWord_append (ws tail : List Char) (offset : Nat) :
    ∃ stop, readWord ws ⟨ws ++ tail, offset⟩ = .ok ⟨tail, stop⟩ := by
  induction ws generalizing offset with
  | nil => exact ⟨offset, rfl⟩
  | cons w ws ih =>
      obtain ⟨stop, rest⟩ := ih (offset + 1)
      exact ⟨stop, by simp [readWord, rest]⟩

theorem ofScalar_word (ws tail : List Char) (v : Json) (fuel offset : Nat) (c : Cursor) :
    (Readout.ofScalar fuel c ((readWord ws ⟨ws ++ tail, offset⟩).map (v, ·))).Gives v tail := by
  obtain ⟨stop, read⟩ := readWord_append ws tail offset
  rw [read]
  exact ⟨rfl, stop, rfl⟩

/-- The words of JSON: what each starts with, how it goes on and what it stands for. -/
def words : List (Char × List Char × Json) :=
  [('n', ['u', 'l', 'l'], .null), ('t', ['r', 'u', 'e'], .boolean true),
    ('f', ['a', 'l', 's', 'e'], .boolean false)]

theorem words_cases {c : Char} {ws : List Char} {v : Json} (word : (c, ws, v) ∈ words) :
    (c = 'n' ∧ ws = ['u', 'l', 'l'] ∧ v = .null) ∨
      (c = 't' ∧ ws = ['r', 'u', 'e'] ∧ v = .boolean true) ∨
      (c = 'f' ∧ ws = ['a', 'l', 's', 'e'] ∧ v = .boolean false) := by
  simpa [words] using word

theorem readValue_word {c : Char} {ws : List Char} {v : Json} (word : (c, ws, v) ∈ words)
    (fuel depth offset : Nat) (rest : List Char) :
    readValue (fuel + 1) depth ⟨c :: rest, offset⟩ =
      Readout.ofScalar (fuel + 1) ⟨c :: rest, offset⟩
        ((readWord ws ⟨rest, offset + 1⟩).map (v, ·)) := by
  rw [← Cursor.drop_one c rest offset]
  unfold readValue
  dsimp only
  rcases words_cases word with ⟨rfl, rfl, rfl⟩ | ⟨rfl, rfl, rfl⟩ | ⟨rfl, rfl, rfl⟩
  · rw [skipBlanks_opening (by rfl)]
    rfl
  · rw [skipBlanks_opening (by rfl)]
    rfl
  · rw [skipBlanks_opening (by rfl)]
    rfl

theorem readValue_string (fuel depth offset : Nat) (rest : List Char) :
    readValue (fuel + 1) depth ⟨'"' :: rest, offset⟩ =
      Readout.ofScalar (fuel + 1) ⟨'"' :: rest, offset⟩
        ((readString (rest.length + 1) [] ⟨rest, offset + 1⟩).map fun r => (.string r.1, r.2)) := by
  unfold readValue
  dsimp only
  rw [skipBlanks_opening (by rfl), ← Cursor.drop_one '"' rest offset]
  rfl

/-! ## Values -/

/-- The text of a value is read as the value, whatever may follow it. -/
structure Reads (depth : Nat) (v : Json) : Prop where
  head : ∃ c rest, (compact v).toList = c :: rest ∧ Cursor.isBlank c = false ∧ c ≠ ']'
  value : ∀ {fuel : Nat}, 2 * (compact v).toList.length ≤ fuel → ∀ {tail : List Char}, Bounds tail →
    ∀ offset, (readValue fuel depth ⟨(compact v).toList ++ tail, offset⟩).Gives v tail

theorem reads_number {n : Number} (legible : n.Legible) : Reads depth (.number n) where
  head := by
    obtain ⟨d, rest, opening, opens⟩ := legible.head
    refine ⟨d, rest, opening, ?_⟩
    rcases Bool.or_eq_true _ _ ▸ opens with minus | digit
    · rw [eq_of_beq minus]
      decide
    · exact ⟨isBlank_of_isDigit digit, by rintro rfl; exact absurd digit (by decide)⟩
  value := by
    intro fuel enough tail bounds offset
    obtain ⟨d, rest, opening, -⟩ := legible.head
    cases fuel with
    | zero => simp [compact, opening] at enough
    | succ fuel => exact legible.reads bounds fuel depth offset

theorem reads_string (s : String) : Reads depth (.string s) where
  head := ⟨'"', s.toList.flatMap escaped ++ ['"'], by simp [compact, quoted, quotedChars], rfl, by decide⟩
  value := by
    intro fuel enough tail bounds offset
    have written : (compact (.string s)).toList = '"' :: (s.toList.flatMap escaped ++ ['"']) := by
      simp [compact, quoted, quotedChars]
    rw [written] at enough ⊢
    cases fuel with
    | zero => simp at enough
    | succ fuel =>
        have size := length_le_flatMap s.toList
        have room : s.toList.length < (s.toList.flatMap escaped ++ '"' :: tail).length + 1 := by
          simp only [List.length_append]
          omega
        obtain ⟨stop, read⟩ := readString_flatMap s.toList tail room [] (offset + 1)
        rw [List.cons_append, List.append_assoc, List.singleton_append, readValue_string, read]
        exact ⟨by simp [Readout.ofScalar, Readout.plain, Except.map], stop, rfl⟩

theorem reads_word {c : Char} {ws : List Char} {v : Json} (word : (c, ws, v) ∈ words) :
    Reads depth v := by
  have written : (compact v).toList = c :: ws ∧ Cursor.isBlank c = false ∧ c ≠ ']' := by
    rcases words_cases word with ⟨rfl, rfl, rfl⟩ | ⟨rfl, rfl, rfl⟩ | ⟨rfl, rfl, rfl⟩
    · exact ⟨rfl, rfl, by decide⟩
    · exact ⟨rfl, rfl, by decide⟩
    · exact ⟨rfl, rfl, by decide⟩
  refine ⟨⟨c, ws, written⟩, ?_⟩
  intro fuel enough tail bounds offset
  rw [written.1] at enough ⊢
  cases fuel with
  | zero => simp at enough
  | succ fuel =>
      rw [List.cons_append, readValue_word word]
      exact ofScalar_word _ _ _ _ _ _

/-! ## Arrays -/

theorem bounds_nil : Bounds [] := by simp [Bounds]

theorem bounds_comma (cs : List Char) : Bounds (',' :: cs) := fun c first => by
  cases first; exact .inl rfl

theorem bounds_bracket (cs : List Char) : Bounds (']' :: cs) := fun c first => by
  cases first; exact .inr (.inl rfl)

theorem bounds_brace (cs : List Char) : Bounds ('\x7d' :: cs) := fun c first => by
  cases first; exact .inr (.inr rfl)

/-- Reading came to the parts of a container and stands in front of `tail`. -/
def Ends {α : Type} (r : List α × List Outline × Option Cursor) (parts : List α)
    (tail : List Char) : Prop :=
  r.1 = parts ∧ ∃ stop, r.2.2 = some ⟨tail, stop⟩

theorem readItems_last {fuel : Nat} {c : Cursor} {v : Json}
    (given : (readValue fuel depth c).Gives v (']' :: tail)) :
    Ends (readItems (fuel + 1) depth c) [v] tail := by
  obtain ⟨value, stop, rest⟩ := given
  unfold readItems
  dsimp only
  rw [rest, value]
  dsimp only
  rw [skipBlanks_opening (by rfl)]
  dsimp only
  rw [Cursor.drop_one]
  exact ⟨rfl, _, rfl⟩

theorem readItems_comma {fuel : Nat} {c : Cursor} {v : Json} {d : Char} {cs : List Char}
    {items : List Json} (given : (readValue fuel depth c).Gives v (',' :: d :: cs))
    (solid : Cursor.isBlank d = false) (goesOn : d ≠ ']')
    (more : ∀ offset, Ends (readItems fuel depth ⟨d :: cs, offset⟩) items tail) :
    Ends (readItems (fuel + 1) depth c) (v :: items) tail := by
  obtain ⟨value, behind, rest⟩ := given
  unfold readItems
  dsimp only
  rw [rest, value]
  dsimp only
  rw [skipBlanks_opening (by rfl)]
  split
  · contradiction
  · next closing => exact absurd (List.cons.inj closing).1 (by decide)
  · rw [Cursor.drop_one, skipBlanks_opening solid]
    split
    · contradiction
    · next closing => exact absurd (List.cons.inj closing).1 goesOn
    · exact ⟨congrArg (v :: ·) (more _).1, (more _).2⟩
  · next other => exact (other _ rfl).elim

theorem itemsChars_cons (v w : Json) (items : List Json) :
    itemsChars (v :: w :: items) = (compact v).toList ++ ',' :: itemsChars (w :: items) := by
  simp [itemsChars, List.intercalate_cons_cons]

theorem itemsChars_head {v : Json} (reads : Reads depth v) (items : List Json) :
    ∃ c rest, itemsChars (v :: items) = c :: rest ∧ Cursor.isBlank c = false ∧ c ≠ ']' := by
  obtain ⟨c, rest, opening, stands⟩ := reads.head
  cases items with
  | nil => exact ⟨c, rest, by simp [itemsChars, opening], stands⟩
  | cons w items =>
      exact ⟨c, rest ++ ',' :: itemsChars (w :: items), by simp [itemsChars_cons, opening], stands⟩

/-- The text of items is read as the items, up to the closing bracket. -/
theorem readItems_spec (v : Json) (items : List Json) (reads : ∀ w ∈ v :: items, Reads depth w)
    {fuel : Nat} (enough : 2 * (itemsChars (v :: items)).length < fuel) (tail : List Char)
    (offset : Nat) :
    Ends (readItems fuel depth ⟨itemsChars (v :: items) ++ ']' :: tail, offset⟩) (v :: items) tail := by
  induction items generalizing v fuel offset with
  | nil =>
      obtain ⟨fuel, rfl⟩ : ∃ more, fuel = more + 1 := ⟨fuel - 1, by omega⟩
      have single : itemsChars [v] = (compact v).toList := by simp [itemsChars]
      rw [single] at enough ⊢
      exact readItems_last ((reads v (List.mem_cons_self ..)).value (by omega) (bounds_bracket tail) offset)
  | cons w items ih =>
      obtain ⟨here, later⟩ := List.forall_mem_cons.mp reads
      obtain ⟨fuel, rfl⟩ : ∃ more, fuel = more + 1 := ⟨fuel - 1, by omega⟩
      obtain ⟨c, rest, opening, solid, goesOn⟩ :=
        itemsChars_head (later w (List.mem_cons_self ..)) items
      have size : 2 * (compact v).toList.length ≤ fuel ∧
          2 * (itemsChars (w :: items)).length < fuel := by
        rw [itemsChars_cons, List.length_append, List.length_cons] at enough
        omega
      have more (offset : Nat) := ih w later size.2 offset
      rw [itemsChars_cons, List.append_assoc, List.cons_append]
      rw [opening, List.cons_append] at more ⊢
      exact readItems_comma (here.value size.1 (bounds_comma _) offset) solid goesOn more

/-- Behind the opening bracket of an array at `c`. -/
def readArray (fuel depth : Nat) (c inner : Cursor) : Readout :=
  match inner.rest with
  | ']' :: _ => .plain (.array []) c (inner.drop 1) []
  | [] => .damaged (fuel + 1) (.array [.fault (inner.faultNext .endInArray)]) [] c
  | _ =>
      let (items, outlines, stop) := readItems fuel depth inner
      match stop with
      | some next => .plain (.array items) c next outlines
      | none => .damaged (fuel + 1) (.array items) outlines c

theorem readValue_bracket (fuel depth : Nat) (rest : List Char) (offset : Nat) :
    readValue (fuel + 1) (depth + 1) ⟨'[' :: rest, offset⟩ =
      readArray fuel depth ⟨'[' :: rest, offset⟩ (⟨rest, offset + 1⟩ : Cursor).skipBlanks := by
  unfold readValue
  dsimp only
  rw [skipBlanks_opening (by rfl), ← Cursor.drop_one '[' rest offset]
  rfl

theorem readArray_items {c : Char} (goesOn : c ≠ ']') {fuel offset : Nat} {cs : List Char}
    (start : Cursor) {items : List Json}
    (ends : Ends (readItems fuel depth ⟨c :: cs, offset⟩) items tail) :
    (readArray fuel depth start ⟨c :: cs, offset⟩).Gives (.array items) tail := by
  obtain ⟨parts, stop, behind⟩ := ends
  unfold readArray
  split
  · next closing => exact absurd (List.cons.inj closing).1 goesOn
  · contradiction
  · dsimp only
    rw [behind, parts]
    exact ⟨rfl, stop, rfl⟩

theorem reads_array {items : List Json} (reads : ∀ v ∈ items, Reads depth v) :
    Reads (depth + 1) (.array items) where
  head := ⟨'[', _, compact_array items, rfl, by decide⟩
  value := by
    intro fuel enough tail bounds offset
    rw [compact_array] at enough ⊢
    rw [List.length_cons, List.length_append, List.length_singleton] at enough
    rw [List.cons_append, List.append_assoc, List.singleton_append]
    obtain ⟨fuel, rfl⟩ : ∃ more, fuel = more + 1 := ⟨fuel - 1, by omega⟩
    rw [readValue_bracket]
    cases items with
    | nil =>
        rw [show itemsChars [] = [] from rfl, List.nil_append, skipBlanks_opening (by rfl)]
        exact ⟨rfl, offset + 2, by simp [readArray, Readout.plain]⟩
    | cons v items =>
        obtain ⟨c, rest, opening, solid, goesOn⟩ := itemsChars_head (reads v (List.mem_cons_self ..)) items
        have room : 2 * (itemsChars (v :: items)).length < fuel := by omega
        have ends := readItems_spec v items reads room tail (offset + 1)
        rw [opening, List.cons_append] at ends ⊢
        rw [skipBlanks_opening solid]
        exact readArray_items goesOn _ ends

/-! ## Objects -/

theorem memberChars_append (k : String) (v : Json) (cs : List Char) :
    memberChars (k, v) ++ cs =
      '"' :: (k.toList.flatMap escaped ++ '"' :: ':' :: ((compact v).toList ++ cs)) := by
  simp [memberChars, quotedChars]

/-- Behind the value of a member, which is read as `r`. -/
def readBehind (fuel depth : Nat) (k : String) (keyStop : Nat) (r : Readout) :
    List (String × Json) × List Outline × Option Cursor :=
  let outline := r.outline.withKey keyStop
  match r.rest with
  | none => ([(k, r.value)], [outline], none)
  | some c =>
      let c := c.skipBlanks
      let ending (f : Fault) : List (String × Json) × List Outline × Option Cursor :=
        ([(k, r.value), ("", .fault f)], [outline, .node 0 c.offset c.offset []], none)
      match c.rest with
      | [] => ending (c.faultNext .endInObject)
      | '\x7d' :: _ => ([(k, r.value)], [outline], some (c.drop 1))
      | ',' :: _ =>
          let c := (c.drop 1).skipBlanks
          match c.rest with
          | [] => ending (c.faultNext .endInValue)
          | '"' :: _ =>
              let (members, outlines, stop) := readMembers fuel depth c
              ((k, r.value) :: members, outline :: outlines, stop)
          | '\x7d' :: _ => ending (c.faultNext .trailingComma)
          | _ => ending (c.faultNext .keyExpected)
      | _ => ending (c.faultNext .commaOrBraceExpected)

theorem readMembers_key (k : String) (fuel depth : Nat) (cs : List Char) (offset : Nat) : ∃ keyStop,
    readMembers (fuel + 1) depth ⟨'"' :: (k.toList.flatMap escaped ++ '"' :: ':' :: cs), offset⟩ =
      readBehind fuel depth k keyStop (readValue fuel depth ⟨cs, keyStop + 1⟩) := by
  have size := length_le_flatMap k.toList
  have room : k.toList.length <
      ('"' :: (k.toList.flatMap escaped ++ '"' :: ':' :: cs)).length + 1 := by
    simp only [List.length_append, List.length_cons]
    omega
  obtain ⟨stop, read⟩ := readString_flatMap k.toList (':' :: cs) room [] (offset + 1)
  refine ⟨stop, ?_⟩
  unfold readMembers
  dsimp only
  rw [skipBlanks_opening (by rfl)]
  dsimp only
  rw [Cursor.drop_one, read]
  dsimp only
  rw [skipBlanks_opening (by rfl), ← Cursor.drop_one ':' cs stop, List.reverse_nil, List.nil_append,
    String.ofList_toList]
  rfl

theorem readBehind_last {fuel : Nat} {k : String} {keyStop : Nat} {r : Readout} {v : Json}
    (given : r.Gives v ('\x7d' :: tail)) : Ends (readBehind fuel depth k keyStop r) [(k, v)] tail := by
  obtain ⟨rfl, stop, rest⟩ := given
  unfold readBehind
  dsimp only
  rw [rest]
  dsimp only
  rw [skipBlanks_opening (by rfl)]
  dsimp only
  rw [Cursor.drop_one]
  exact ⟨rfl, _, rfl⟩

theorem readBehind_comma {fuel : Nat} {k : String} {keyStop : Nat} {r : Readout} {v : Json}
    {cs : List Char} {members : List (String × Json)} (given : r.Gives v (',' :: '"' :: cs))
    (more : ∀ offset, Ends (readMembers fuel depth ⟨'"' :: cs, offset⟩) members tail) :
    Ends (readBehind fuel depth k keyStop r) ((k, v) :: members) tail := by
  obtain ⟨rfl, stop, rest⟩ := given
  unfold readBehind
  dsimp only
  rw [rest]
  dsimp only
  rw [skipBlanks_opening (by rfl)]
  split
  · contradiction
  · next closing => exact absurd (List.cons.inj closing).1 (by decide)
  · rw [Cursor.drop_one, skipBlanks_opening (by rfl)]
    exact ⟨congrArg ((k, r.value) :: ·) (more _).1, (more _).2⟩
  · next other => exact (other _ rfl).elim

theorem membersChars_cons (m n : String × Json) (members : List (String × Json)) :
    membersChars (m :: n :: members) = memberChars m ++ ',' :: membersChars (n :: members) := by
  simp [membersChars, List.intercalate_cons_cons]

theorem membersChars_head (m : String × Json) (members : List (String × Json)) :
    ∃ rest, membersChars (m :: members) = '"' :: rest := by
  cases members with
  | nil => exact ⟨_, by simp [membersChars, memberChars, quotedChars]; rfl⟩
  | cons n members => exact ⟨_, by rw [membersChars_cons, memberChars_append]⟩

theorem length_lt_memberChars (k : String) (v : Json) :
    (compact v).toList.length < (memberChars (k, v)).length := by
  simp [memberChars, quotedChars]
  omega

/-- The text of members is read as the members, up to the closing brace. -/
theorem readMembers_spec (m : String × Json) (members : List (String × Json))
    (reads : ∀ n ∈ m :: members, Reads depth n.2) {fuel : Nat}
    (enough : 2 * (membersChars (m :: members)).length < fuel) (tail : List Char) (offset : Nat) :
    Ends (readMembers fuel depth ⟨membersChars (m :: members) ++ '\x7d' :: tail, offset⟩)
      (m :: members) tail := by
  induction members generalizing m fuel offset with
  | nil =>
      obtain ⟨k, v⟩ := m
      have here : Reads depth v := reads (k, v) (List.mem_cons_self ..)
      obtain ⟨fuel, rfl⟩ : ∃ more, fuel = more + 1 := ⟨fuel - 1, by omega⟩
      have single : membersChars [(k, v)] = memberChars (k, v) := by simp [membersChars]
      have size := length_lt_memberChars k v
      rw [single] at enough ⊢
      rw [memberChars_append]
      obtain ⟨keyStop, key⟩ := readMembers_key k fuel depth ((compact v).toList ++ '\x7d' :: tail) offset
      rw [key]
      exact readBehind_last (here.value (by omega) (bounds_brace tail) _)
  | cons n members ih =>
      obtain ⟨k, v⟩ := m
      obtain ⟨here, later⟩ := List.forall_mem_cons.mp reads
      obtain ⟨fuel, rfl⟩ : ∃ more, fuel = more + 1 := ⟨fuel - 1, by omega⟩
      have size := length_lt_memberChars k v
      rw [membersChars_cons, List.length_append, List.length_cons] at enough
      have room : 2 * (membersChars (n :: members)).length < fuel := by omega
      have more (offset : Nat) := ih n later room offset
      obtain ⟨rest, opening⟩ := membersChars_head n members
      rw [membersChars_cons, List.append_assoc, memberChars_append, List.cons_append]
      rw [opening, List.cons_append] at more ⊢
      obtain ⟨keyStop, key⟩ := readMembers_key k fuel depth
        ((compact v).toList ++ ',' :: '"' :: (rest ++ '\x7d' :: tail)) offset
      rw [key]
      exact readBehind_comma (here.value (by dsimp only; omega) (bounds_comma _) _) more

/-- Behind the opening brace of an object at `c`. -/
def readObject (fuel depth : Nat) (c inner : Cursor) : Readout :=
  match inner.rest with
  | '\x7d' :: _ => .plain (.object []) c (inner.drop 1) []
  | '"' :: _ =>
      let (members, outlines, stop) := readMembers fuel depth inner
      match stop with
      | some next => .plain (.object members) c next outlines
      | none => .damaged (fuel + 1) (.object members) outlines c
  | [] => .damaged (fuel + 1) (.object [("", .fault (inner.faultNext .endInObject))]) [] c
  | _ => .damaged (fuel + 1) (.object [("", .fault (inner.faultNext .keyExpected))]) [] c

theorem readValue_brace (fuel depth : Nat) (rest : List Char) (offset : Nat) :
    readValue (fuel + 1) (depth + 1) ⟨'\x7b' :: rest, offset⟩ =
      readObject fuel depth ⟨'\x7b' :: rest, offset⟩ (⟨rest, offset + 1⟩ : Cursor).skipBlanks := by
  unfold readValue
  dsimp only
  rw [skipBlanks_opening (by rfl), ← Cursor.drop_one '\x7b' rest offset]
  rfl

theorem readObject_members {fuel offset : Nat} {cs : List Char} (start : Cursor)
    {members : List (String × Json)}
    (ends : Ends (readMembers fuel depth ⟨'"' :: cs, offset⟩) members tail) :
    (readObject fuel depth start ⟨'"' :: cs, offset⟩).Gives (.object members) tail := by
  obtain ⟨parts, stop, behind⟩ := ends
  have step : readObject fuel depth start ⟨'"' :: cs, offset⟩ =
      match (readMembers fuel depth ⟨'"' :: cs, offset⟩).2.2 with
      | some next => .plain (.object (readMembers fuel depth ⟨'"' :: cs, offset⟩).1) start next
          (readMembers fuel depth ⟨'"' :: cs, offset⟩).2.1
      | none => .damaged (fuel + 1) (.object (readMembers fuel depth ⟨'"' :: cs, offset⟩).1)
          (readMembers fuel depth ⟨'"' :: cs, offset⟩).2.1 start := rfl
  rw [step, behind, parts]
  exact ⟨rfl, stop, rfl⟩

theorem reads_object {members : List (String × Json)} (reads : ∀ m ∈ members, Reads depth m.2) :
    Reads (depth + 1) (.object members) where
  head := ⟨'\x7b', _, compact_object members, rfl, by decide⟩
  value := by
    intro fuel enough tail bounds offset
    rw [compact_object] at enough ⊢
    rw [List.length_cons, List.length_append, List.length_singleton] at enough
    rw [List.cons_append, List.append_assoc, List.singleton_append]
    obtain ⟨fuel, rfl⟩ : ∃ more, fuel = more + 1 := ⟨fuel - 1, by omega⟩
    rw [readValue_brace]
    cases members with
    | nil =>
        rw [show membersChars [] = [] from rfl, List.nil_append, skipBlanks_opening (by rfl)]
        exact ⟨rfl, offset + 2, by simp [readObject, Readout.plain]⟩
    | cons m members =>
        obtain ⟨rest, opening⟩ := membersChars_head m members
        have room : 2 * (membersChars (m :: members)).length < fuel := by omega
        have ends := readMembers_spec m members reads room tail (offset + 1)
        rw [opening, List.cons_append] at ends ⊢
        rw [skipBlanks_opening (by rfl)]
        exact readObject_members _ ends

/-! ## Every value -/

theorem Legible.reads {v : Json} (legible : Legible depth v) : Reads depth v := by
  induction legible with
  | null depth => exact reads_word (.head _)
  | boolean depth b =>
      cases b with
      | false => exact reads_word (.tail _ (.tail _ (.head _)))
      | true => exact reads_word (.tail _ (.head _))
  | number depth legible => exact reads_number legible
  | string depth s => exact reads_string s
  | array depth _ ih => exact reads_array ih
  | object depth _ ih => exact reads_object ih

theorem ofItems_eq_none {items : List Json} (sound : ∀ v ∈ items, v.firstFault? = none) :
    firstFault?.ofItems items = none := by
  induction items with
  | nil => rfl
  | cons v items ih =>
      obtain ⟨here, later⟩ := List.forall_mem_cons.mp sound
      rw [firstFault?.ofItems, here, ih later]
      rfl

theorem ofMembers_eq_none {members : List (String × Json)}
    (sound : ∀ m ∈ members, m.2.firstFault? = none) : firstFault?.ofMembers members = none := by
  induction members with
  | nil => rfl
  | cons m members ih =>
      obtain ⟨here, later⟩ := List.forall_mem_cons.mp sound
      obtain ⟨k, v⟩ := m
      rw [firstFault?.ofMembers, here, ih later]
      rfl

/-- A whole value has no fault. -/
theorem Legible.firstFault? {v : Json} (legible : Legible depth v) : v.firstFault? = none := by
  induction legible with
  | null | boolean | number | string => rfl
  | array depth _ ih => exact ofItems_eq_none ih
  | object depth _ ih => exact ofMembers_eq_none ih

/-- What is written for a value is read as the value and nothing else. -/
theorem ofText_compact {v : Json} (legible : Legible depthLimit v) :
    (ofText (compact v)).value = v ∧ (ofText (compact v)).trailing = none := by
  have room : 2 * (compact v).toList.length ≤ 2 * (compact v).toList.length + 2 := by omega
  obtain ⟨value, stop, rest⟩ := legible.reads.value room bounds_nil 0
  rw [List.append_nil] at value rest
  refine ⟨value, ?_⟩
  simp only [ofText, Cursor.ofText, rest, Option.bind_some]
  rw [Cursor.skipBlanks_of_bounds bounds_nil]
  rfl

theorem ofText?_compact {v : Json} (legible : Legible depthLimit v) : ofText? (compact v) = .ok v := by
  obtain ⟨value, trailing⟩ := ofText_compact legible
  rw [ofText?, value, trailing, legible.firstFault?]
  rfl

end LiveMarkup.Json
