import LiveMarkup.Component.Map
import LiveMarkup.Proofs.Json.Quoted
import LiveMarkup.Proofs.OrderedMap
import LiveMarkup.Proofs.Text.Ascii
import LiveMarkup.Proofs.Text.ByteOrder
/-
# LiveMarkup.Proofs.Component.Rendering -- the rendered map can be read back

A reader of its own takes a module apart that exports the component map: entries with
commas between them, a key that is a bare name or a string, a colon, and a string
(`readModule?`).  It knows nothing of how the map was rendered, and blanks may stand
between the words of an entry and around it.  What it reads off the rendered map is the map
(`readModule?_render`): every name once, in the order of the bytes, with the path it is
imported from.

A bare name ends at the colon, since a colon does not go on with a name, and a string at
its closing quote, since no quote stands unescaped inside it (`readString_flatMap`).  So
an entry is read up to its end whatever follows (`readEntry?_renderEntry`), and the
entries one after the other (`readEntries?_renderEntries`).
-/

namespace LiveMarkup.ComponentMap

set_option autoImplicit false

/-! ## Reading a module -/

/-- Behind blanks. -/
def behindBlanks (cs : List Char) : List Char := cs.dropWhile Json.Cursor.isBlank

/-- Behind a word. -/
def readWord? (word : String) (cs : List Char) : Option (List Char) :=
  word.toList.isPrefixOf? (behindBlanks cs)

/-- A string, and what is behind it. -/
def readText? (cs : List Char) : Option (String × List Char) :=
  match behindBlanks cs with
  | '"' :: rest =>
      match Json.readString (rest.length + 1) [] ⟨rest, 0⟩ with
      | .ok (s, c) => some (s, c.rest)
      | .error _ => none
  | _ => none

/-- A bare name, and what is behind it. -/
def readName? (cs : List Char) : Option (String × List Char) :=
  match behindBlanks cs with
  | c :: rest =>
      if Text.isNameStart c then
        some (String.ofList (c :: rest.takeWhile Text.isNameContinue), rest.dropWhile Text.isNameContinue)
      else none
  | [] => none

/-- A key with its value, and what is behind them. -/
def readEntry? (cs : List Char) : Option ((String × String) × List Char) := do
  let (key, cs) ← (readName? cs).or (readText? cs)
  let cs ← readWord? ":" cs
  let (value, cs) ← readText? cs
  return ((key, value), cs)

/-- Entries with commas between them up to the closing brace, and what is behind it; `fuel`
bounds how many there are. -/
def readEntries? : Nat → List Char → Option (List (String × String) × List Char)
  | 0, _ => none
  | fuel + 1, cs => do
      let (e, cs) ← readEntry? cs
      match readWord? "," cs with
      | some cs => do
          let (es, cs) ← readEntries? fuel cs
          return (e :: es, cs)
      | none => do
          let cs ← readWord? "\x7d" cs
          return ([e], cs)

/-- The entries of a module that exports the map, and nothing else. -/
def readModule? (text : String) : Option (List (String × String)) := do
  let cs ← readWord? "export const componentMap = \x7b" text.toList
  let (entries, cs) ← (readEntries? cs.length cs).or ((readWord? "\x7d" cs).map ([], ·))
  let cs ← readWord? ";" cs
  if behindBlanks cs = [] then some entries else none

/-- A quote that is not escaped ends the string, and what follows is no module. -/
example : readModule? "export const componentMap = \x7bA: \"a\"b\"\x7d;" = none := by decide

/-- Where a path behind an alias is imported from: the alias without the slashes at its end,
one slash, and the path without the slashes at its start. -/
def IsImport (importAlias relative imported : String) : Prop :=
  ∃ stem rest : List Char, ∃ trailing leading : Nat,
    importAlias.toList = stem ++ List.replicate trailing '/' ∧ stem.getLast? ≠ some '/' ∧
    relative.toList = List.replicate leading '/' ++ rest ∧ rest.head? ≠ some '/' ∧
    imported.toList = stem ++ '/' :: rest

/-! ## Words of an entry -/

section Entries

variable {c : Char} {tail : List Char}

@[simp] theorem behindBlanks_space (cs : List Char) : behindBlanks (' ' :: cs) = behindBlanks cs := rfl

@[simp] theorem behindBlanks_feed (cs : List Char) : behindBlanks ('\n' :: cs) = behindBlanks cs := rfl

theorem behindBlanks_solid (solid : Json.Cursor.isBlank c = false) (cs : List Char) :
    behindBlanks (c :: cs) = c :: cs := List.dropWhile_cons_of_neg (by simp [solid])

/-- A quoted string is read up to its closing quote. -/
theorem readText?_quoted (s : String) (tail : List Char) :
    readText? ((Json.quoted s).toList ++ tail) = some (s, tail) := by
  have shape : (Json.quoted s).toList ++ tail = '"' :: (s.toList.flatMap Json.escaped ++ '"' :: tail) := by
    simp [Json.toList_quoted]
  have enough : s.toList.length < (s.toList.flatMap Json.escaped ++ '"' :: tail).length + 1 := by
    have bound := Json.length_le_flatMap s.toList
    rw [List.length_append]
    omega
  obtain ⟨offset, read⟩ := Json.readString_flatMap s.toList tail enough [] 0
  unfold readText?
  rw [shape, behindBlanks_solid (by decide)]
  simp only [read, List.reverse_nil, List.nil_append, String.ofList_toList]

theorem readName?_quoted (s : String) (tail : List Char) :
    readName? ((Json.quoted s).toList ++ tail) = none := by
  have shape : (Json.quoted s).toList ++ tail = '"' :: (s.toList.flatMap Json.escaped ++ '"' :: tail) := by
    simp [Json.toList_quoted]
  unfold readName?
  rw [shape, behindBlanks_solid (by decide)]
  rfl

theorem isNameStart_of_bare (letter : (c.isAlpha || c == '_' || c == '$') = true) :
    Text.isNameStart c = true := by
  simp only [Bool.or_eq_true, beq_iff_eq] at letter
  rcases letter with (alphabetic | rfl) | rfl
  · obtain ⟨ascii, letter⟩ := Text.isAsciiLetter_of_isAlpha alphabetic
    simp [Text.isNameStart, ascii, letter]
  · decide
  · decide

theorem isNameContinue_of_bare (bare : (c.isAlpha || c == '_' || c == '$' || c.isDigit) = true) :
    Text.isNameContinue c = true := by
  simp only [Bool.or_eq_true, beq_iff_eq] at bare
  rcases bare with ((alphabetic | rfl) | rfl) | digit
  · obtain ⟨ascii, letter⟩ := Text.isAsciiLetter_of_isAlpha alphabetic
    simp [Text.isNameContinue, Text.isAsciiAlphanumeric, ascii, letter]
  · decide
  · decide
  · obtain ⟨ascii, digit⟩ := Text.isAsciiDigit_of_isDigit digit
    simp [Text.isNameContinue, Text.isAsciiAlphanumeric, ascii, digit]

/-- A bare name is read up to the colon. -/
theorem readName?_bare {s : String} (bare : isBareKey s = true) (tail : List Char) :
    readName? (s.toList ++ ':' :: tail) = some (s, ':' :: tail) := by
  unfold isBareKey at bare
  cases chars : s.toList with
  | nil =>
      rw [chars] at bare
      cases bare
  | cons c rest =>
      rw [chars] at bare
      obtain ⟨first, others⟩ := Bool.and_eq_true_iff.mp bare
      have start := isNameStart_of_bare first
      have solid : Json.Cursor.isBlank c = false := by
        rw [Bool.eq_false_iff]
        intro blank
        simp only [Json.Cursor.isBlank, Bool.or_eq_true, beq_iff_eq] at blank
        rcases blank with ((rfl | rfl) | rfl) | rfl <;> cases first
      have inside : ∀ x ∈ rest, Text.isNameContinue x = true :=
        fun x member => isNameContinue_of_bare (List.all_eq_true.mp others x member)
      have colon : ¬ Text.isNameContinue ':' = true := by decide
      unfold readName?
      rw [List.cons_append, behindBlanks_solid solid]
      simp only [start, if_true, List.takeWhile_append_of_pos inside, List.dropWhile_append_of_pos inside,
        List.takeWhile_cons_of_neg colon, List.dropWhile_cons_of_neg colon, List.append_nil]
      rw [← chars, String.ofList_toList]

/-! ## The entries -/

/-- A key is read as the name that it is written for. -/
theorem readKey?_keyText (key : String) (tail : List Char) :
    (readName? ((keyText key).toList ++ ':' :: tail)).or (readText? ((keyText key).toList ++ ':' :: tail)) =
      some (key, ':' :: tail) := by
  unfold keyText
  split
  · rename_i bare
    rw [readName?_bare bare, Option.some_or]
  · rw [readName?_quoted, Option.none_or, readText?_quoted]

theorem readWord?_eq_some_iff {word : String} {cs rest : List Char} :
    readWord? word cs = some rest ↔ word.toList ++ rest = behindBlanks cs :=
  List.isPrefixOf?_eq_some_iff_append_eq

theorem readName?_space (cs : List Char) : readName? (' ' :: cs) = readName? cs := rfl

theorem readText?_space (cs : List Char) : readText? (' ' :: cs) = readText? cs := rfl

variable (root : Path) (importAlias : String)

/-- An entry is read up to its end. -/
theorem readEntry?_renderEntry (e : String × Path) (tail : List Char) :
    readEntry? ((renderEntry root importAlias e).toList ++ tail) =
      some ((e.1, importPath root importAlias e.2), tail) := by
  have shape : (renderEntry root importAlias e).toList ++ tail =
      ' ' :: ' ' :: ((keyText e.1).toList ++ ':' :: ' ' ::
        ((Json.quoted (importPath root importAlias e.2)).toList ++ tail)) := by
    simp [renderEntry]
  have colon (cs : List Char) : readWord? ":" (':' :: cs) = some cs :=
    readWord?_eq_some_iff.mpr (behindBlanks_solid (by decide) cs).symm
  rw [shape]
  unfold readEntry?
  rw [readName?_space, readName?_space, readText?_space, readText?_space, readKey?_keyText]
  simp only [Option.bind_eq_bind, Option.bind_some, colon, readText?_space, readText?_quoted]
  rfl

/-- The entries of the map as they are written. -/
def renderEntries (es : List (String × Path)) : List Char :=
  (",\n".intercalate (es.map (renderEntry root importAlias))).toList

theorem renderEntries_one (e : String × Path) :
    renderEntries root importAlias [e] = (renderEntry root importAlias e).toList := by
  simp [renderEntries]

theorem renderEntries_more (e next : String × Path) (es : List (String × Path)) :
    renderEntries root importAlias (e :: next :: es) =
      (renderEntry root importAlias e).toList ++ ',' :: '\n' :: renderEntries root importAlias (next :: es) := by
  simp [renderEntries, String.intercalate_cons_cons]

theorem readEntries?_feed (fuel : Nat) (cs : List Char) :
    readEntries? fuel ('\n' :: cs) = readEntries? fuel cs := by
  cases fuel <;> rfl

/-- Entries are read one after the other, up to the closing brace. -/
theorem readEntries?_renderEntries (e : String × Path) (es : List (String × Path)) (tail : List Char)
    {fuel : Nat} (enough : (renderEntries root importAlias (e :: es)).length < fuel) :
    readEntries? fuel (renderEntries root importAlias (e :: es) ++ '\n' :: '\x7d' :: tail) =
      some ((e :: es).map fun e => (e.1, importPath root importAlias e.2), tail) := by
  induction es generalizing e fuel with
  | nil =>
      have noComma : readWord? "," ('\n' :: '\x7d' :: tail) = none := rfl
      have closing : readWord? "\x7d" ('\n' :: '\x7d' :: tail) = some tail :=
        readWord?_eq_some_iff.mpr rfl
      cases fuel with
      | zero => cases enough
      | succ fuel =>
          rw [renderEntries_one]
          simp only [readEntries?, readEntry?_renderEntry, noComma, closing, Option.bind_eq_bind,
            Option.bind_some]
          rfl
  | cons next es ih =>
      have comma (cs : List Char) : readWord? "," (',' :: cs) = some cs :=
        readWord?_eq_some_iff.mpr (behindBlanks_solid (by decide) cs).symm
      rw [renderEntries_more] at enough ⊢
      cases fuel with
      | zero => cases enough
      | succ fuel =>
          have less : (renderEntries root importAlias (next :: es)).length < fuel := by
            simp only [List.length_append, List.length_cons] at enough
            omega
          have rest := ih next less
          simp only [List.append_assoc, List.cons_append, readEntries?, readEntry?_renderEntry, comma,
            readEntries?_feed, rest, Option.bind_eq_bind, Option.bind_some]
          rfl

/-- What is read off a rendered map is what stands in it. -/
theorem readModule?_render_entries (m : ComponentMap) : readModule? (m.render root importAlias) =
    some (m.byName.entries.map fun e => (e.1, importPath root importAlias e.2)) := by
  unfold render
  cases m.byName.entries with
  | nil =>
      show readModule? "export const componentMap = \x7b\x7d;\n" = some []
      decide
  | cons e es =>
      have shape : ("export const componentMap = \x7b\n" ++
          ",\n".intercalate ((e :: es).map (renderEntry root importAlias)) ++ "\n\x7d;\n").toList =
            "export const componentMap = \x7b".toList ++
              '\n' :: (renderEntries root importAlias (e :: es) ++ '\n' :: '\x7d' :: ";\n".toList) := by
        simp [renderEntries]
      have opened (cs : List Char) : readWord? "export const componentMap = \x7b"
          ("export const componentMap = \x7b".toList ++ cs) = some cs :=
        readWord?_eq_some_iff.mpr rfl
      have enough : (renderEntries root importAlias (e :: es)).length <
          ('\n' :: (renderEntries root importAlias (e :: es) ++ '\n' :: '\x7d' :: ";\n".toList)).length := by
        simp only [List.length_append, List.length_cons]
        omega
      have read := readEntries?_renderEntries root importAlias e es ";\n".toList enough
      have ending : readWord? ";" ";\n".toList = some ['\n'] := rfl
      simp only [readModule?, shape, opened, readEntries?_feed, read, Option.bind_eq_bind, Option.bind_some,
        Option.some_or, ending]
      rfl

end Entries

/-! ## Imports -/

theorem dropSlashes_eq_iff {cs rest : List Char} : cs.dropWhile (· == '/') = rest ↔
    ∃ n, cs = List.replicate n '/' ++ rest ∧ rest.head? ≠ some '/' := by
  induction cs generalizing rest with
  | nil =>
      constructor
      · rintro rfl
        exact ⟨0, rfl, by simp⟩
      · rintro ⟨n, split, -⟩
        exact (List.append_eq_nil_iff.mp split.symm).2.symm
  | cons c cs ih =>
      by_cases slash : c = '/'
      · subst slash
        rw [List.dropWhile_cons_of_pos (by simp), ih]
        constructor
        · rintro ⟨n, rfl, solid⟩
          exact ⟨n + 1, rfl, solid⟩
        · rintro ⟨n, split, solid⟩
          cases n with
          | zero => exact absurd (congrArg List.head? split).symm solid
          | succ n => exact ⟨n, (List.cons.inj split).2, solid⟩
      · rw [List.dropWhile_cons_of_neg (by simpa using slash)]
        constructor
        · rintro rfl
          exact ⟨0, rfl, by simpa using slash⟩
        · rintro ⟨n, split, -⟩
          cases n with
          | zero => exact split
          | succ n => exact absurd (List.cons.inj split).1 slash

theorem dropEndSlashes_eq_iff {cs stem : List Char} : Text.dropEndWhile (· == '/') cs = stem ↔
    ∃ n, cs = stem ++ List.replicate n '/' ∧ stem.getLast? ≠ some '/' := by
  rw [Text.dropEndWhile, List.reverse_eq_iff, dropSlashes_eq_iff, List.head?_reverse]
  refine exists_congr fun n => and_congr_left fun _ => ?_
  rw [List.reverse_eq_iff, List.reverse_append, List.reverse_reverse, List.reverse_replicate]

theorem isImport_iff {importAlias imported : String} {root path : Path} :
    IsImport importAlias (Path.normalized (path.below root).text) imported ↔
      imported = importPath root importAlias path := by
  have spelled : (importPath root importAlias path).toList =
      Text.dropEndWhile (· == '/') importAlias.toList ++
        '/' :: (Path.normalized (path.below root).text).toList.dropWhile (· == '/') := by
    simp [importPath, trimmedAlias]
  rw [← String.toList_inj, spelled]
  constructor
  · rintro ⟨stem, rest, trailing, leading, ofAlias, solid, ofPath, solid', written⟩
    rw [dropEndSlashes_eq_iff.mpr ⟨trailing, ofAlias, solid⟩, dropSlashes_eq_iff.mpr ⟨leading, ofPath, solid'⟩]
    exact written
  · intro written
    obtain ⟨trailing, ofAlias, solid⟩ := dropEndSlashes_eq_iff.mp (Eq.refl
      (Text.dropEndWhile (· == '/') importAlias.toList))
    obtain ⟨leading, ofPath, solid'⟩ := dropSlashes_eq_iff.mp (Eq.refl
      ((Path.normalized (path.below root).text).toList.dropWhile (· == '/')))
    exact ⟨_, _, trailing, leading, ofAlias, solid, ofPath, solid', written⟩

/-- **The rendered map can be read back.**  Whatever the names, the paths and the alias hold, reading
succeeds, and it comes to every name of the map once, in the order of the bytes, each with the path
that it is imported from.  Of the map is asked what every insertion keeps, that its names are in order. -/
theorem readModule?_render (m : ComponentMap) (ordered : m.byName.Ordered) (root : Path)
    (importAlias : String) : ∃ listed,
      readModule? (m.render root importAlias) = some listed ∧
      listed.Pairwise (fun a b => Text.bytes a.1 < Text.bytes b.1) ∧
      ∀ name imported, (name, imported) ∈ listed ↔ ∃ path, m.path? name = some path ∧
        IsImport importAlias (Path.normalized (path.below root).text) imported := by
  refine ⟨_, readModule?_render_entries root importAlias m, ?_, fun name imported => ?_⟩
  · rw [List.pairwise_map]
    refine List.Pairwise.imp (fun before => ?_) ordered
    exact Text.lt_iff_bytes_lt.mp (compare_lt_iff_lt.mp before)
  · constructor
    · intro member
      obtain ⟨⟨name, path⟩, listed, same⟩ := List.mem_map.mp member
      cases same
      exact ⟨path, ordered.get?_of_mem listed Std.ReflCmp.compare_self, isImport_iff.mpr rfl⟩
    · rintro ⟨path, found, isImport⟩
      obtain ⟨name', listed, same⟩ := OrderedMap.mem_of_get? found
      obtain rfl := Std.LawfulEqCmp.eq_of_compare same
      exact List.mem_map.mpr ⟨(name, path), listed, by rw [isImport_iff.mp isImport]⟩

/-! ## Poles -/

/-- Names and paths that need quotes and escapes. -/
def prickly : ComponentMap :=
  ⟨⟨[("Card", ⟨"/p/src/card.jsx"⟩), ("My.Widget", ⟨"/p//a \"b\"\\c.tsx"⟩), ("é\n\x01", ⟨"file:///q/é.tsx"⟩)]⟩,
    .empty, []⟩

theorem readModule?_render_prickly : prickly.byName.Ordered ∧ ∃ listed,
    readModule? (prickly.render ⟨"/p"⟩ "@app//") = some listed ∧
    ("My.Widget", "@app/a \"b\"/c.tsx") ∈ listed ∧ ("é\n\x01", "@app/q/é.tsx") ∈ listed := by
  have ordered : prickly.byName.Ordered := by
    unfold OrderedMap.Ordered
    decide
  obtain ⟨listed, read, -, listed_iff⟩ := readModule?_render prickly ordered ⟨"/p"⟩ "@app//"
  refine ⟨ordered, listed, read, ?_, ?_⟩
  · exact (listed_iff _ _).mpr ⟨⟨"/p//a \"b\"\\c.tsx"⟩, by rfl, isImport_iff.mpr (by decide)⟩
  · exact (listed_iff _ _).mpr ⟨⟨"file:///q/é.tsx"⟩, by rfl, isImport_iff.mpr (by decide)⟩

end LiveMarkup.ComponentMap
