import Mathlib.Data.List.Forall2
import LiveMarkup.Property.Wire
import LiveMarkup.Proofs.Json.Fields
import LiveMarkup.Proofs.Json.RoundTrip
/-
# LiveMarkup.Proofs.Property.Wire -- the values of properties come back from JSON

`Spells v j` says that `j` is a spelling of the value `v`: an object that gives the
fields of `v` in any order and has any other members besides, and so on inside.  Every
spelling decodes to its value however it reaches the decoder (`ofJson_spelled`), and
what `toJson` writes is one of them (`spells_toJson`).

A value that the decoder has to keep before it can decode it must be readable: the style
value of an entry, whose shape decides what it is, and a content that stands before its
kind.  All other unknown members are passed over unread.
-/

namespace LiveMarkup.Property

set_option autoImplicit false

open LiveMarkup.Json

variable {origin : Origin} {j : Json}

/-! ## Code -/

/-- An object with the code among other members. -/
def SpellsCode (code : String) (j : Json) : Prop :=
  ∃ members, j = .object members ∧ Given "code" (· = .string code) members ∧ Passable members

theorem asOneString_object (type field : String) (members : List (String × Json)) :
    asOneString type field origin (.object members) =
      foldMembers (takeOne field (asString "a string")) 0 none members >>= required field := by
  rw [asOneString]
  rfl

theorem asCode_spelled {code : String} (spells : SpellsCode code j) : asCode origin j = .ok code := by
  obtain ⟨members, rfl, given, passable⟩ := spells
  rw [asCode, asOneString_object]
  have decodes (v : Json) (fit : v = .string code) : asString "a string" v = .ok code := fit ▸ rfl
  exact takeOne_run decodes given passable

/-! ## Styles -/

/-- A style value as it is written; the object of a code is read whole first. -/
def SpellsStyleValue : StyleValue → Json → Prop
  | .number x, j => j = .number (.decimal x)
  | .string s, j => j = .string s
  | .code c, j => SpellsCode c j ∧ j.firstFault? = none

theorem asStyleValue_spelled {v : StyleValue} (spells : SpellsStyleValue v j) :
    asStyleValue j = .ok v := by
  cases v with
  | number x => rw [show j = .number (.decimal x) from spells]; rfl
  | string s => rw [show j = .string s from spells]; rfl
  | code c =>
      obtain ⟨code, whole⟩ := spells
      have decoded : asCode .buffer j = .ok c := asCode_spelled code
      obtain ⟨members, rfl, -⟩ := code
      simp only [asStyleValue, asWhole, whole, bind, Except.bind, decoded]
      rfl

/-- An entry of a style: its key and its value in any order. -/
def SpellsEntry (e : StyleEntry) (j : Json) : Prop :=
  ∃ members, j = .object members ∧ Given "key" (· = .string e.key) members ∧
    Given "value" (SpellsStyleValue e.value) members ∧ Passable members

/-- What an entry of a style takes from a member. -/
def takeEntry (s : Option String × Option StyleValue) (k : String) (v : Json) :
    Option (Decoded (Option String × Option StyleValue)) :=
  if k = "key" then some ((once "key" s.1 (asString "a string") v).map fun a => (some a, s.2))
  else if k = "value" then some ((once "value" s.2 asStyleValue v).map fun a => (s.1, some a))
  else none

theorem asStyleEntry_object (members : List (String × Json)) :
    asStyleEntry origin (.object members) = do
      let s ← foldMembers takeEntry 0 (none, none) members
      let key ← required "key" s.1
      let value ← required "value" s.2
      return ⟨key, value⟩ := by
  rw [asStyleEntry]
  rfl

/-- How far an entry of a style is with its two fields. -/
def EntrySlots (e : StyleEntry) (s : Option String × Option StyleValue)
    (rest : List (String × Json)) : Prop :=
  Slot "key" (· = .string e.key) e.key s.1 rest ∧
    Slot "value" (SpellsStyleValue e.value) e.value s.2 rest

theorem takeEntry_keeps (e : StyleEntry) : Keeps takeEntry (EntrySlots e) := by
  intro s k v rest ⟨key, value⟩
  by_cases isKey : k = "key"
  · have decoded : once "key" s.1 (asString "a string") v = .ok e.key :=
      key.once isKey fun v fit => fit ▸ rfl
    have notValue : k ≠ "value" := isKey ▸ by decide
    exact .inl ⟨(some e.key, s.2), by rw [takeEntry, if_pos isKey, decoded]; rfl,
      (key.here isKey).2.2, value.other notValue⟩
  by_cases isValue : k = "value"
  · have decoded : once "value" s.2 asStyleValue v = .ok e.value :=
      value.once isValue fun v fit => asStyleValue_spelled fit
    exact .inl ⟨(s.1, some e.value), by rw [takeEntry, if_neg isKey, if_pos isValue, decoded]; rfl,
      key.other isKey, (value.here isValue).2.2⟩
  exact .inr ⟨by rw [takeEntry, if_neg isKey, if_neg isValue], key.other isKey, value.other isValue⟩

theorem asStyleEntry_spelled {e : StyleEntry} (spells : SpellsEntry e j) :
    asStyleEntry origin j = .ok e := by
  obtain ⟨members, rfl, key, value, passable⟩ := spells
  have start : EntrySlots e (none, none) members := ⟨.start key, .start value⟩
  obtain ⟨s, run, keyDone, valueDone⟩ := foldMembers_run (takeEntry_keeps e) passable 0 start
  rw [asStyleEntry_object, run]
  simp only [bind, Except.bind, keyDone.filled, valueDone.filled]
  rfl

/-- The entries of a style in their order. -/
def SpellsStyle (s : Style) (j : Json) : Prop :=
  ∃ items, j = .array items ∧ List.Forall₂ SpellsEntry s.entries items

theorem SpellsEntry.not_fault {e : StyleEntry} (spells : SpellsEntry e j) (f : Fault) : j ≠ .fault f := by
  obtain ⟨members, rfl, -⟩ := spells
  exact Json.noConfusion

theorem itemsOf_spelled {entries : List StyleEntry} {items : List Json}
    (spells : List.Forall₂ SpellsEntry entries items) (i : Nat) :
    itemsOf (asStyleEntry origin) i items = .ok entries := by
  induction spells generalizing i with
  | nil => rfl
  | cons here _ ih =>
      rw [itemsOf, asStyleEntry_spelled here, ih]
      · rfl
      · exact here.not_fault

theorem asStyle_spelled {s : Style} (spells : SpellsStyle s j) : asStyle origin j = .ok s := by
  obtain ⟨items, rfl, entries⟩ := spells
  have decoded : itemsOf (asStyleEntry origin) 0 items = .ok s.entries := itemsOf_spelled entries 0
  simp only [asStyle, asList, decoded]
  rfl

/-! ## Values -/

/-- The content of a kind that has one. -/
def SpellsContent : Value → Json → Prop
  | .undefined, _ => False
  | .null, _ => False
  | .boolean b, j => j = .boolean b
  | .number x, j => j = .number (.decimal x)
  | .string s, j => j = .string s
  | .code c, j => SpellsCode c j
  | .style s, j => SpellsStyle s j

def tagOf : Value → Tag
  | .undefined => .undefined
  | .null => .null
  | .boolean _ => .boolean
  | .number _ => .number
  | .string _ => .string
  | .code _ => .code
  | .style _ => .style

theorem asVariant_kindName (v : Value) : asVariant Tag.names (.string v.kindName) = .ok (tagOf v) := by
  cases v <;> rfl

theorem decode_spelled {v : Value} (spells : SpellsContent v j) :
    (tagOf v).decode origin j = .ok v := by
  cases v with
  | undefined | null => exact spells.elim
  | boolean b => rw [show j = .boolean b from spells]; rfl
  | number x => rw [show j = .number (.decimal x) from spells]; rfl
  | string s => rw [show j = .string s from spells]; rfl
  | code c =>
      have decoded : asCode origin j = .ok c := asCode_spelled spells
      simp only [tagOf, Tag.decode, decoded]
      rfl
  | style s =>
      have decoded : asStyle origin j = .ok s := asStyle_spelled spells
      simp only [tagOf, Tag.decode, decoded]
      rfl

/-- The content of a value among members, for a kind that has none nothing. -/
def GivesContent (v : Value) (members : List (String × Json)) : Prop :=
  if v.content?.isSome then Given "value" (SpellsContent v) members else Absent "value" members

/-- An object with the kind and the content among other members; a content in front of the
kind can be read whole. -/
structure Fields (v : Value) (members : List (String × Json)) : Prop where
  kind : Given "kind" (· = .string v.kindName) members
  content : GivesContent v members
  early : members.Pairwise fun m n => m.1 = "value" → n.1 = "kind" → m.2.firstFault? = none

/-- The spellings of a value. -/
def Spells (v : Value) (j : Json) : Prop :=
  ∃ members, j = .object members ∧ Fields v members ∧ Passable members

/-! ## Decoding a value -/

section Decoding

variable {v : Value} {m : String × Json} {rest members : List (String × Json)}

theorem GivesContent.other (given : GivesContent v (m :: rest)) (other : m.1 ≠ "value") :
    GivesContent v rest := by
  unfold GivesContent at given ⊢
  split at given
  · next some => rw [if_pos some]; exact given.of_other other
  · next none => rw [if_neg none]; exact given.tail

theorem GivesContent.here (given : GivesContent v (m :: rest)) (same : m.1 = "value") :
    SpellsContent v m.2 ∧ Absent "value" rest := by
  unfold GivesContent at given
  split at given
  · exact given.here same
  · exact absurd same given.head

theorem GivesContent.done (given : GivesContent v []) : v.content? = none := by
  unfold GivesContent at given
  split at given
  · obtain ⟨w, once, -⟩ := given
    cases once
  · next none => simpa using none

theorem Fields.other (fields : Fields v (m :: rest)) (notKind : m.1 ≠ "kind")
    (notValue : m.1 ≠ "value") : Fields v rest where
  kind := fields.kind.of_other notKind
  content := fields.content.other notValue
  early := (List.pairwise_cons.mp fields.early).2

/-- A content that is met before the kind can be read whole. -/
theorem Fields.readable (fields : Fields v (m :: rest)) (isValue : m.1 = "value") :
    m.2.firstFault? = none := by
  have notKind : m.1 ≠ "kind" := isValue ▸ by decide
  obtain ⟨kind, mem, -⟩ := (fields.kind.of_other notKind).mem
  exact (List.pairwise_cons.mp fields.early).1 _ mem isValue rfl

/-- What a value takes from its kind. -/
def takeKind (met : Met) (v : Json) : Decoded Met :=
  match met with
  | .nothing => (asVariant Tag.names v).map .tag
  | .content c => do
      let tag ← asVariant Tag.names v
      return .all (← tag.decode .buffer c)
  | _ => .error (.here (.duplicateField "kind") .key)

/-- What a value takes from its content. -/
def takeContent (origin : Origin) (met : Met) (v : Json) : Decoded Met :=
  match met with
  | .nothing => (asWhole v).map .content
  | .tag t => (t.decode origin v).map .all
  | _ => .error (.here (.duplicateField "value") .key)

/-- What a value takes from a member. -/
def takeMet (origin : Origin) (met : Met) (k : String) (v : Json) : Option (Decoded Met) :=
  if k = "kind" then some (takeKind met v)
  else if k = "value" then some (takeContent origin met v)
  else none

/-- The value of what was met in an object. -/
def Met.complete : Met → Decoded Value
  | .all v => .ok v
  | .tag t => t.alone
  | _ => .error (.here (.missingField "kind") .stop)

theorem ofJson_object (members : List (String × Json)) :
    Value.ofJson origin (.object members) =
      foldMembers (takeMet origin) 0 .nothing members >>= Met.complete := by
  rw [Value.ofJson]
  rfl

/-- How far the decoder is with a value when `rest` is left. -/
def MetSlots (v : Value) : Met → List (String × Json) → Prop
  | .nothing, rest => Fields v rest
  | .tag t, rest => t = tagOf v ∧ Absent "kind" rest ∧ GivesContent v rest
  | .content c, rest =>
      SpellsContent v c ∧ Given "kind" (· = .string v.kindName) rest ∧ Absent "value" rest
  | .all w, rest => w = v ∧ Absent "kind" rest ∧ Absent "value" rest

theorem takeKind_spec {met : Met} {w : Json} (now : MetSlots v met (("kind", w) :: rest)) :
    ∃ met', takeKind met w = .ok met' ∧ MetSlots v met' rest := by
  cases met with
  | nothing =>
      obtain ⟨written, absent⟩ := now.kind.here rfl
      obtain rfl : w = .string v.kindName := written
      have named : ("kind", Json.string v.kindName).1 ≠ "value" := ne_of_beq_false rfl
      refine ⟨.tag (tagOf v), ?_, rfl, absent, now.content.other named⟩
      rw [takeKind, asVariant_kindName]
      rfl
  | tag t => exact absurd rfl now.2.1.head
  | content c =>
      obtain ⟨content, kind, notValue⟩ := now
      obtain ⟨written, absent⟩ := kind.here rfl
      obtain rfl : w = .string v.kindName := written
      have decoded : (tagOf v).decode .buffer c = .ok v := decode_spelled content
      refine ⟨.all v, ?_, rfl, absent, notValue.tail⟩
      simp only [takeKind, asVariant_kindName, bind, Except.bind, decoded]
      rfl
  | all w => exact absurd rfl now.2.1.head

theorem takeContent_spec {met : Met} {w : Json} (now : MetSlots v met (("value", w) :: rest)) :
    ∃ met', takeContent origin met w = .ok met' ∧ MetSlots v met' rest := by
  cases met with
  | nothing =>
      obtain ⟨content, absent⟩ := now.content.here rfl
      have whole : w.firstFault? = none := now.readable rfl
      have named : ("value", w).1 ≠ "kind" := ne_of_beq_false rfl
      refine ⟨.content w, ?_, content, now.kind.of_other named, absent⟩
      rw [takeContent, asWhole, whole]
      rfl
  | tag t =>
      obtain ⟨rfl, kind, given⟩ := now
      obtain ⟨content, absent⟩ := given.here rfl
      have decoded : (tagOf v).decode origin w = .ok v := decode_spelled content
      refine ⟨.all v, ?_, rfl, kind.tail, absent⟩
      rw [takeContent, decoded]
      rfl
  | content c => exact absurd rfl now.2.2.head
  | all w => exact absurd rfl now.2.2.head

theorem takeMet_keeps (v : Value) : Keeps (takeMet origin) (MetSlots v) := by
  intro met k w rest now
  by_cases isKind : k = "kind"
  · subst isKind
    obtain ⟨met', taken, later⟩ := takeKind_spec now
    exact .inl ⟨met', by rw [takeMet, if_pos rfl, taken], later⟩
  by_cases isValue : k = "value"
  · subst isValue
    obtain ⟨met', taken, later⟩ := takeContent_spec now
    exact .inl ⟨met', by rw [takeMet, if_neg isKind, if_pos rfl, taken], later⟩
  refine .inr ⟨by rw [takeMet, if_neg isKind, if_neg isValue], ?_⟩
  cases met with
  | nothing => exact now.other isKind isValue
  | tag t => exact ⟨now.1, now.2.1.tail, now.2.2.other isValue⟩
  | content c => exact ⟨now.1, now.2.1.of_other isKind, now.2.2.tail⟩
  | all w => exact ⟨now.1, now.2.1.tail, now.2.2.tail⟩

/-- Every spelling of a value decodes to it. -/
theorem ofJson_spelled (spells : Spells v j) : Value.ofJson origin j = .ok v := by
  obtain ⟨members, rfl, fields, passable⟩ := spells
  have start : MetSlots v .nothing members := fields
  obtain ⟨met, run, done⟩ := foldMembers_run (takeMet_keeps v) passable 0 start
  rw [ofJson_object, run]
  cases met with
  | nothing => exact absurd (fun m mem => nomatch mem) done.kind.not_absent
  | tag t =>
      obtain ⟨rfl, -, given⟩ := done
      have none := given.done
      cases v with
      | undefined | null => rfl
      | boolean | number | string | code | style => cases none
  | content c => exact absurd (fun m mem => nomatch mem) done.2.1.not_absent
  | all w =>
      obtain ⟨rfl, -⟩ := done
      rfl

end Decoding

/-! ## What is written -/

theorem spells_codeJson (code : String) : SpellsCode code (codeJson code) :=
  ⟨_, rfl, ⟨_, by simp, rfl⟩, passable_cons rfl passable_nil⟩

theorem spells_styleValueJson (v : StyleValue) : SpellsStyleValue v (styleValueJson v) := by
  cases v with
  | number x => exact rfl
  | string s => exact rfl
  | code c => exact ⟨spells_codeJson c, rfl⟩

theorem skipFault?_styleValueJson (v : StyleValue) : (styleValueJson v).skipFault? = none := by
  cases v <;> rfl

theorem spells_styleEntryJson (e : StyleEntry) : SpellsEntry e (styleEntryJson e) :=
  ⟨_, rfl, ⟨_, by simp, rfl⟩, ⟨_, by simp, spells_styleValueJson e.value⟩,
    passable_cons rfl (passable_cons (skipFault?_styleValueJson e.value) passable_nil)⟩

theorem spells_styleJson (s : Style) : SpellsStyle s (styleJson s) := by
  refine ⟨_, rfl, ?_⟩
  rw [List.forall₂_map_right_iff, List.forall₂_same]
  exact fun e _ => spells_styleEntryJson e

theorem spellsContent_content? {v : Value} {c : Json} (content : v.content? = some c) :
    SpellsContent v c := by
  cases v with
  | undefined | null => cases content
  | boolean | number | string => cases content; exact rfl
  | code code => cases content; exact spells_codeJson code
  | style s => cases content; exact spells_styleJson s

theorem SpellsContent.skipFault? {v : Value} (spells : SpellsContent v j) : j.skipFault? = none := by
  cases v with
  | undefined | null => exact spells.elim
  | boolean | number | string =>
      rw [show j = _ from spells]
      rfl
  | code c =>
      obtain ⟨members, rfl, -⟩ := spells
      rfl
  | style s =>
      obtain ⟨items, rfl, -⟩ := spells
      rfl

/-- What is written for a value is a spelling of it. -/
theorem spells_toJson (v : Value) : Spells v v.toJson := by
  rw [Value.toJson]
  split
  · next none =>
      refine ⟨_, rfl, ⟨⟨_, by simp, rfl⟩, ?_, by simp⟩, passable_cons rfl passable_nil⟩
      simp [GivesContent, none, Absent]
  · next c content =>
      have spells := spellsContent_content? content
      refine ⟨_, rfl, ⟨⟨_, by simp, rfl⟩, ?_, by simp⟩,
        passable_cons rfl (passable_cons spells.skipFault? passable_nil)⟩
      rw [GivesContent, content]
      exact ⟨c, by simp, spells⟩

/-- The number of a style value is written and read exactly. -/
def StyleValue.Exact : StyleValue → Prop
  | .number x => (Number.decimal x).Legible
  | .string _ => True
  | .code _ => True

/-- Every number of a value is written and read exactly. -/
def Value.Exact : Value → Prop
  | .undefined => True
  | .null => True
  | .boolean _ => True
  | .number x => (Number.decimal x).Legible
  | .string _ => True
  | .code _ => True
  | .style s => ∀ e ∈ s.entries, StyleValue.Exact e.value

theorem legible_codeJson (depth : Nat) (code : String) : Legible (depth + 1) (codeJson code) :=
  .object depth fun m mem => by
    obtain rfl := List.mem_singleton.mp mem
    exact .string depth code

theorem legible_styleValueJson (depth : Nat) {v : StyleValue} (precise : StyleValue.Exact v) :
    Legible (depth + 1) (styleValueJson v) := by
  cases v with
  | number x => exact .number _ precise
  | string s => exact .string _ s
  | code c => exact legible_codeJson depth c

theorem legible_styleEntryJson (depth : Nat) {e : StyleEntry} (precise : StyleValue.Exact e.value) :
    Legible (depth + 2) (styleEntryJson e) := by
  refine .object (depth + 1) fun m mem => ?_
  rcases List.mem_cons.mp mem with rfl | mem
  · exact .string _ e.key
  · obtain rfl := List.mem_singleton.mp mem
    exact legible_styleValueJson depth precise

theorem legible_content {v : Value} (precise : Value.Exact v) (depth : Nat) {c : Json}
    (content : v.content? = some c) : Legible (depth + 3) c := by
  cases v with
  | undefined | null => cases content
  | boolean b => cases content; exact .boolean _ b
  | number x => cases content; exact .number _ precise
  | string s => cases content; exact .string _ s
  | code code => cases content; exact legible_codeJson _ code
  | style s =>
      cases content
      refine .array (depth + 2) fun w mem => ?_
      obtain ⟨e, entry, rfl⟩ := List.mem_map.mp mem
      exact legible_styleEntryJson depth (precise e entry)

/-- What is written for a value nests at most four deep. -/
theorem legible_toJson {v : Value} (precise : Value.Exact v) (depth : Nat) :
    Legible (depth + 4) v.toJson := by
  rw [Value.toJson]
  split
  · refine .object (depth + 3) fun m mem => ?_
    obtain rfl := List.mem_singleton.mp mem
    exact .string _ v.kindName
  · next c content =>
      refine .object (depth + 3) fun m mem => ?_
      rcases List.mem_cons.mp mem with rfl | mem
      · exact .string _ v.kindName
      · obtain rfl := List.mem_singleton.mp mem
        exact legible_content precise depth content

/-! ## Members in order -/

theorem settled_styleValueJson (v : StyleValue) : (styleValueJson v).settled = styleValueJson v := by
  cases v <;> rfl

/-- Two members in the order of their names stay where they are. -/
theorem sortedMembers_pair {k l : String} (order : k < l) (v w : Json) :
    sortedMembers [(k, v), (l, w)] = [(k, v), (l, w)] := by
  have before : ([(k, v)] : List (String × Json)).takeWhile (fun m => decide (m.1 < l)) = [(k, v)] := by
    have first : decide (k < l) = true := decide_eq_true order
    rw [List.takeWhile_cons, first]
    rfl
  unfold sortedMembers
  simp only [List.foldl_cons, List.foldl_nil, List.takeWhile_nil, List.length_nil, List.drop_nil,
    List.dropWhile_nil, List.nil_append, before]
  rfl

theorem settled_styleEntryJson (e : StyleEntry) : (styleEntryJson e).settled = styleEntryJson e := by
  simp only [styleEntryJson, Json.settled, Json.settled.ofMembers, settled_styleValueJson]
  rw [sortedMembers_pair (by decide)]

theorem settled_styleJson (s : Style) : (styleJson s).settled = styleJson s := by
  have each (entries : List StyleEntry) :
      Json.settled.ofItems (entries.map styleEntryJson) = entries.map styleEntryJson := by
    induction entries with
    | nil => rfl
    | cons e rest ih => rw [List.map_cons, Json.settled.ofItems, ih, settled_styleEntryJson]
  rw [styleJson, Json.settled, each]

theorem settled_content {v : Value} {c : Json} (content : v.content? = some c) : c.settled = c := by
  cases v with
  | undefined | null => cases content
  | boolean | number | string => cases content; rfl
  | code code => cases content; rfl
  | style s => cases content; exact settled_styleJson s

/-- The members of what is written for a value stand in the order of their names. -/
theorem settled_toJson (v : Value) : v.toJson.settled = v.toJson := by
  rw [Value.toJson]
  split
  · rfl
  · next c content =>
      simp only [Json.settled, Json.settled.ofMembers, settled_content content]
      rw [sortedMembers_pair (by decide)]

end LiveMarkup.Property
