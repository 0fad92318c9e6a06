import LiveMarkup.Command.Run
import LiveMarkup.Project.Message
import LiveMarkup.Proofs.Property.Wire
/-
# LiveMarkup.Proofs.Project.Message -- messages, edits and values come back from JSON

What an editor or a preview sends is decoded to what was sent (`wire_round_trip`): an
edit and a message from their objects, a value also from a command line, where the same
text could be taken for `undefined`, for an object with `code` or for plain text.

Neither the order of the members nor members of other names matter, with one exception:
what has to be kept before it can be decoded must be readable.  A message keeps all of
its members until its kind is known, so each of them must be.
-/

namespace LiveMarkup

set_option autoImplicit false

open LiveMarkup.Json

variable {j : Json} {origin : Origin} {members : List (String × Json)}

/-! ## Edits -/

namespace Edit

/-- The spellings of an edit: its three fields in any order among other members. -/
def Spells (e : Edit) (j : Json) : Prop :=
  ∃ members, j = .object members ∧ Given "uid" (· = .string e.uid) members ∧
    Given "name" (· = .string e.name) members ∧ Given "value" (Property.Spells e.value) members ∧
    Passable members

/-- How far the decoder is with the three fields of an edit. -/
structure Slots (e : Edit) (p : Partial) (rest : List (String × Json)) : Prop where
  uid : Slot "uid" (· = .string e.uid) e.uid p.uid rest
  name : Slot "name" (· = .string e.name) e.name p.name rest
  value : Slot "value" (Property.Spells e.value) e.value p.value rest

theorem takeField_other {k : String} (notUid : k ≠ "uid") (notName : k ≠ "name")
    (notValue : k ≠ "value") (p : Partial) (v : Json) : takeField origin p k v = none := by
  unfold takeField
  split
  · contradiction
  · contradiction
  · contradiction
  · rfl

theorem takeField_keeps (e : Edit) : Keeps (takeField origin) (Slots e) := by
  intro p k v rest now
  by_cases isUid : k = "uid"
  · have decoded : once "uid" p.uid (asString "a string") v = .ok e.uid :=
      now.uid.once isUid fun v fit => fit ▸ rfl
    have notName : k ≠ "name" := isUid ▸ by decide
    have notValue : k ≠ "value" := isUid ▸ by decide
    refine .inl ⟨{ p with uid := some e.uid }, ?_, (now.uid.here isUid).2.2, now.name.other notName,
      now.value.other notValue⟩
    subst isUid
    simp only [takeField, decoded]
    rfl
  by_cases isName : k = "name"
  · have decoded : once "name" p.name (asString "a string") v = .ok e.name :=
      now.name.once isName fun v fit => fit ▸ rfl
    have notValue : k ≠ "value" := isName ▸ by decide
    refine .inl ⟨{ p with name := some e.name }, ?_, now.uid.other isUid,
      (now.name.here isName).2.2, now.value.other notValue⟩
    subst isName
    simp only [takeField, decoded]
    rfl
  by_cases isValue : k = "value"
  · have decoded : once "value" p.value (Property.Value.ofJson origin) v = .ok e.value :=
      now.value.once isValue fun v fit => Property.ofJson_spelled fit
    refine .inl ⟨{ p with value := some e.value }, ?_, now.uid.other isUid, now.name.other isName,
      (now.value.here isValue).2.2⟩
    subst isValue
    simp only [takeField, decoded]
    rfl
  exact .inr ⟨takeField_other isUid isName isValue p v, now.uid.other isUid, now.name.other isName,
    now.value.other isValue⟩

/-- Every spelling of an edit decodes to it. -/
theorem ofJson_spelled {e : Edit} (spells : Spells e j) : ofJson origin j = .ok e := by
  obtain ⟨members, rfl, uid, name, value, passable⟩ := spells
  have start : Slots e {} members := ⟨.start uid, .start name, .start value⟩
  have keeps : Keeps (takeField origin) (Slots e) := takeField_keeps e
  obtain ⟨p, run, done⟩ := foldMembers_run keeps passable 0 start
  simp only [ofJson, run, bind, Except.bind, Partial.complete, done.uid.filled, done.name.filled,
    done.value.filled]
  rfl

theorem Spells.perm {e : Edit} {others : List (String × Json)}
    (spells : Spells e (.object members)) (order : members.Perm others) :
    Spells e (.object others) := by
  obtain ⟨_, shape, uid, name, value, passable⟩ := spells
  obtain rfl := Json.object.inj shape
  exact ⟨others, rfl, uid.perm order, name.perm order, value.perm order, passable.perm order⟩

/-- What is written for an edit is a spelling of it. -/
theorem spells_toJson (e : Edit) : Spells e e.toJson := by
  have value : e.value.toJson.skipFault? = none := by
    obtain ⟨members, shape, -⟩ := Property.spells_toJson e.value
    rw [shape]
    rfl
  exact ⟨_, rfl, ⟨_, by simp, rfl⟩, ⟨_, by simp, rfl⟩, ⟨_, by simp, Property.spells_toJson e.value⟩,
    passable_cons rfl (passable_cons rfl (passable_cons value passable_nil))⟩

theorem legible_toJson {e : Edit} (precise : Property.Value.Exact e.value) (depth : Nat) :
    Legible (depth + 5) e.toJson := by
  refine .object (depth + 4) fun m mem => ?_
  simp only [List.mem_cons, List.not_mem_nil, or_false] at mem
  rcases mem with rfl | rfl | rfl
  · exact .string _ e.uid
  · exact .string _ e.name
  · exact Property.legible_toJson precise depth

end Edit

/-! ## Messages -/

theorem whole_of_asString {expected s : String} {v : Json} (decoded : asString expected v = .ok s) :
    v.firstFault? = none := by
  induction v using asString.induct with
  | case1 t => rfl
  | case2 v skipped ih => exact ih decoded
  | case3 v notString notCut =>
      cases v with
      | string t => exact (notString t rfl).elim
      | cut w skipped => exact (notCut w skipped rfl).elim
      | null | boolean | number | array | object | fault => cases decoded

theorem whole_of_asVariant {α : Type} {names : List (String × α)} {v : Json} {a : α}
    (decoded : asVariant names v = .ok a) : v.firstFault? = none := by
  rw [asVariant] at decoded
  cases given : asString "variant identifier" v with
  | ok s => exact whole_of_asString given
  | error f => rw [given] at decoded; cases decoded

theorem whole_of_asWhole {v w : Json} (decoded : asWhole v = .ok w) : v.firstFault? = none := by
  rw [asWhole] at decoded
  split at decoded
  · cases decoded
  · next none => exact none

namespace Message

def tag : Message → Tag
  | select _ => .select
  | designMode _ => .designMode

def kindName : Message → String
  | select _ => selectName
  | designMode _ => designModeName

/-- What the field besides the kind holds. -/
def fieldJson : Message → Json
  | select uid => .string uid
  | designMode active => .boolean active

/-- The spellings of a message: its kind and its field in any order among other members,
all of which can be read whole. -/
def Spells (m : Message) (j : Json) : Prop :=
  ∃ members, j = .object members ∧ Given "type" (· = .string m.kindName) members ∧
    Given m.tag.field (· = m.fieldJson) members ∧ Passable members ∧
    ∀ n ∈ members, n.2.firstFault? = none

theorem asVariant_kindName (m : Message) : asVariant Tag.names (.string m.kindName) = .ok m.tag := by
  cases m <;> rfl

theorem decodeField_fieldJson (m : Message) : m.tag.decodeField m.fieldJson = .ok m := by
  cases m <;> rfl

/-- The name of a member that is not the kind. -/
def isOther (n : String × Json) : Bool := n.1 != "type"

/-- How far the decoder is with the kind of a message and with keeping its other members. -/
structure Slots (m : Message) (members : List (String × Json))
    (s : Option Tag × List (String × Json)) (rest : List (String × Json)) : Prop where
  kind : Slot "type" (· = .string m.kindName) m.tag s.1 rest
  kept : s.2 ++ rest.filter isOther = members.filter isOther
  whole : ∀ n ∈ rest, n.2.firstFault? = none

theorem splitMembers_keeps (m : Message) (members : List (String × Json)) :
    Keeps splitMembers (Slots m members) := by
  intro s k v rest now
  have later : ∀ n ∈ rest, n.2.firstFault? = none := fun n mem => now.whole n (List.mem_cons_of_mem _ mem)
  by_cases isType : k = "type"
  · have decoded : once "type" s.1 (asVariant Tag.names) v = .ok m.tag :=
      now.kind.once isType fun v fit => fit ▸ asVariant_kindName m
    refine .inl ⟨(some m.tag, s.2), ?_, (now.kind.here isType).2.2, ?_, later⟩
    · rw [splitMembers, if_pos isType, decoded]
      rfl
    · have kept := now.kept
      rwa [List.filter_cons_of_neg (by simp [isOther, isType])] at kept
  · have whole : v.firstFault? = none := now.whole (k, v) (List.mem_cons_self ..)
    refine .inl ⟨(s.1, s.2 ++ [(k, v)]), ?_, now.kind.other isType, ?_, later⟩
    · rw [splitMembers, if_neg isType, asWhole, whole]
      rfl
    · have kept := now.kept
      rw [List.filter_cons_of_pos (by simp [isOther, isType])] at kept
      rw [List.append_assoc]
      exact kept

theorem decodeMembers_object (t : Tag) (members : List (String × Json)) :
    t.decodeMembers members =
      foldMembers (takeOne t.field t.decodeField) 0 none members >>= required t.field := by
  rw [Tag.decodeMembers]
  rfl

/-- Every spelling of a message decodes to it. -/
theorem ofJson_spelled {m : Message} (spells : Spells m j) : ofJson j = .ok m := by
  obtain ⟨members, rfl, kind, field, passable, whole⟩ := spells
  have start : Slots m members (none, []) members := ⟨.start kind, rfl, whole⟩
  obtain ⟨s, run, done⟩ := foldMembers_run (splitMembers_keeps m members) passable 0 start
  have kept : s.2 = members.filter isOther := by simpa using done.kept
  have apart (v : Json) : isOther (m.tag.field, v) = true := by cases m <;> rfl
  have decodes (v : Json) (fit : v = m.fieldJson) : m.tag.decodeField v = .ok m :=
    fit ▸ decodeField_fieldJson m
  have decoded : m.tag.decodeMembers (members.filter isOther) = .ok m := by
    rw [decodeMembers_object]
    exact takeOne_run decodes (field.filter apart) (passable.filter isOther)
  simp only [ofJson, run, bind, Except.bind, done.kind.filled, required, kept, decoded]

theorem Spells.perm {m : Message} {others : List (String × Json)}
    (spells : Spells m (.object members)) (order : members.Perm others) :
    Spells m (.object others) := by
  obtain ⟨_, shape, kind, field, passable, whole⟩ := spells
  obtain rfl := Json.object.inj shape
  exact ⟨others, rfl, kind.perm order, field.perm order, passable.perm order,
    fun n mem => whole n (order.mem_iff.mpr mem)⟩

/-- What is written for a message is a spelling of it. -/
theorem spells_toJson (m : Message) : Spells m m.toJson := by
  cases m with
  | select uid =>
      exact ⟨_, rfl, ⟨.string selectName, by simp, rfl⟩, ⟨.string uid, by simp [tag, Tag.field], rfl⟩,
        passable_cons rfl (passable_cons rfl passable_nil), by simp [Json.firstFault?]⟩
  | designMode active =>
      exact ⟨_, rfl, ⟨.string designModeName, by simp, rfl⟩,
        ⟨.boolean active, by simp [tag, Tag.field], rfl⟩,
        passable_cons rfl (passable_cons rfl passable_nil), by simp [Json.firstFault?]⟩

theorem whole_of_splitMembers {s s' : Option Tag × List (String × Json)} {k : String} {v : Json}
    {d : Decoded (Option Tag × List (String × Json))} (taken : splitMembers s k v = some d)
    (decoded : d = .ok s') : v.firstFault? = none := by
  subst decoded
  have step := Option.some.inj taken
  split at step
  · cases given : once "type" s.1 (asVariant Tag.names) v with
    | error f => rw [given] at step; cases step
    | ok t =>
        unfold once at given
        split at given
        · cases given
        · exact whole_of_asVariant given
  · cases given : asWhole v with
    | error f => rw [given] at step; cases step
    | ok w => exact whole_of_asWhole given

theorem whole_of_foldMembers {members : List (String × Json)} {i : Nat}
    {s s' : Option Tag × List (String × Json)}
    (run : foldMembers splitMembers i s members = .ok s') : firstFault?.ofMembers members = none := by
  induction members generalizing i s with
  | nil => rfl
  | cons n rest ih =>
      obtain ⟨k, v⟩ := n
      by_cases broken : ∃ f, v = .fault f
      · obtain ⟨f, rfl⟩ := broken
        cases run
      have sound (f : Fault) : v ≠ .fault f := fun same => broken ⟨f, same⟩
      obtain ⟨d, taken⟩ : ∃ d, splitMembers s k v = some d := ⟨_, rfl⟩
      rw [foldMembers.eq_3 _ _ _ _ _ _ sound, taken] at run
      cases d with
      | error f => cases run
      | ok s' =>
          have here : v.firstFault? = none := whole_of_splitMembers taken rfl
          rw [firstFault?.ofMembers, here]
          exact ih run

/-- A message is taken only from a value that is whole. -/
theorem whole_of_ofJson {m : Message} {j : Json} (decoded : ofJson j = .ok m) :
    j.firstFault? = none := by
  induction j using ofJson.induct with
  | case1 v skipped ih => exact ih decoded
  | case2 members =>
      rw [ofJson] at decoded
      cases run : foldMembers splitMembers 0 (none, []) members with
      | error f => rw [run] at decoded; cases decoded
      | ok s => exact whole_of_foldMembers run
  | case3 => cases decoded
  | case4 f rest => cases decoded
  | case5 v rest notFault =>
      rw [ofJson] at decoded
      · cases kind : asVariant Tag.names v with
        | error f => rw [kind] at decoded; cases decoded
        | ok t =>
            cases others : asWhole (.array rest) with
            | error f => rw [kind, others] at decoded; cases decoded
            | ok w =>
                have later : firstFault?.ofItems rest = none := whole_of_asWhole others
                rw [Json.firstFault?, firstFault?.ofItems, whole_of_asVariant kind, later]
                rfl
      · exact notFault
  | case6 v notCut notObject notArray =>
      cases v with
      | cut w skipped => exact (notCut w skipped rfl).elim
      | object members => exact (notObject members rfl).elim
      | array items => exact (notArray items rfl).elim
      | null | boolean | number | string | fault => cases decoded

theorem legible_toJson (m : Message) (depth : Nat) : Legible (depth + 1) m.toJson := by
  cases m with
  | select uid =>
      refine .object depth fun n mem => ?_
      simp only [List.mem_cons, List.not_mem_nil, or_false] at mem
      rcases mem with rfl | rfl
      · exact .string _ _
      · exact .string _ _
  | designMode active =>
      refine .object depth fun n mem => ?_
      simp only [List.mem_cons, List.not_mem_nil, or_false] at mem
      rcases mem with rfl | rfl
      · exact .string _ _
      · exact .boolean _ _

end Message

/-! ## Texts -/

/-- A text is decoded as its value is when nothing follows the value. -/
theorem decodeText_ok {α : Type} {d : Json → Decoded α} {s : String} {a : α}
    (decoded : d (ofText s).value = .ok a) (ended : (ofText s).trailing = none) :
    decodeText d s = .ok a := by
  simp only [decodeText, decoded, ended, bind, Except.bind]
  rfl

theorem decodeText_compact {α : Type} {d : Json → Decoded α} {a : α}
    (legible : Legible depthLimit j) (decoded : d j = .ok a) : decodeText d (compact j) = .ok a := by
  obtain ⟨value, ended⟩ := ofText_compact legible
  exact decodeText_ok (by rw [value, decoded]) ended

/-- What is written for a value is no word of the command line and has no code of its own. -/
theorem toJson_shape (v : Property.Value) : ∃ members, v.toJson = .object members ∧
    Json.get? "code" (.object members) = none := by
  rw [Property.Value.toJson]
  split
  · exact ⟨_, rfl, by simp [Json.get?]⟩
  · exact ⟨_, rfl, by simp [Json.get?]⟩

theorem parseValue_compact {v : Property.Value} (precise : Property.Value.Exact v) :
    Command.parseValue (compact v.toJson) = .ok v := by
  obtain ⟨members, shape, noCode⟩ := toJson_shape v
  have notWord : compact v.toJson ≠ "undefined" := by
    intro word
    have chars := congrArg String.toList word
    rw [shape, compact_object] at chars
    exact absurd (List.cons.inj chars).1 (by decide)
  have read : ofText? (compact v.toJson) = .ok v.toJson :=
    ofText?_compact (Property.legible_toJson precise 123)
  have decoded : Property.Value.ofJson .value (.object members) = .ok v :=
    Property.ofJson_spelled (shape ▸ Property.spells_toJson v)
  simp only [Command.parseValue, if_neg notWord, read, Property.settled_toJson]
  rw [shape]
  simp only [noCode, decoded]

/-- A text that is taken for a message has no fault, in no member of it. -/
theorem Message.whole_of_decodeText {s : String} {m : Message}
    (decoded : decodeText Message.ofJson s = .ok m) : (ofText s).value.firstFault? = none := by
  rw [decodeText] at decoded
  cases given : Message.ofJson (ofText s).value with
  | error f => rw [given] at decoded; cases decoded
  | ok m => exact Message.whole_of_ofJson given

/-- Values, edits and messages come back from what is written for them, values from the
command line as well.  They come back from every text that spells them, in whatever
order it gives the fields and whatever else it holds.  What a text spells is seen from
its value, and the text of every whole value that does not nest too deep has that value. -/
theorem wire_round_trip :
    (∀ v : Property.Value, Property.Value.Exact v →
      decodeText (Property.Value.ofJson .text) (compact v.toJson) = .ok v ∧
        Command.parseValue (compact v.toJson) = .ok v) ∧
    (∀ e : Edit, Property.Value.Exact e.value →
      decodeText (Edit.ofJson .text) (compact e.toJson) = .ok e) ∧
    (∀ m : Message, decodeText Message.ofJson (compact m.toJson) = .ok m) ∧
    (∀ s : String, (ofText s).trailing = none →
      (∀ v, Property.Spells v (ofText s).value →
        decodeText (Property.Value.ofJson .text) s = .ok v) ∧
      (∀ e, Edit.Spells e (ofText s).value → decodeText (Edit.ofJson .text) s = .ok e) ∧
      (∀ m, Message.Spells m (ofText s).value → decodeText Message.ofJson s = .ok m)) ∧
    (∀ j, Legible depthLimit j →
      (ofText (compact j)).value = j ∧ (ofText (compact j)).trailing = none) := by
  refine ⟨fun v precise => ⟨?_, parseValue_compact precise⟩, fun e precise => ?_, fun m => ?_,
    fun s ended => ⟨fun v spells => ?_, fun e spells => ?_, fun m spells => ?_⟩,
    fun j legible => ofText_compact legible⟩
  · exact decodeText_compact (Property.legible_toJson precise 123)
      (Property.ofJson_spelled (Property.spells_toJson v))
  · exact decodeText_compact (Edit.legible_toJson precise 122) (Edit.ofJson_spelled (Edit.spells_toJson e))
  · exact decodeText_compact (Message.legible_toJson m 126)
      (Message.ofJson_spelled (Message.spells_toJson m))
  · exact decodeText_ok (Property.ofJson_spelled spells) ended
  · exact decodeText_ok (Edit.ofJson_spelled spells) ended
  · exact decodeText_ok (Message.ofJson_spelled spells) ended

/-- An edit with all of its members the other way round and others between them. -/
theorem wire_round_trip_reordered : ∃ (e : Edit) (j : Json), j ≠ e.toJson ∧
    Property.Value.Exact e.value ∧ Legible depthLimit j ∧ (ofText (compact j)).trailing = none ∧
    Edit.Spells e (ofText (compact j)).value ∧
    decodeText (Edit.ofJson .text) (compact j) = .ok e ∧
    Command.parseValue (compact e.value.toJson) = .ok e.value := by
  let x : Double := Double.ofDecimal false 15 (-1)
  let e : Edit := ⟨"u", "opacity", .number x⟩
  let inner : List (String × Json) :=
    [("value", .number (.decimal x)), ("note", .null), ("kind", .string "number")]
  let j : Json := .object [("value", .object inner), ("note", .array [.boolean true]),
    ("name", .string "opacity"), ("uid", .string "u")]
  have written : (Number.decimal x).Legible := by decide +kernel
  have precise : Property.Value.Exact e.value := written
  have legibleInner : Legible 126 (.object inner) := by
    refine .object 125 ?_
    simp only [inner, List.forall_mem_cons]
    exact ⟨.number _ written, .null _, .string _ _, List.forall_mem_nil _⟩
  have legible : Legible depthLimit j := by
    refine .object 126 ?_
    simp only [List.forall_mem_cons]
    refine ⟨legibleInner, .array 125 ?_, .string _ _, .string _ _, List.forall_mem_nil _⟩
    exact fun v mem => List.mem_singleton.mp mem ▸ .boolean _ true
  have spellsInner : Property.Spells e.value (.object inner) := by
    refine ⟨inner, rfl, ⟨⟨.string "number", by simp [inner], rfl⟩, ?_, ?_⟩,
      passable_cons rfl (passable_cons rfl (passable_cons rfl passable_nil))⟩
    · exact ⟨.number (.decimal x), by simp [inner], rfl⟩
    · simp [inner, Json.firstFault?]
  have spells : Edit.Spells e j :=
    ⟨_, rfl, ⟨.string "u", by simp, rfl⟩, ⟨.string "opacity", by simp, rfl⟩,
      ⟨.object inner, by simp, spellsInner⟩,
      passable_cons rfl (passable_cons rfl (passable_cons rfl (passable_cons rfl passable_nil)))⟩
  obtain ⟨value, ended⟩ := wire_round_trip.2.2.2.2 j legible
  refine ⟨e, j, ?_, precise, legible, ended, value.symm ▸ spells, ?_, ?_⟩
  · simp [e, j, Edit.toJson]
  · exact (wire_round_trip.2.2.2.1 (compact j) ended).2.1 e (value.symm ▸ spells)
  · exact (wire_round_trip.1 e.value precise).2

/-- The characters of a message with a member of 127 arrays in each other. -/
def deepChars : List Char :=
  "\x7b\"type\":\"codepress-set-design-mode\",\"active\":true,\"x\":".toList ++
    (List.replicate 127 '[' ++ (List.replicate 127 ']' ++ ['\x7d']))

theorem deepChars_damaged :
    (readValue (2 * deepChars.length + 2) depthLimit ⟨deepChars, 0⟩).value.firstFault?.isSome = true := by
  decide +kernel

/-- A message is decoded without a member that it is not decoded with, unknown as it is. -/
theorem deep_member_refused :
    decodeText Message.ofJson (compact (Message.designMode true).toJson) = .ok (.designMode true) ∧
      decodeText Message.ofJson (String.ofList deepChars) ≠ .ok (.designMode true) := by
  refine ⟨by decide +kernel, fun taken => ?_⟩
  have whole := Message.whole_of_decodeText taken
  simp only [ofText, Cursor.ofText, String.toList_ofList] at whole
  have damaged := deepChars_damaged
  rw [whole] at damaged
  cases damaged

end LiveMarkup
