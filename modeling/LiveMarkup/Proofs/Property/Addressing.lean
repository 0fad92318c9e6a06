import LiveMarkup.Proofs.Property.Survival
/-
# LiveMarkup.Proofs.Property.Addressing -- properties are listed by place and changed by name

An element lists a property with the part it stands in: an attribute or a spread by its
position, the text, or the children (`Listed`).  A patch is told a name, and what the name
addresses is the text for the reserved name and else the first attribute that is shown
under it (`addressed`).

What is listed as read-only is refused, whatever the value: a spread by its name, and
children that are no text.  Everything else is editable, and a patch changes the part that
the name addresses and nothing else (`patch_edits_addressed`).  That is the part that was
listed unless an attribute before it is shown under the same name.

Poles: an attribute that is given twice, of which the second cannot be reached, and one
under the name that is reserved for the text (`name_misses_attribute`).
-/

namespace LiveMarkup.Property

set_option autoImplicit false

open LiveMarkup.Syntax

variable {l : Language} {e e' : Markup} {p : Property} {name : String} {v : Value} {o : PatchOutcome}

/-! ## What is listed -/

/-- The properties that an element lists, each with the part it stands in. -/
inductive Listed (l : Language) (e : Markup) : Property → Prop where
  | named {as bs : List (Attribute Tree)} {n : AttributeName} {value : Option Tree} {v : Value}
      (split : e.attributes = as ++ .named n value :: bs) (shown : namedValue? l n.text value = some v) :
      Listed l e (make n.text v (.attribute as.length) false)
  | spread {as bs : List (Attribute Tree)} {t : Tree} (split : e.attributes = as ++ .spread t :: bs) :
      Listed l e (make (spreadName (l.printTree t)) (.code ("value: " ++ l.printTree t))
        (.spread as.length) true)
  | text {child : Tree} {v : Value} (only : e.children.filter isMeaningful = [child])
      (shown : childValue? l child = some v) : Listed l e (make textName v .text false)
  | children {first second : Tree} {rest : List Tree}
      (many : e.children.filter isMeaningful = first :: second :: rest) :
      Listed l e (make textName
        (.code ("\n".intercalate ((first :: second :: rest).map (childCode l)))) .children true)

theorem listed_of_mem (member : p ∈ e.properties l) : Listed l e p := by
  rw [Markup.properties, List.mem_append] at member
  rcases member with outside | inside
  · obtain ⟨as, a, bs, split, shown⟩ := of_mem_ofAttributes outside
    rw [Nat.zero_add] at shown
    cases a with
    | named n value =>
        obtain ⟨v, value, rfl⟩ := Option.map_eq_some_iff.mp shown
        exact .named split value
    | spread t =>
        obtain rfl := Option.some.inj shown
        exact .spread split
  · unfold ofChildren at inside
    split at inside
    · cases inside
    · rename_i child only
      rw [Option.mem_toList, Option.map_eq_some_iff] at inside
      obtain ⟨v, shown, rfl⟩ := inside
      exact .text only shown
    · rename_i none single
      cases meaningful : e.children.filter isMeaningful with
      | nil => exact absurd meaningful none
      | cons first others =>
          cases others with
          | nil => exact absurd meaningful (single first)
          | cons second rest =>
              rw [meaningful, List.mem_singleton] at inside
              rw [inside]
              exact .children meaningful

/-! ## What a name addresses -/

/-- The part of an element that a name addresses. -/
def addressed (name : String) (e : Markup) : Part :=
  if name = textName then .text else .attribute (e.attributes.findIdx (isShownAs name))

/-- The attributes before the part that a property stands in. -/
def earlier (e : Markup) (p : Property) : List (Attribute Tree) :=
  match p.part with
  | .attribute i => e.attributes.take i
  | _ => []

theorem earlier_make {as bs : List (Attribute Tree)} {a : Attribute Tree}
    (split : e.attributes = as ++ a :: bs) (readOnly : Bool) :
    earlier e (make name v (.attribute as.length) readOnly) = as := by
  show e.attributes.take as.length = as
  rw [split, List.take_left]

/-- An element that differs from another one in a part alone: an attribute is gone or has another
value, or there are other children between tags of another form. -/
inductive ChangedIn (e : Markup) : Part → Markup → Prop where
  | removed {as bs : List (Attribute Tree)} {n : AttributeName} {old : Option Tree}
      (split : e.attributes = as ++ .named n old :: bs) :
      ChangedIn e (.attribute as.length) { e with attributes := as ++ bs }
  | replaced {as bs : List (Attribute Tree)} {n : AttributeName} {old : Option Tree} (new : Option Tree)
      (split : e.attributes = as ++ .named n old :: bs) :
      ChangedIn e (.attribute as.length) { e with attributes := as ++ .named n new :: bs }
  | text (children : List Tree) (selfClosing : Bool) (closing : Option TagName) :
      ChangedIn e .text { e with children := children, selfClosing := selfClosing, closing := closing }

/-- The attributes before a changed one are as they were. -/
theorem ChangedIn.attribute_before {i j : Nat} (changed : ChangedIn e (.attribute i) e') (before : j < i) :
    e'.attributes[j]? = e.attributes[j]? := by
  cases changed with
  | @removed as bs n old split =>
      show (as ++ bs)[j]? = e.attributes[j]?
      rw [split, List.getElem?_append_left before, List.getElem?_append_left before]
  | @replaced as bs n old new split =>
      show (as ++ .named n new :: bs)[j]? = e.attributes[j]?
      rw [split, List.getElem?_append_left before, List.getElem?_append_left before]

theorem addressed_of_split (other : name ≠ textName) {as bs : List (Attribute Tree)} {a : Attribute Tree}
    (split : e.attributes = as ++ a :: bs) (before : ∀ b ∈ as, isShownAs name b = false)
    (shown : isShownAs name a = true) : addressed name e = .attribute as.length := by
  have none : as.findIdx (isShownAs name) = as.length := List.findIdx_eq_length_of_false before
  have found : e.attributes.findIdx (isShownAs name) = as.length := by
    rw [split, List.findIdx_append, none, if_neg (Nat.lt_irrefl _), List.findIdx_cons, shown, cond_true,
      Nat.zero_add]
  rw [addressed, if_neg other, found]

/-- The name of a listed attribute addresses it if and only if none before it has the name. -/
theorem addressed_iff {as bs : List (Attribute Tree)} {n : AttributeName} {value : Option Tree}
    (other : n.text ≠ textName) (split : e.attributes = as ++ .named n value :: bs) :
    addressed n.text e = .attribute as.length ↔ ∀ a ∈ as, isShownAs n.text a = false := by
  constructor
  · intro first a member
    rw [addressed, if_neg other, Part.attribute.injEq] at first
    by_contra shown
    -- then the search ends before the attribute
    have inside : as.findIdx (isShownAs n.text) < as.length :=
      List.findIdx_lt_length_of_exists ⟨a, member, eq_true_of_ne_false shown⟩
    rw [split, List.findIdx_append, if_pos inside] at first
    omega
  · intro before
    exact addressed_of_split other split before (beq_self_eq_true n.text)

/-! ## Patches by name -/

theorem patchStep_spread (spread : isSpreadName name = true) (v : Value) (e : Markup) :
    Markup.patchStep l name v e = (.error (.readOnly name), e) :=
  patchStep_eq_error_iff.mpr ⟨.spread spread, rfl⟩

/-- Children of which more than one is meaningful are no text. -/
theorem isTextless?_of_many {first second : Tree} {rest : List Tree}
    (many : e.children.filter isMeaningful = first :: second :: rest) : isTextless? e = none := by
  unfold isTextless?
  rw [many]
  split
  · rename_i same
    cases same
  · rename_i same
    cases same
  · rename_i same
    cases same
  · rfl

/-- An only child that shows a value is text. -/
theorem isTextless?_of_shown {child : Tree} (only : e.children.filter isMeaningful = [child])
    (shown : childValue? l child = some v) : isTextless? e = some false := by
  unfold isTextless?
  rw [only]
  unfold childValue? at shown
  split at shown
  · rfl
  · rfl
  · cases shown

/-- A text that may be changed takes every value. -/
theorem patchStep_changes_text (editable : isTextless? e = some false) (v : Value) :
    ∃ o e', Markup.patchStep l textName v e = (.ok o, e') ∧ ChangedIn e .text e' := by
  rcases textPatched_or_mixed l v e with ⟨o, children, done⟩ | mixed
  · refine ⟨o, _, patchStep_eq_ok_iff.mpr (.text rfl done), ?_⟩
    rw [Markup.withChildren_frame]
    exact .text children _ _
  · cases mixed.symm.trans editable

/-- What is done to the attributes is done to the one that the name addresses, if it is there. -/
theorem AttributesPatched.changedIn {as : List (Attribute Tree)} (other : name ≠ textName)
    (present : ∃ a ∈ e.attributes, isShownAs name a = true)
    (done : AttributesPatched l name v o e.attributes as) :
    ChangedIn e (addressed name e) { e with attributes := as } := by
  obtain ⟨a, member, shown⟩ := present
  generalize split : e.attributes = attributes at done
  cases done with
  | unchanged _ absent =>
      rw [← split] at absent
      exact absurd shown (Bool.eq_false_iff.mp (absent a member))
  | removed _ before named =>
      rw [addressed_of_split other split before (beq_iff_eq.mpr named)]
      exact .removed split
  | replaced _ before named =>
      rw [addressed_of_split other split before (beq_iff_eq.mpr named)]
      exact .replaced _ split
  | inserted _ absent =>
      rw [← split] at absent
      exact absurd shown (Bool.eq_false_iff.mp (absent a member))

/-- An attribute that is there takes every value: the first one of its name does. -/
theorem patchStep_changes_attribute (plain : isSpreadName name = false) (other : name ≠ textName)
    (present : ∃ a ∈ e.attributes, isShownAs name a = true) (v : Value) :
    ∃ o e', Markup.patchStep l name v e = (.ok o, e') ∧ ChangedIn e (addressed name e) e' := by
  rcases attributesPatched_or_invalid l name v e.attributes with ⟨o, as, done⟩ | ⟨-, absent, -⟩
  · exact ⟨o, _, patchStep_eq_ok_iff.mpr (.attributes plain other done), done.changedIn other present⟩
  · obtain ⟨a, member, shown⟩ := present
    exact absurd shown (Bool.eq_false_iff.mp (absent a member))

/-- **What is listed as read-only is refused, and what is listed as editable is edited by name.**
Of an attribute under the name that is reserved for the text nothing is said, nor of one whose
name starts like that of a spread. -/
theorem patch_edits_addressed (listed : p ∈ e.properties l) :
    (p.readOnly = true → ∀ v, Markup.patchStep l p.name v e = (.error (.readOnly p.name), e)) ∧
    (p.readOnly = false → p.part = .text ∨ p.name ≠ textName ∧ isSpreadName p.name = false →
      (∀ v, ∃ o e', Markup.patchStep l p.name v e = (.ok o, e') ∧
        ChangedIn e (addressed p.name e) e') ∧
      (addressed p.name e = p.part ↔ ∀ a ∈ earlier e p, isShownAs p.name a = false)) := by
  cases listed_of_mem listed with
  | @named as bs n value v split shown =>
      refine ⟨fun refused => ?_, fun _ own => ?_⟩
      · cases refused
      · rcases own with text | (named : n.text ≠ textName ∧ isSpreadName n.text = false)
        · cases text
        · obtain ⟨other, plain⟩ := named
          have present : ∃ a ∈ e.attributes, isShownAs n.text a = true := by
            rw [split]
            exact ⟨_, List.mem_append_right as List.mem_cons_self, beq_self_eq_true n.text⟩
          refine ⟨fun v => patchStep_changes_attribute plain other present v, ?_⟩
          rw [earlier_make split]
          exact addressed_iff other split
  | spread split =>
      refine ⟨fun _ v => patchStep_spread (isSpreadName_spreadName _) v e, fun editable => ?_⟩
      cases editable
  | text only shown =>
      refine ⟨fun refused => ?_, fun _ _ => ⟨fun v => ?_, ?_⟩⟩
      · cases refused
      · exact patchStep_changes_text (isTextless?_of_shown only shown) v
      · refine iff_of_true rfl fun a before => ?_
        cases before
  | children many =>
      refine ⟨fun _ v => ?_, fun editable => ?_⟩
      · exact patchStep_eq_error_iff.mpr ⟨.children rfl (isTextless?_of_many many), rfl⟩
      · cases editable

/-! ## Poles -/

/-- An attribute that is given twice, with a spread between, around a text. -/
def repeated : Markup :=
  ⟨.plain "b", [.named (.plain "a") (some (stringTree "1")), .spread (.leaf (.identifier "d")),
    .named (.plain "a") (some (stringTree "2"))], none, false, [.leaf (.markupText "hi" "hi")],
    some (.plain "b"), none⟩

theorem patch_edits_addressed_repeated :
    (∀ v, Markup.patchStep .standard "...d" v repeated = (.error (.readOnly "...d"), repeated)) ∧
    (∀ v, ∃ o e', Markup.patchStep .standard textName v repeated = (.ok o, e') ∧
      ChangedIn repeated .text e') ∧
    ∀ v, ∃ o e', Markup.patchStep .standard "a" v repeated = (.ok o, e') ∧
      ChangedIn repeated (.attribute 0) e' := by
  have spread : make "...d" (.code "value: d") (.spread 1) true ∈ repeated.properties .standard := by
    decide +kernel
  have text : make textName (.string "hi") .text false ∈ repeated.properties .standard := by
    decide +kernel
  have first : make "a" (.string "1") (.attribute 0) false ∈ repeated.properties .standard := by
    decide +kernel
  exact ⟨(patch_edits_addressed spread).1 rfl, ((patch_edits_addressed text).2 rfl (.inl rfl)).1,
    ((patch_edits_addressed first).2 rfl (.inr (by decide))).1⟩

/-- An attribute under the name of the text, next to a nested element. -/
def reserved : Markup :=
  ⟨.plain "b", [.named (.plain textName) (some (stringTree "x"))], none, false,
    [.element ⟨.plain "i", [], none, true, [], none, none⟩], some (.plain "b"), none⟩

/-- Refuting pole: both are listed as editable, but the one name changes the first attribute in
place of the second, and the other is refused. -/
theorem name_misses_attribute :
    (make "a" (.string "2") (.attribute 2) false ∈ repeated.properties .standard ∧
      ¬ ∃ o e', Markup.patchStep .standard "a" .null repeated = (.ok o, e') ∧
        ChangedIn repeated (.attribute 2) e') ∧
    make textName (.string "x") (.attribute 0) false ∈ reserved.properties .standard ∧
      Markup.patchStep .standard textName .null reserved = (.error (.readOnly textName), reserved) := by
  refine ⟨⟨by decide +kernel, ?_⟩, by decide +kernel, rfl⟩
  rintro ⟨o, e', patched, changed⟩
  obtain rfl : (Markup.patchStep .standard "a" .null repeated).2 = e' := congrArg Prod.snd patched
  have same := changed.attribute_before (show 0 < 2 by decide)
  cases same

end LiveMarkup.Property
