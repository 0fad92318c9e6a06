import LiveMarkup.Proofs.Property.ReadBack
/-
# LiveMarkup.Proofs.Property.WriteBack -- writing back what was read

An element shows a property with a value, and the same value is set under the same name.
The node that comes to stand there may be another one: a string loses its entities or its
container, a number its minus in front of zero, `{true}` its container, and every
expression the parentheses around it.  What is shown of it is the value that was set
(`namedValue?_attributeTree`, `childValue?_textTree`), so the list of properties is as it was
(`write_back_read`).

Code stands for an expression only through its text, so this takes of the language that the
expressions of the element are read from their text with the same text and the same value
(`Language.Recovers`).  Values that are no literals and no code are left out: a style is
written by its entries, the undefined value removes, and infinity is a name.

Pole: an attribute of each sort of value, next to text with an entity.
-/

namespace LiveMarkup

set_option autoImplicit false

open LiveMarkup.Syntax LiveMarkup.Property

/-! ## Values -/

/-- A property with its value unsigned. -/
def Property.unsigned (p : Property) : Property := { p with value := p.value.unsigned }

namespace Property

theorem unsigned_unsigned (p : Property) : p.unsigned.unsigned = p.unsigned := by
  have same : p.value.unsigned.unsigned = p.value.unsigned := by
    cases p.value with
    | number x =>
        have again : x.unsignedZero.unsignedZero = x.unsignedZero := by
          unfold Double.unsignedZero
          split
          · exact ite_self _
          · rfl
        exact congrArg Value.number again
    | _ => rfl
  rw [unsigned, unsigned, same]

theorem make_unsigned (name : String) (v : Value) (part : Part) (readOnly : Bool) :
    make name v.unsigned part readOnly = (make name v part readOnly).unsigned := by
  cases v <;> rfl

/-! ## Expressions -/

/-- An expression without the parentheses around it. -/
def unwrapped : Tree → Tree
  | .node .paren [t] => unwrapped t
  | t => t

/-- The expression in a container. -/
def contained? : Tree → Option Tree
  | .node .container [t] => some (unwrapped t)
  | _ => none

/-- The expression that is the value of an attribute: in a container, or markup by itself. -/
def attributeExpression? : Attribute Tree → Option Tree
  | .named _ (some (.element e)) => some (.element e)
  | .named _ (some (.node .fragment children)) => some (.node .fragment children)
  | .named _ (some t) => contained? t
  | _ => none

/-- Is a tree what an attribute may have for its value: a string, a container with an expression or
without one, or markup? -/
def isAttributeValue : Tree → Bool
  | .node (.string _ _) _ => true
  | .node .container [_] => true
  | .node .emptyContainer _ => true
  | .node .fragment _ => true
  | .element _ => true
  | _ => false

/-- Is an attribute one of the grammar?  Its name does not start like that of a spread. -/
def isGrammatical : Attribute Tree → Bool
  | .spread _ => true
  | .named n value => !isSpreadName n.text && value.all isAttributeValue

theorem isGrammatical_named {n : AttributeName} {value : Option Tree} :
    isGrammatical (.named n value) = true ↔
      isSpreadName n.text = false ∧ ∀ t ∈ value, isAttributeValue t = true := by
  rw [isGrammatical, Bool.and_eq_true, Bool.not_eq_true', Option.all_eq_true]
  rfl

end Property

/-- The expressions that an element shows in its attributes and as its text. -/
def Markup.expressions (e : Markup) : List Tree :=
  e.attributes.filterMap attributeExpression? ++ e.children.filterMap contained?

namespace Language

variable (l : Language)

/-- The text of an expression is read as one with the same text and the same value. -/
def Recovers (t : Tree) : Prop :=
  ∃ u ∈ l.expression? (l.printTree t), l.printTree u = l.printTree t ∧
    expressionValue l u = expressionValue l t

instance (t : Tree) : Decidable (l.Recovers t) :=
  inferInstanceAs (Decidable (∃ u ∈ l.expression? (l.printTree t), _))

/-- A value that can be written and read: a literal, a finite number, or code of an expression that
is no literal. -/
def Restores : Value → Prop
  | .undefined => False
  | .number x => x.isFinite = true
  | .code c => ∃ u ∈ l.expression? c, expressionValue l u = .code c
  | .style _ => False
  | _ => True

end Language

namespace Property

variable {l : Language} {e : Markup} {p : Property} {v : Value} {name : String} {t : Tree}

theorem expressionValue_unwrapped (l : Language) (t : Tree) :
    expressionValue l (unwrapped t) = expressionValue l t := by
  fun_induction unwrapped t with
  | case1 t ih => rw [ih, expressionValue]
  | case2 => rfl

/-- What is shown as code is shown by the text of the expression without parentheses. -/
theorem expressionValue_cases (l : Language) (t : Tree) :
    (∀ c, expressionValue l t = .code c → c = l.printTree (unwrapped t)) ∧
      ∀ s, expressionValue l t ≠ .style s := by
  fun_induction expressionValue l t with
  | case1 t ih => simpa only [unwrapped] using ih
  | case2 => exact ⟨nofun, nofun⟩
  | case3 => exact ⟨nofun, nofun⟩
  | case4 t bare named other =>
      have whole : unwrapped t = t := by
        unfold unwrapped
        split
        · rename_i t
          exact absurd rfl (bare t)
        · rfl
      rw [whole]
      unfold literalValue?
      split
      · exact ⟨nofun, nofun⟩
      · exact ⟨nofun, nofun⟩
      · exact ⟨nofun, nofun⟩
      · exact ⟨nofun, nofun⟩
      · exact ⟨fun c same => (Value.code.inj same).symm, nofun⟩

/-- The value of a recovered expression can be written and read. -/
theorem restores_of_recovers (recovers : l.Recovers (unwrapped t)) (shown : expressionValue l t = v)
    (defined : v ≠ .undefined) (finite : v.isFinite = true) : l.Restores v := by
  obtain ⟨code, style⟩ := expressionValue_cases l t
  cases v with
  | undefined => exact absurd rfl defined
  | null => trivial
  | boolean b => trivial
  | number x => exact finite
  | string s => trivial
  | code c =>
      obtain ⟨u, read, -, value⟩ := recovers
      obtain rfl := code c shown
      refine ⟨u, read, ?_⟩
      rw [value, expressionValue_unwrapped, shown]
  | style s => exact absurd shown (style s)

/-- A value that can be written and read is neither undefined nor infinite. -/
theorem finite_of_restores (restores : l.Restores v) : v ≠ .undefined ∧ v.isFinite = true := by
  cases v with
  | undefined => cases restores
  | number x => exact ⟨nofun, restores⟩
  | style s => cases restores
  | _ => exact ⟨nofun, rfl⟩

/-- A value that can be written and read is read back. -/
theorem readBack_of_restores (other : name ≠ styleName) (restores : l.Restores v) :
    (valueTree l name v).2 = none ∧ readBack l name v = v.unsigned := by
  cases v with
  | undefined => cases restores
  | code c =>
      obtain ⟨u, read, value⟩ := restores
      rw [Language.mem_expression?] at read
      refine ⟨by rw [valueTree, codeTree, read], ?_⟩
      simp only [readBack, Value.code?, codeShown, read]
      rw [expressionShown_of_ne other, value]
      rfl
  | style s => cases restores
  | _ => exact ⟨rfl, rfl⟩

/-! ## Attributes -/

/-- What an attribute of the grammar shows is a string, nothing, or the value of its expression. -/
theorem attributeValue?_cases (l : Language) (n : AttributeName) (grammatical : isAttributeValue t = true) :
    (∃ s, attributeValue? l t = some (.string s)) ∨ attributeValue? l t = none ∨
      ∃ u, unwrapped u ∈ attributeExpression? (.named n (some t)) ∧
        attributeValue? l t = some (expressionValue l u) := by
  unfold isAttributeValue at grammatical
  split at grammatical
  · rename_i s raw parts
    exact .inl ⟨s, rfl⟩
  · rename_i u
    exact .inr (.inr ⟨u, rfl, rfl⟩)
  · exact .inr (.inl rfl)
  · rename_i children
    exact .inr (.inr ⟨.node .fragment children, rfl, rfl⟩)
  · rename_i inner
    exact .inr (.inr ⟨.element inner, rfl, rfl⟩)
  · cases grammatical

/-- A value that an attribute shows can be written and read. -/
theorem restores_of_named {n : AttributeName} {value : Option Tree} (other : name ≠ styleName)
    (grammatical : ∀ t ∈ value, isAttributeValue t = true) (shown : namedValue? l name value = some v)
    (recovers : ∀ t ∈ attributeExpression? (.named n value), l.Recovers t)
    (defined : v ≠ .undefined) (finite : v.isFinite = true) : l.Restores v := by
  cases value with
  | none =>
      obtain rfl : Value.boolean true = v := Option.some.inj shown
      trivial
  | some t =>
      rw [namedValue?, if_neg other] at shown
      rcases attributeValue?_cases l n (grammatical t rfl) with ⟨s, string⟩ | absent | ⟨u, inside, value⟩
      · obtain rfl : Value.string s = v := Option.some.inj (string.symm.trans shown)
        trivial
      · cases absent.symm.trans shown
      · exact restores_of_recovers (recovers _ inside) (Option.some.inj (value.symm.trans shown))
          defined finite

/-- A value that can be written and read is shown by the attribute value it is written as. -/
theorem namedValue?_attributeTree (other : name ≠ styleName) (restores : l.Restores v) :
    (attributeTree l name v).2 = none ∧
      namedValue? l name (attributeTree l name v).1 = some v.unsigned := by
  obtain ⟨defined, finite⟩ := finite_of_restores restores
  obtain ⟨written, read⟩ := readBack_of_restores other restores
  obtain ⟨fallback, shown⟩ := attributeTree_shown (l := l) name defined finite
  exact ⟨fallback.trans written, shown.trans (congrArg some read)⟩

/-! ## Text -/

/-- A value that is shown as text can be written and read. -/
theorem restores_of_child {child : Tree} (shown : childValue? l child = some v)
    (recovers : ∀ t ∈ contained? child, l.Recovers t) (finite : v.isFinite = true) : l.Restores v := by
  unfold childValue? at shown
  split at shown
  · obtain rfl := Option.some.inj shown
    trivial
  · rename_i t
    split at shown
    · cases shown
    · rename_i defined
      obtain rfl := Option.some.inj shown
      exact restores_of_recovers (recovers _ rfl) rfl defined finite
  · cases shown

/-- A value that can be written and read is shown by the child it is written as. -/
theorem childValue?_textTree (restores : l.Restores v) :
    (textTree l v).2 = none ∧ isMeaningful (textTree l v).1 = true ∧
      childValue? l (textTree l v).1 = some v.unsigned := by
  obtain ⟨defined, finite⟩ := finite_of_restores restores
  obtain ⟨written, read⟩ := readBack_of_restores (show textName ≠ styleName by decide) restores
  obtain ⟨fallback, meaningful, shown⟩ := textTree_shown (l := l) defined finite
  have unsigned : v.unsigned ≠ .undefined := by
    cases v with
    | undefined => exact absurd rfl defined
    | _ => exact nofun
  rw [read, if_neg unsigned] at shown
  exact ⟨fallback.trans written, meaningful, shown⟩

/-! ## Properties -/

/-- The property of an only child that shows a value stands behind those of the attributes. -/
theorem properties_text {child : Tree} (only : e.children.filter isMeaningful = [child])
    (shown : childValue? l child = some v) :
    e.properties l = ofAttributes l 0 e.attributes ++ [make textName v .text false] := by
  rw [Markup.properties, only, ofChildren, shown]
  rfl

/-- Setting an attribute to a value that can be written and read puts the value in its place. -/
theorem writes_attribute {as bs : List (Attribute Tree)} {n : AttributeName} {value : Option Tree}
    (split : e.attributes = as ++ .named n value :: bs) (first : ∀ a ∈ as, isShownAs n.text a = false)
    (plain : isSpreadName n.text = false) (notText : n.text ≠ textName) (notStyle : n.text ≠ styleName)
    (restores : l.Restores v) : ∃ e', Markup.patch l n.text v e = .ok (⟨.replaced, none⟩, e') ∧
      e'.properties l = ofAttributes l 0 as ++ (make n.text v.unsigned (.attribute as.length) false ::
        (ofAttributes l (as.length + 1) bs ++ ofChildren l (e.children.filter isMeaningful))) := by
  obtain ⟨defined, -⟩ := finite_of_restores restores
  obtain ⟨written, read⟩ := namedValue?_attributeTree notStyle restores
  refine ⟨{ e with attributes := as ++ .named n (attributeTree l n.text v).1 :: bs }, ?_, ?_⟩
  · rw [patch_named split first plain notText defined, written]
  · have put : ofAttribute? l as.length (.named n (attributeTree l n.text v).1) =
        some (make n.text v.unsigned (.attribute as.length) false) := by
      rw [ofAttribute?, read, Option.map_some]
    rw [properties_split l rfl, put]
    rfl

/-- Setting a text to a value that can be written and read puts the value in its place. -/
theorem writes_text (editable : isTextless? e = some false) (restores : l.Restores v) :
    ∃ e', Markup.patch l textName v e = .ok (⟨.replaced, none⟩, e') ∧
      e'.properties l = ofAttributes l 0 e.attributes ++ [make textName v.unsigned .text false] := by
  obtain ⟨defined, -⟩ := finite_of_restores restores
  obtain ⟨written, meaningful, read⟩ := childValue?_textTree restores
  have done : TextPatched l v e _ _ := .replaced defined editable
  rw [written] at done
  have only : (e.withChildren [(textTree l v).1]).children.filter isMeaningful = [(textTree l v).1] := by
    rw [Markup.withChildren_children, List.filter_cons_of_pos meaningful, List.filter_nil]
  refine ⟨_, (Patched.text rfl done).patch, ?_⟩
  rw [properties_text only read, done.frame.2.1]

/-- A list of properties is the same when one of them is unsigned. -/
theorem same_of_unsigned {was now before after : List Property} (read : was = before ++ p :: after)
    (written : now = before ++ p.unsigned :: after) :
    now.map unsigned = was.map unsigned ∧ (p.value.unsigned = p.value → now = was) := by
  refine ⟨?_, fun exact => ?_⟩
  · rw [read, written, List.map_append, List.map_append, List.map_cons, List.map_cons, unsigned_unsigned]
  · have same : p.unsigned = p := by rw [unsigned, exact]
    rw [read, written, same]

/-- **Writing back what was read changes nothing.**  The text, or an attribute that its name
addresses, is set to the value it shows: it is replaced, no code is lost, and the properties are
as they were, with zero for negative zero, which is equal to it. -/
theorem write_back_read (listed : p ∈ e.properties l) (editable : p.readOnly = false)
    (own : p.part = .text ∨ p.name ≠ styleName ∧ p.name ≠ textName ∧
      ∀ a ∈ earlier e p, isShownAs p.name a = false)
    (defined : p.value ≠ .undefined) (finite : p.value.isFinite = true)
    (grammatical : ∀ a ∈ e.attributes, isGrammatical a = true)
    (recovers : ∀ t ∈ e.expressions, l.Recovers t) :
    ∃ e', Markup.patch l p.name p.value e = .ok (⟨.replaced, none⟩, e') ∧
      (e'.properties l).map unsigned = (e.properties l).map unsigned ∧
      (p.value.unsigned = p.value → e'.properties l = e.properties l) := by
  cases listed_of_mem listed with
  | @named as bs n value v split shown =>
      obtain ⟨notStyle, notText, first⟩ := own.resolve_left nofun
      rw [earlier_make split] at first
      have member : .named n value ∈ e.attributes := by
        rw [split]
        exact List.mem_append_right as List.mem_cons_self
      obtain ⟨plain, whole⟩ := isGrammatical_named.mp (grammatical _ member)
      have inside : ∀ t ∈ attributeExpression? (.named n value), l.Recovers t := by
        intro t expression
        exact recovers t (List.mem_append_left _ (List.mem_filterMap.mpr ⟨_, member, expression⟩))
      have restores : l.Restores v := restores_of_named notStyle whole shown inside defined finite
      obtain ⟨e', patched, written⟩ := writes_attribute split first plain notText notStyle restores
      have read := properties_split l split
      rw [ofAttribute?, shown] at read
      rw [make_unsigned] at written
      exact ⟨e', patched, same_of_unsigned read written⟩
  | spread split => cases editable
  | @text child v only shown =>
      have member : child ∈ e.children := by
        have meaningful : child ∈ e.children.filter isMeaningful := by
          rw [only]
          exact List.mem_singleton_self child
        exact List.mem_of_mem_filter meaningful
      have inside : ∀ t ∈ contained? child, l.Recovers t := by
        intro t expression
        exact recovers t (List.mem_append_right _ (List.mem_filterMap.mpr ⟨child, member, expression⟩))
      have restores : l.Restores v := restores_of_child shown inside finite
      obtain ⟨e', patched, written⟩ := writes_text (isTextless?_of_shown only shown) restores
      rw [make_unsigned] at written
      exact ⟨e', patched, same_of_unsigned (properties_text only shown) written⟩
  | children many => cases editable

/-! ## Pole -/

/-- An element with a value of each sort, and text with an entity. -/
def varied : Markup :=
  match Language.standard.expression?
    "<b on s='a&amp;b' n=\x7b-1\x7d z=\x7b-0\x7d c=\x7b(f(x))\x7d m=<i/>>5 &lt; 6</b>" with
  | some (.element e) => e
  | _ => ⟨.plain "b", [], none, true, [], none, none⟩

theorem write_back_read_varied :
    (∃ e', Markup.patch .standard "c" (.code "f(x)") varied = .ok (⟨.replaced, none⟩, e') ∧
      e'.properties .standard = varied.properties .standard) ∧
    (∃ e', Markup.patch .standard textName (.string "5 < 6") varied = .ok (⟨.replaced, none⟩, e') ∧
      e'.properties .standard = varied.properties .standard) ∧
    ∃ e', Markup.patch .standard "z" (.number Double.zero.neg) varied = .ok (⟨.replaced, none⟩, e') ∧
      (e'.properties .standard).map unsigned = (varied.properties .standard).map unsigned := by
  -- together, so that the text of the element is read only once
  obtain ⟨grammatical, recovers, code, text, zero, firstCode, firstZero⟩ :
      (∀ a ∈ varied.attributes, isGrammatical a = true) ∧
      (∀ t ∈ varied.expressions, Language.standard.Recovers t) ∧
      make "c" (.code "f(x)") (.attribute 4) false ∈ varied.properties .standard ∧
      make textName (.string "5 < 6") .text false ∈ varied.properties .standard ∧
      make "z" (.number Double.zero.neg) (.attribute 3) false ∈ varied.properties .standard ∧
      (∀ a ∈ varied.attributes.take 4, isShownAs "c" a = false) ∧
      ∀ a ∈ varied.attributes.take 3, isShownAs "z" a = false := by
    decide +kernel
  obtain ⟨e₁, patched₁, -, same₁⟩ :=
    write_back_read code rfl (.inr ⟨by decide, by decide, firstCode⟩) nofun rfl grammatical recovers
  obtain ⟨e₂, patched₂, -, same₂⟩ := write_back_read text rfl (.inl rfl) nofun rfl grammatical recovers
  obtain ⟨e₃, patched₃, same₃, -⟩ :=
    write_back_read zero rfl (.inr ⟨by decide, by decide, firstZero⟩) nofun rfl grammatical recovers
  exact ⟨⟨e₁, patched₁, same₁ rfl⟩, ⟨e₂, patched₂, same₂ rfl⟩, ⟨e₃, patched₃, same₃⟩⟩

end Property

end LiveMarkup
