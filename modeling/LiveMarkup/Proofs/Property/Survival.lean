import LiveMarkup.Proofs.Markup.Equality
import LiveMarkup.Proofs.Markup.Place
import LiveMarkup.Proofs.Markup.Rereading
import LiveMarkup.Proofs.Markup.Shape
import LiveMarkup.Proofs.Property.Cases
/-
# LiveMarkup.Proofs.Property.Survival -- strings that come back from the text

A string is set as an attribute or as the text of an element, the tree is printed, and the
text is read again.  What the element then shows is the string itself only if nothing was
lost on the way, and `attribute_survives_iff` and `text_survives_iff` say exactly when that is.

An attribute loses a string that stands between its quotes as a literal with escapes, for
an attribute does not know escapes.  Text loses the carriage return in front of a line
feed.  Any other string is written as a literal of a script and comes back, unless it spells
the half of a surrogate pair.

Poles: quotes and a line feed, which come back, a line separator, which an attribute loses
(`separator_lost_in_attribute`), and a carriage return, which text loses (`return_lost_in_text`).
-/

namespace LiveMarkup.Property

set_option autoImplicit false

open LiveMarkup.Syntax

/-- The string that comes back when it was set as an attribute. -/
def rereadAttribute (s : String) : String :=
  if fitsAttribute s then markupString (stringLiteral s) else scriptString (stringLiteral s)

/-- Does a string come back when it was set as an attribute? -/
def survivesInAttribute (s : String) : Bool :=
  if fitsAttribute s then s.toList.all fun c => !needsEscape c else keepsHalves s.toList

/-- Does a string come back when it was set as the text? -/
def survivesAsText (s : String) : Bool :=
  if fitsText s then !decide (['\r', '\n'] <:+: s.toList) else keepsHalves s.toList

theorem rereadAttribute_eq_iff (s : String) : rereadAttribute s = s ↔ survivesInAttribute s = true := by
  unfold rereadAttribute survivesInAttribute
  split
  · rename_i fits
    have plain : ∀ c ∈ s.toList, c ≠ '"' ∧ c ≠ '\\' ∧ c ≠ '&' := by
      intro c member
      have allowed := List.all_eq_true.mp fits c member
      simp only [Bool.and_eq_true, bne_iff_ne] at allowed
      exact ⟨allowed.1.1.1.1, allowed.1.1.1.2, allowed.1.1.2⟩
    rw [markupString_stringLiteral plain]
    simp
  · exact scriptString_stringLiteral s

/-! ## Elements -/

/-- What is read back at the place of an element. -/
theorem element_of_reread {m d : Module} (read : d.bare = m.reread) {i : Nat} {e : Markup}
    (stands : m.elements[i]? = some e) : ∃ e', d.elements[i]? = some e' ∧ e'.bare = e.reread := by
  have same : (d.elements.map Markup.bare)[i]? = (m.elements.map Markup.reread)[i]? := by
    rw [Module.elements_of_reread read]
  rw [List.getElem?_map, List.getElem?_map, stands, Option.map_some, Option.map_eq_some_iff] at same
  exact same

/-! ## Attributes -/

section Attributes

variable {l : Language} {name s : String} {e : Markup}

theorem ofAttributes_append (l : Language) (i : Nat) (as bs : List (Attribute Tree)) :
    ofAttributes l i (as ++ bs) = ofAttributes l i as ++ ofAttributes l (i + as.length) bs := by
  induction as generalizing i with
  | nil => rfl
  | cons a as ih =>
      rw [List.cons_append, ofAttributes, ofAttributes, ih, List.append_assoc, List.length_cons,
        Nat.add_right_comm, Nat.add_assoc]

/-- The properties before an attribute, of it, and after it. -/
theorem properties_split (l : Language) {as bs : List (Attribute Tree)} {a : Attribute Tree}
    (split : e.attributes = as ++ a :: bs) :
    e.properties l = ofAttributes l 0 as ++ ((ofAttribute? l as.length a).toList ++
      (ofAttributes l (as.length + 1) bs ++ ofChildren l (e.children.filter isMeaningful))) := by
  rw [Markup.properties, split, ofAttributes_append, Nat.zero_add, ofAttributes, List.append_assoc,
    List.append_assoc]

/-- A property of attributes is that of one of them, by its position. -/
theorem of_mem_ofAttributes {p : Property} {i : Nat} {attributes : List (Attribute Tree)}
    (member : p ∈ ofAttributes l i attributes) :
    ∃ as a bs, attributes = as ++ a :: bs ∧ ofAttribute? l (i + as.length) a = some p := by
  induction attributes generalizing i with
  | nil => cases member
  | cons a attributes ih =>
      rw [ofAttributes, List.mem_append, Option.mem_toList] at member
      rcases member with here | later
      · exact ⟨[], a, attributes, rfl, here⟩
      · obtain ⟨as, b, bs, rfl, shown⟩ := ih later
        refine ⟨a :: as, b, bs, rfl, ?_⟩
        rwa [List.length_cons, Nat.add_comm as.length, ← Nat.add_assoc]

/-- The name of a spread is the name of no attribute. -/
theorem isSpreadName_spreadName (code : String) : isSpreadName (spreadName code) = true := by
  unfold isSpreadName spreadName
  split <;> simp [List.isPrefixOf]

/-- What is not shown under a name is not listed under it. -/
theorem ofAttributes_unshown (plain : isSpreadName name = false) {as : List (Attribute Tree)}
    (others : ∀ a ∈ as, isShownAs name a = false) (i : Nat) :
    ∀ q ∈ ofAttributes l i as, q.name ≠ name := by
  intro q listed
  obtain ⟨front, a, back, rfl, shown⟩ := of_mem_ofAttributes listed
  cases a with
  | named n value =>
      obtain ⟨v, -, rfl⟩ := Option.map_eq_some_iff.mp shown
      have other := others (.named n value) (List.mem_append_right front List.mem_cons_self)
      simpa [isShownAs, make] using other
  | spread e =>
      obtain rfl := Option.some.inj shown
      rintro rfl
      exact Bool.eq_false_iff.mp plain (isSpreadName_spreadName _)

/-- The property of the first attribute that is shown under a name. -/
theorem find?_properties (plain : isSpreadName name = false) {as bs : List (Attribute Tree)} {a : Attribute Tree}
    {q : Property} (split : e.attributes = as ++ a :: bs) (others : ∀ a ∈ as, isShownAs name a = false)
    (listed : ofAttribute? l as.length a = some q) (named : q.name = name) :
    (e.properties l).find? (·.name == name) = some q := by
  have skipped : (ofAttributes l 0 as).find? (·.name == name) = none := by
    simpa [List.find?_eq_none] using ofAttributes_unshown plain others 0
  rw [properties_split l split, listed]
  simp [skipped, named]

/-- A string that is read back in an attribute. -/
theorem namedValue?_string (l : Language) (name : String) {t : Tree}
    (same : t.bare = (stringAttribute s).rereadBy markupString) :
    namedValue? l name (some t) = some (.string (rereadAttribute s)) := by
  have value : styleOf? l t = none ∧ attributeValue? l t = some (.string (rereadAttribute s)) := by
    unfold stringAttribute at same
    unfold rereadAttribute
    split at same
    · rename_i fits
      obtain ⟨raw, rfl⟩ := eq_string_of_bare (s := markupString (stringLiteral s)) same
      rw [if_pos fits]
      exact ⟨rfl, rfl⟩
    · rename_i unfit
      obtain ⟨t', rfl, inner⟩ :=
        eq_container_of_bare (u := stringTree (scriptString (stringLiteral s))) same
      obtain ⟨raw, rfl⟩ := eq_string_of_bare inner
      rw [if_neg unfit]
      exact ⟨rfl, rfl⟩
  rw [namedValue?, value.1, value.2, ite_self]

theorem isShownAs_bareIn (a : Attribute Tree) : isShownAs name (bareIn a) = isShownAs name a := by
  cases a <;> rfl

theorem isShownAs_rereadIn (a : Attribute Tree) : isShownAs name (rereadIn a) = isShownAs name a := by
  cases a <;> rfl

/-- What is read back of an element with a string in an attribute. -/
theorem property_of_reread (valid : isValidName name = true) {e' : Markup} {as bs : List (Attribute Tree)}
    {n : AttributeName} (split : e.attributes = as ++ .named n (some (stringAttribute s)) :: bs)
    (named : n.text = name) (others : ∀ a ∈ as, isShownAs name a = false) (read : e'.bare = e.reread) :
    ∃ i, (e'.properties l).find? (·.name == name) =
      some (make name (.string (rereadAttribute s)) (.attribute i) false) := by
  have attributes : e'.attributes.map bareIn = e.attributes.map rereadIn := by
    rw [← bareAttributes_eq_map, ← rereadAttributes_eq_map]
    exact congrArg Element.attributes read
  rw [split, List.map_append, List.map_cons, List.map_eq_append_iff] at attributes
  obtain ⟨as', rest, split', early, late⟩ := attributes
  obtain ⟨a, bs', rfl, here, -⟩ := List.map_eq_cons_iff.mp late
  have others' : ∀ a ∈ as', isShownAs name a = false := by
    intro a member
    have listed : bareIn a ∈ as.map rereadIn := early ▸ List.mem_map_of_mem member
    obtain ⟨a', member', same⟩ := List.mem_map.mp listed
    rw [← isShownAs_bareIn, ← same, isShownAs_rereadIn]
    exact others a' member'
  refine ⟨as'.length, find?_properties (isSpreadName_of_valid valid) split' others' ?_ rfl⟩
  cases a with
  | spread value => cases here
  | named n' value =>
      obtain ⟨rfl, same⟩ := Attribute.named.inj here
      cases value with
      | none => cases same
      | some t =>
          rw [ofAttribute?, namedValue?_string l n'.text (Option.some.inj same), named]
          rfl

/-- A string that is set as an attribute, printed and read again shows under its name, and is
the same exactly when it survives there. -/
theorem attribute_survives_iff (l : Language) (path : Path) {m : Module} {idName uid : String}
    (found : m.find? idName uid = some e) (valid : isValidName name = true) (notText : name ≠ textName)
    (rereads : ∀ o m', m.update? idName uid (Markup.patchStep l name (.string s)) = some (.ok o, m') →
      l.RereadsAs path m') :
    ∃ o m' d e' p,
      m.update? idName uid (Markup.patchStep l name (.string s)) = some (.ok o, m') ∧
      (Document.read l path (l.printModule m')).value = .ok d ∧
      d.content.elements[m.place idName uid]? = some e' ∧
      (e'.properties l).find? (·.name == name) = some p ∧
      (p.value = .string s ↔ survivesInAttribute s = true) := by
  obtain ⟨o, as, n, bs, patched, named, others⟩ :=
    patched_of_valid (v := .string s) l valid notText nofun e
  have step := patchStep_eq_ok_iff.mpr patched
  obtain ⟨m', updated, -, stands⟩ := Module.update?_of_find? found (Markup.patchStep l name (.string s))
  rw [step] at updated stands
  obtain ⟨d, read, same⟩ := rereads o m' updated
  obtain ⟨e', there, bare⟩ := element_of_reread same stands
  obtain ⟨i, shown⟩ := property_of_reread (l := l) valid rfl named others bare
  refine ⟨o, m', d, e', _, updated, read, there, shown, ?_⟩
  rw [← rereadAttribute_eq_iff]
  simp [make]

end Attributes

/-! ## Text -/

section Text

variable {l : Language} {s : String} {e : Markup}

theorem textTree_string (l : Language) (s : String) :
    textTree l (.string s) =
      (if fitsText s then .leaf (.markupText s s) else containerTree (stringTree s), none) := by
  simp only [textTree]
  split <;> rfl

/-- No attribute is text. -/
theorem ofAttributes_part (l : Language) (i : Nat) (as : List (Attribute Tree)) :
    ∀ q ∈ ofAttributes l i as, q.part ≠ .text := by
  intro q listed
  obtain ⟨front, a, back, rfl, shown⟩ := of_mem_ofAttributes listed
  cases a with
  | named n value =>
      obtain ⟨v, -, rfl⟩ := Option.map_eq_some_iff.mp shown
      exact nofun
  | spread e =>
      obtain rfl := Option.some.inj shown
      exact nofun

/-- The text among the properties comes from the children. -/
theorem filter_text_properties (l : Language) (e : Markup) :
    (e.properties l).filter (fun p => p.part = .text) =
      (ofChildren l (e.children.filter isMeaningful)).filter fun p => p.part = .text := by
  have none : (ofAttributes l 0 e.attributes).filter (fun p => p.part = .text) = [] := by
    simpa [List.filter_eq_nil_iff] using ofAttributes_part l 0 e.attributes
  rw [Markup.properties, List.filter_append, none, List.nil_append]

theorem make_string_inj {name s s' : String} {part : Part} {readOnly : Bool} :
    make name (.string s) part readOnly = make name (.string s') part readOnly ↔ s = s' :=
  ⟨fun same => Value.string.inj (congrArg Property.value same), fun same => same ▸ rfl⟩

theorem length_trimWhite (s : String) : (Text.trimWhite s).toList.length ≤ s.toList.length := by
  rw [Text.trimWhite, String.toList_ofList, Text.trimWhiteChars, Text.dropEndWhile, List.length_reverse]
  refine Nat.le_trans (List.dropWhile_sublist _).length_le ?_
  rw [List.length_reverse]
  exact (List.dropWhile_sublist _).length_le

/-- Text between tags shows without the white space around it, if anything is left. -/
theorem ofChildren_markupText (l : Language) (value raw : String) :
    ofChildren l ([Tree.leaf (.markupText value raw)].filter isMeaningful) =
      if (Text.trimWhite value).isEmpty then []
      else [make textName (.string (Text.trimWhite value)) .text false] := by
  cases empty : (Text.trimWhite value).isEmpty with
  | true => simp [Tree.leaf, isMeaningful, empty, ofChildren]
  | false => simp [Tree.leaf, isMeaningful, empty, ofChildren, childValue?]

/-- Text that is fit to stand between tags comes back unless a carriage return is dropped. -/
theorem trimWhite_markupText (fits : fitsText s = true) :
    s.isEmpty = false ∧ (Text.trimWhite (markupText s) = s ↔ ¬ ['\r', '\n'] <:+: s.toList) := by
  simp only [fitsText, Bool.and_eq_true, Bool.not_eq_true', beq_iff_eq, List.all_eq_true, bne_iff_ne] at fits
  obtain ⟨⟨nonempty, trimmed⟩, plain⟩ := fits
  have spec := markupText_spec (s := s) fun c member =>
    ⟨(plain c member).1.1.2, (plain c member).1.1.1.1, (plain c member).2⟩
  refine ⟨nonempty, fun same pair => ?_, fun single => ?_⟩
  · -- what comes back is shorter
    rw [if_pos pair] at spec
    have bound := length_trimWhite (markupText s)
    rw [same] at bound
    omega
  · rw [if_neg single] at spec
    rw [spec, trimmed]

/-- What is read back of an element with a string as its text. -/
theorem text_of_reread (only : e.children = [(textTree l (.string s)).1]) {e' : Markup}
    (read : e'.bare = e.reread) :
    (e'.properties l).filter (fun q => q.part = .text) = [make textName (.string s) .text false] ↔
      survivesAsText s = true := by
  have children : bareOf e'.children = rereadOf e.children := congrArg Element.children read
  rw [only, textTree_string] at children
  rw [filter_text_properties]
  unfold survivesAsText
  split at children
  · rename_i fits
    obtain ⟨t, shape, bare⟩ := eq_singleton_of_bareOf (u := .leaf (.markupText (markupText s) s)) children
    obtain rfl := eq_markupText_of_bare bare
    obtain ⟨nonempty, back⟩ := trimWhite_markupText fits
    rw [shape, if_pos fits, ofChildren_markupText, Bool.not_eq_true', decide_eq_false_iff_not, ← back]
    split
    · rename_i empty
      refine ⟨nofun, fun same => ?_⟩
      rw [same, nonempty] at empty
      cases empty
    · rw [List.filter_singleton]
      exact List.singleton_inj.trans make_string_inj
  · rename_i unfit
    obtain ⟨t, shape, bare⟩ :=
      eq_singleton_of_bareOf (u := containerTree (stringTree (scriptString (stringLiteral s)))) children
    obtain ⟨t', rfl, inner⟩ := eq_container_of_bare bare
    obtain ⟨raw, rfl⟩ := eq_string_of_bare inner
    have shown : ofChildren l (e'.children.filter isMeaningful) =
        [make textName (.string (scriptString (stringLiteral s))) .text false] := by
      rw [shape]
      rfl
    rw [shown, if_neg unfit, ← scriptString_stringLiteral, List.filter_singleton]
    exact List.singleton_inj.trans make_string_inj

/-- A string that is set as the text, printed and read again is the one text exactly when it
survives there. -/
theorem text_survives_iff (l : Language) (path : Path) {m : Module} {idName uid : String}
    (found : m.find? idName uid = some e) (editable : isTextless? e ≠ none)
    (rereads : ∀ o m', m.update? idName uid (Markup.patchStep l textName (.string s)) = some (.ok o, m') →
      l.RereadsAs path m') :
    ∃ o m' d e',
      m.update? idName uid (Markup.patchStep l textName (.string s)) = some (.ok o, m') ∧
      (Document.read l path (l.printModule m')).value = .ok d ∧
      d.content.elements[m.place idName uid]? = some e' ∧
      ((e'.properties l).filter (fun q => q.part = .text) = [make textName (.string s) .text false] ↔
        survivesAsText s = true) := by
  obtain ⟨o, patched⟩ := patched_of_editable (v := .string s) l nofun editable
  have only : (e.withChildren [(textTree l (.string s)).1]).children = [(textTree l (.string s)).1] :=
    e.withChildren_children _
  have step := patchStep_eq_ok_iff.mpr patched
  obtain ⟨m', updated, -, stands⟩ := Module.update?_of_find? found (Markup.patchStep l textName (.string s))
  rw [step] at updated stands
  obtain ⟨d, read, same⟩ := rereads o m' updated
  obtain ⟨e', there, bare⟩ := element_of_reread same stands
  exact ⟨o, m', d, e', updated, read, there, text_of_reread only bare⟩

end Text

/-! ## Poles -/

/-- `RereadsAs`, computed. -/
def rereadsAs (l : Language) (path : Path) (m : Module) : Bool :=
  match (Document.read l path (l.printModule m)).value with
  | .ok d => d.content.bare = m.reread
  | .error _ => false

theorem rereadsAs_spec {l : Language} {path : Path} {m : Module} (back : rereadsAs l path m = true) :
    l.RereadsAs path m := by
  unfold rereadsAs at back
  split at back
  · rename_i d read
    exact ⟨d, read, of_decide_eq_true back⟩
  · cases back

/-- A page of one element, whose identifier is `k`. -/
def page : Module :=
  ⟨none, [.node .expressionStatement [.element ⟨.plain "b", [Markup.identifierAttribute "data-uid" "k"],
    none, true, [], none, none⟩]], none⟩

def pagePath : Path := ⟨"/p/a.jsx"⟩

/-- The page with a string as a property of its element. -/
def pageWith (name s : String) : Option (Except PatchFailure PatchOutcome × Module) :=
  page.update? "data-uid" "k" (Markup.patchStep .standard name (.string s))

/-- Does the page read back? -/
def pageRereads (name s : String) : Bool :=
  match pageWith name s with
  | some (.ok _, m) => rereadsAs .standard pagePath m
  | _ => true

theorem rereads_of_pageRereads {name s : String} (back : pageRereads name s = true) :
    ∀ o m, pageWith name s = some (.ok o, m) → Language.standard.RereadsAs pagePath m := by
  intro o m patched
  rw [pageRereads, patched] at back
  exact rereadsAs_spec back

/-- What the element shows when the page was printed and read again. -/
def pageShows (name s : String) : Option Value :=
  match pageWith name s with
  | some (.ok _, m) =>
      match (Document.read .standard pagePath (Language.standard.printModule m)).value with
      | .ok d =>
          (d.content.find? "data-uid" "k").bind fun e =>
            ((e.properties .standard).find? (·.name == name)).map (·.value)
      | .error _ => none
  | _ => none

theorem attribute_survives_quotes : ∃ o m' d e' p,
    pageWith "title" "say \"hi\"\n" = some (.ok o, m') ∧
    (Document.read .standard pagePath (Language.standard.printModule m')).value = .ok d ∧
    d.content.elements[page.place "data-uid" "k"]? = some e' ∧
    (e'.properties .standard).find? (·.name == "title") = some p ∧ p.value = .string "say \"hi\"\n" := by
  have carried : (page.find? "data-uid" "k").isSome = true := by decide +kernel
  have valid : isValidName "title" = true := by decide +kernel
  obtain ⟨e, found⟩ := Option.isSome_iff_exists.mp carried
  obtain ⟨o, m', d, e', p, patched, read, there, shown, survives⟩ :=
    attribute_survives_iff .standard pagePath (s := "say \"hi\"\n") found valid (by decide)
      (rereads_of_pageRereads (by decide +kernel))
  exact ⟨o, m', d, e', p, patched, read, there, shown, survives.mpr (by decide +kernel)⟩

/-- Refuting pole: a line separator stands between the quotes as an escape, and is read back as
six characters. -/
theorem separator_lost_in_attribute :
    (∀ o m, pageWith "title" "a\u2028b" = some (.ok o, m) → Language.standard.RereadsAs pagePath m) ∧
    isValidName "title" = true ∧ pageShows "title" "a\u2028b" = some (.string "a\\u2028b") ∧
    "a\\u2028b" ≠ "a\u2028b" :=
  ⟨rereads_of_pageRereads (by decide +kernel), by decide +kernel, by decide +kernel, by decide⟩

theorem text_survives_break : ∃ o m' d e',
    pageWith textName "a\nb" = some (.ok o, m') ∧
    (Document.read .standard pagePath (Language.standard.printModule m')).value = .ok d ∧
    d.content.elements[page.place "data-uid" "k"]? = some e' ∧
    (e'.properties .standard).filter (fun q => q.part = .text) =
      [make textName (.string "a\nb") .text false] := by
  have editable : (page.find? "data-uid" "k").bind isTextless? = some true := by decide +kernel
  obtain ⟨e, found, empty⟩ := Option.bind_eq_some_iff.mp editable
  obtain ⟨o, m', d, e', patched, read, there, survives⟩ :=
    text_survives_iff .standard pagePath (s := "a\nb") found (by rw [empty]; exact nofun)
      (rereads_of_pageRereads (by decide +kernel))
  exact ⟨o, m', d, e', patched, read, there, survives.mpr (by decide +kernel)⟩

/-- Refuting pole: a carriage return in front of a line feed is dropped. -/
theorem return_lost_in_text :
    (∀ o m, pageWith textName "a\r\nb" = some (.ok o, m) → Language.standard.RereadsAs pagePath m) ∧
    (page.find? "data-uid" "k").bind isTextless? = some true ∧
    pageShows textName "a\r\nb" = some (.string "a\nb") ∧ "a\nb" ≠ "a\r\nb" :=
  ⟨rereads_of_pageRereads (by decide +kernel), by decide +kernel, by decide +kernel, by decide⟩

end LiveMarkup.Property
