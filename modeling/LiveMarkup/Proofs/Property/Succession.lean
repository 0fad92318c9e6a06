import LiveMarkup.Proofs.Property.ReadBack
/-
# LiveMarkup.Proofs.Property.Succession -- one patch after another

Two patches of one name meet in the same place.  A value that is set stands where the second patch
looks first: as the first attribute of its name, or as the one child.  So the second value is always
a replacement, and it leaves what it would have left without the first (`last_patch_wins`); only
the action tells the two apart.

A removal takes the first attribute of the name or all children, and after it there is nothing to
remove (`removal_lasts`).  That takes one attribute of the name at most.  The name that is reserved
for the text does not reach an attribute, so an attribute under it stays.

Poles: a text that is set twice, a button without its attribute, and the two attributes that a
removal leaves (`removal_misses`).
-/

namespace LiveMarkup.Property

set_option autoImplicit false

open LiveMarkup.Syntax

variable {l : Language} {name : String} {v w : Value} {e e' : Markup} {o : PatchOutcome}

/-! ## Setting twice -/

/-- What was set replaces the attribute it was set for, or stands behind all others, and is replaced in
turn. -/
theorem AttributesPatched.again {as as' : List (Attribute Tree)} (first : v ≠ .undefined)
    (second : w ≠ .undefined) (done : AttributesPatched l name v o as as') :
    ∃ o₂ as₂, AttributesPatched l name w o₂ as as₂ ∧
      AttributesPatched l name w ⟨.replaced, o₂.fallback⟩ as' as₂ := by
  cases done with
  | unchanged undefined => exact absurd undefined first
  | removed undefined => exact absurd undefined first
  | replaced _ before shown => exact ⟨_, _, .replaced second before shown, .replaced second before shown⟩
  | inserted _ absent valid => exact ⟨_, _, .inserted second absent valid, .replaced second absent rfl⟩

/-- The child that shows a value may be replaced. -/
theorem isTextless?_written (l : Language) (v : Value) (e : Markup) :
    isTextless? (e.withChildren [(textTree l v).1]) = some false := by
  unfold isTextless?
  rw [Markup.withChildren_children]
  rcases textTree_cases l v with ⟨s, rfl, fits, tree⟩ | tree
  · rw [tree, List.filter_cons_of_pos (childValue?_markupText l fits).1]
    rfl
  · rw [tree]
    rfl

theorem TextPatched.again {children : List Tree} (first : v ≠ .undefined) (second : w ≠ .undefined)
    (done : TextPatched l v e o children) :
    ∃ o₂ child, TextPatched l w e o₂ [child] ∧
      TextPatched l w (e.withChildren children) ⟨.replaced, o₂.fallback⟩ [child] := by
  obtain ⟨-, rfl⟩ := done.placed first
  have replaced : TextPatched l w (e.withChildren [(textTree l v).1]) _ _ :=
    .replaced second (isTextless?_written l v e)
  cases done with
  | replaced _ text => exact ⟨_, _, .replaced second text, replaced⟩
  | inserted _ textless => exact ⟨_, _, .inserted second textless, replaced⟩

/-- Where one value was set another one can be, and the first leaves no trace. -/
theorem Patched.again (first : v ≠ .undefined) (second : w ≠ .undefined) (done : Patched l name v e o e') :
    ∃ o₂ e₂, Patched l name w e o₂ e₂ ∧ Patched l name w e' ⟨.replaced, o₂.fallback⟩ e₂ := by
  cases done with
  | attributes plain other done =>
      obtain ⟨o₂, as₂, alone, after⟩ := done.again first second
      exact ⟨o₂, _, .attributes plain other alone, .attributes plain other after⟩
  | text reserved done =>
      obtain ⟨o₂, child, alone, after⟩ := done.again first second
      have both := Patched.text reserved after
      rw [(done.placed first).2, Markup.withChildren_withChildren] at both
      rw [(done.placed first).2]
      exact ⟨o₂, _, .text reserved alone, both⟩

/-- **The last patch wins.**  A value that is set where another one was set leaves the element, and
the fallback, that it leaves without the other one; the same value again changes nothing. -/
theorem last_patch_wins (first : v ≠ .undefined) (second : w ≠ .undefined)
    (patched : Markup.patch l name v e = .ok (o, e')) :
    (∃ o₁ o₂ e₂, Markup.patch l name w e' = .ok (o₁, e₂) ∧ Markup.patch l name w e = .ok (o₂, e₂) ∧
      o₁.fallback = o₂.fallback) ∧
    Markup.patch l name v e' = .ok (⟨.replaced, o.fallback⟩, e') := by
  have done := patch_eq_ok_iff.mp patched
  refine ⟨?_, ?_⟩
  · obtain ⟨o₂, e₂, alone, after⟩ := done.again first second
    exact ⟨_, o₂, e₂, after.patch, alone.patch, rfl⟩
  · obtain ⟨o₂, e₂, alone, after⟩ := done.again first first
    -- setting the value alone is what was done
    obtain ⟨rfl, rfl⟩ := Prod.mk.inj (Except.ok.inj (alone.patch.symm.trans patched))
    exact after.patch

/-- A text that breaks off and then a proper one, in an element that had none. -/
theorem last_patch_wins_button : ∃ o₁ o₂ e₂,
    Markup.patch .standard textName (.string "Save")
      (button.withChildren [(textTree .standard (.code "f(")).1]) = .ok (o₁, e₂) ∧
    Markup.patch .standard textName (.string "Save") button = .ok (o₂, e₂) ∧ o₁.fallback = o₂.fallback := by
  have broken : Patched .standard textName (.code "f(") button _ _ := .text rfl (.inserted nofun rfl)
  exact (last_patch_wins (v := .code "f(") (w := .string "Save") nofun nofun broken.patch).1

/-! ## Removing -/

/-- One attribute of a name at most is removed for good. -/
theorem AttributesPatched.absent {as as' : List (Attribute Tree)} (single : as.countP (isShownAs name) ≤ 1)
    (done : AttributesPatched l name .undefined o as as') : ∀ a ∈ as', isShownAs name a = false := by
  cases done with
  | unchanged _ absent => exact absent
  | @removed before after n old _ others shown =>
      have here : isShownAs name (.named n old) = true := beq_iff_eq.mpr shown
      rw [List.countP_append, List.countP_cons_of_pos here] at single
      have none : after.countP (isShownAs name) = 0 := by omega
      rw [List.countP_eq_zero] at none
      intro a member
      rcases List.mem_append.mp member with early | late
      · exact others a early
      · exact eq_false_of_ne_true (none a late)
  | replaced defined => exact absurd rfl defined
  | inserted defined => exact absurd rfl defined

/-- What is listed as editable is the text, or an attribute that is shown under its name. -/
theorem Listed.editable {p : Property} (listed : Listed l e p) (editable : p.readOnly = false) :
    (p.name = textName ∧ p.part = .text ∧ e.children ≠ []) ∨
      (∃ i, p.part = .attribute i) ∧ ∃ a ∈ e.attributes, isShownAs p.name a = true := by
  cases listed with
  | @named as bs n value v split shown =>
      refine .inr ⟨⟨_, rfl⟩, .named n value, ?_, beq_self_eq_true n.text⟩
      rw [split]
      exact List.mem_append_right as List.mem_cons_self
  | spread => cases editable
  | text only shown =>
      refine .inl ⟨rfl, rfl, fun empty => ?_⟩
      rw [empty] at only
      cases only
  | children => cases editable

/-- **What is removed is gone.**  Nothing editable is listed under the name, but for an attribute under
the reserved name, and there is nothing more to remove. -/
theorem removal_lasts (single : name ≠ textName → e.attributes.countP (isShownAs name) ≤ 1)
    (removed : Markup.patch l name .undefined e = .ok (o, e')) :
    (∀ p ∈ e'.properties l, p.readOnly = false → p.name = name →
      name = textName ∧ ∃ i, p.part = .attribute i) ∧
    Markup.patch l name .undefined e' = .ok (⟨.unchanged, none⟩, e') := by
  cases patch_eq_ok_iff.mp removed with
  | attributes plain other done =>
      have absent := done.absent (single other)
      refine ⟨?_, (Patched.attributes plain other (.unchanged rfl absent)).patch⟩
      rintro p listed editable rfl
      rcases (listed_of_mem listed).editable editable with ⟨reserved, -⟩ | ⟨-, a, member, shown⟩
      · exact absurd reserved other
      · exact absurd shown (Bool.eq_false_iff.mp (absent a member))
  | @text children reserved done =>
      obtain rfl : children = [] := by
        cases done with
        | unchanged => rfl
        | removed => rfl
        | replaced defined => exact absurd rfl defined
        | inserted defined => exact absurd rfl defined
      refine ⟨?_, (Patched.text reserved (.unchanged rfl rfl)).patch⟩
      intro p listed editable _
      rcases (listed_of_mem listed).editable editable with ⟨-, -, inhabited⟩ | ⟨outside, -⟩
      · exact absurd rfl inhabited
      · exact ⟨reserved, outside⟩

theorem removal_lasts_button :
    (∃ e', Markup.patch .standard "type" .undefined button = .ok (⟨.removed, none⟩, e') ∧
      (∀ p ∈ e'.properties .standard, p.readOnly = false → p.name ≠ "type") ∧
      Markup.patch .standard "type" .undefined e' = .ok (⟨.unchanged, none⟩, e')) := by
  have removed : Markup.patch .standard "type" .undefined button =
      .ok (⟨.removed, none⟩, { button with attributes := [] }) := rfl
  obtain ⟨gone, again⟩ := removal_lasts (fun _ => by decide) removed
  refine ⟨_, removed, ?_, again⟩
  intro p listed editable named
  exact absurd (gone p listed editable named).1 (by decide)

/-- A bold text with an attribute under the name of the text. -/
def shadowed : Markup :=
  ⟨.plain "b", [.named (.plain textName) (some (stringTree "x"))], none, false,
    [.leaf (.markupText "hi" "hi")], some (.plain "b"), none⟩

/-- Refuting pole: the second of two attributes stays and is the next to be removed, and an attribute
under the reserved name stays when the text is removed. -/
theorem removal_misses :
    (∃ e', Markup.patch .standard "a" .undefined repeated = .ok (⟨.removed, none⟩, e') ∧
      make "a" (.string "2") (.attribute 1) false ∈ e'.properties .standard ∧
      Markup.patch .standard "a" .undefined e' ≠ .ok (⟨.unchanged, none⟩, e')) ∧
    ∃ e', Markup.patch .standard textName .undefined shadowed = .ok (⟨.removed, none⟩, e') ∧
      make textName (.string "x") (.attribute 0) false ∈ e'.properties .standard := by
  refine ⟨⟨{ repeated with attributes := repeated.attributes.tail }, rfl, by decide +kernel, ?_⟩,
    { shadowed with children := [] }, rfl, by decide +kernel⟩
  intro same
  cases same

end LiveMarkup.Property
