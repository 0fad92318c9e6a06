import LiveMarkup.Proofs.Property.Cases
/-
# LiveMarkup.Proofs.Property.Locality -- a patch is local

Under the reserved name a patch changes the children of an element and the tags around them,
and under any other name the attributes; of these it is one at most (`patch_local`).  The tags of
the element match before and after (`Markup.WellFormed`), and a patch that is refused leaves the
element as it is.

Poles: a self-closing button that gets a text, and the same button under a name that is none.
-/

namespace LiveMarkup

set_option autoImplicit false

open LiveMarkup.Syntax

namespace Markup

/-- The tags of an element match: it has a closing one unless it closes itself and is empty, and
both have the same name. -/
structure WellFormed (e : Markup) : Prop where
  closed : e.selfClosing = true ↔ e.closing = none
  empty : e.selfClosing = true → e.children = []
  matching : ∀ name ∈ e.closing, name = e.name

theorem WellFormed.withChildren {e : Markup} (formed : e.WellFormed) (children : List Tree) :
    (e.withChildren children).WellFormed := by
  cases children with
  | nil => exact ⟨formed.closed, fun _ => rfl, formed.matching⟩
  | cons child children =>
      rw [withChildren_cons]
      unfold opened
      split
      · exact ⟨by simp, by simp, by simp⟩
      · rename_i standing
        -- the element has both tags
        simp only [Bool.or_eq_true, not_or, Bool.not_eq_true] at standing
        refine ⟨formed.closed, ?_, formed.matching⟩
        intro closes
        rw [standing.1] at closes
        cases closes

end Markup

namespace Property

variable {l : Language} {name : String} {v : Value} {e e' : Markup} {o : PatchOutcome}

theorem Patched.wellFormed (patched : Patched l name v e o e') (formed : e.WellFormed) : e'.WellFormed := by
  cases patched with
  | attributes plain other done => exact ⟨formed.closed, formed.empty, formed.matching⟩
  | text reserved done => exact formed.withChildren _

/-- **A patch is local, leaves tags that match, and does nothing when it is refused.**  Under the
reserved name only the children and the tags around them change, under any other one only the
attributes; the answer tells which case it was. -/
theorem patch_local (formed : e.WellFormed) :
    (∀ f e', Markup.patchStep l name v e = (.error f, e') → Refused name v e f ∧ e' = e) ∧
    ∀ o e', Markup.patchStep l name v e = (.ok o, e') → e'.WellFormed ∧ e'.name = e.name ∧
      (name ≠ textName → e' = { e with attributes := e'.attributes } ∧
        AttributesPatched l name v o e.attributes e'.attributes) ∧
      (name = textName →
        e' = { e with children := e'.children, selfClosing := e'.selfClosing, closing := e'.closing } ∧
        TextPatched l v e o e'.children) := by
  refine ⟨fun f e' rejected => patchStep_eq_error_iff.mp rejected, fun o e' accepted => ?_⟩
  have patched := patchStep_eq_ok_iff.mp accepted
  refine ⟨patched.wellFormed formed, ?_⟩
  cases patched with
  | attributes plain other done => exact ⟨rfl, fun _ => ⟨rfl, done⟩, fun reserved => absurd reserved other⟩
  | @text children reserved done =>
      have frame := Markup.withChildren_frame e children
      refine ⟨?_, fun other => absurd reserved other, fun _ => ?_⟩
      · rw [frame]
      · rw [Markup.withChildren_children]
        exact ⟨frame, done⟩

/-! ## Poles -/

/-- A button that closes itself. -/
def button : Markup :=
  ⟨.plain "button", [.named (.plain "type") (some (stringTree "submit"))], none, true, [], none, none⟩

theorem button_wellFormed : button.WellFormed := ⟨by decide, fun _ => rfl, by decide⟩

theorem patch_local_button :
    (∃ e', Markup.patchStep .standard textName (.string "Save") button = (.ok ⟨.inserted, none⟩, e') ∧
      e'.WellFormed ∧ e'.attributes = button.attributes ∧
      TextPatched .standard (.string "Save") button ⟨.inserted, none⟩ e'.children) ∧
    ∃ e', Markup.patchStep .standard "on click" .null button = (.error (.invalidName "on click"), e') ∧
      e' = button := by
  have saved : Markup.patchStep .standard textName (.string "Save") button =
      (.ok ⟨.inserted, none⟩, button.withChildren [.leaf (.markupText "Save" "Save")]) := rfl
  have rejected : Markup.patchStep .standard "on click" .null button =
      (.error (.invalidName "on click"), button) := rfl
  obtain ⟨formed, -, -, text⟩ := (patch_local button_wellFormed).2 _ _ saved
  obtain ⟨-, same⟩ := (patch_local button_wellFormed).1 _ _ rejected
  exact ⟨⟨_, saved, formed, rfl, (text rfl).2⟩, _, rejected, same⟩

end Property

end LiveMarkup
