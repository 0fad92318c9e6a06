import LiveMarkup.Syntax.Tree
/-
# LiveMarkup.Proofs.Markup.Equality -- equality of trees can be decided

Trees hold lists of trees in more than one way, so their equality is decided by hand:
`Tree.same` walks two trees at once, and `Tree.same_iff` says what it finds out.
-/

namespace LiveMarkup.Syntax

set_option autoImplicit false

deriving instance DecidableEq for Kind

mutual

def Tree.same : Tree → Tree → Bool
  | .node kind parts, .node kind' parts' => kind == kind' && sameOf parts parts'
  | .element ⟨name, attributes, typeArguments, selfClosing, children, closing, lines⟩,
      .element ⟨name', attributes', typeArguments', selfClosing', children', closing', lines'⟩ =>
      name == name' && sameAttributes attributes attributes' &&
        sameOption typeArguments typeArguments' && selfClosing == selfClosing' &&
        sameOf children children' && closing == closing' && lines == lines'
  | _, _ => false
  termination_by structural t => t

def sameOf : List Tree → List Tree → Bool
  | [], [] => true
  | t :: ts, u :: us => t.same u && sameOf ts us
  | _, _ => false
  termination_by structural ts => ts

def sameAttributes : List (Attribute Tree) → List (Attribute Tree) → Bool
  | [], [] => true
  | a :: as, b :: bs => sameIn a b && sameAttributes as bs
  | _, _ => false
  termination_by structural as => as

def sameIn : Attribute Tree → Attribute Tree → Bool
  | .named n value, .named n' value' => n == n' && sameOption value value'
  | .spread value, .spread value' => value.same value'
  | _, _ => false
  termination_by structural a => a

def sameOption : Option Tree → Option Tree → Bool
  | none, none => true
  | some t, some u => t.same u
  | _, _ => false
  termination_by structural t => t

end

mutual

theorem Tree.same_iff : ∀ t u : Tree, t.same u = true ↔ t = u
  | .node kind parts, .node kind' parts' => by simp [Tree.same, sameOf_iff parts parts']
  | .element ⟨name, attributes, typeArguments, selfClosing, children, closing, lines⟩,
      .element ⟨name', attributes', typeArguments', selfClosing', children', closing', lines'⟩ => by
      simp [Tree.same, sameAttributes_iff attributes attributes',
        sameOption_iff typeArguments typeArguments', sameOf_iff children children', and_assoc]
  | .node _ _, .element _ => by simp [Tree.same]
  | .element _, .node _ _ => by simp [Tree.same]

theorem sameOf_iff : ∀ ts us : List Tree, sameOf ts us = true ↔ ts = us
  | [], [] => by simp [sameOf]
  | t :: ts, u :: us => by simp [sameOf, t.same_iff u, sameOf_iff ts us]
  | [], _ :: _ => by simp [sameOf]
  | _ :: _, [] => by simp [sameOf]

theorem sameAttributes_iff : ∀ as bs : List (Attribute Tree), sameAttributes as bs = true ↔ as = bs
  | [], [] => by simp [sameAttributes]
  | a :: as, b :: bs => by simp [sameAttributes, sameIn_iff a b, sameAttributes_iff as bs]
  | [], _ :: _ => by simp [sameAttributes]
  | _ :: _, [] => by simp [sameAttributes]

theorem sameIn_iff : ∀ a b : Attribute Tree, sameIn a b = true ↔ a = b
  | .named n value, .named n' value' => by simp [sameIn, sameOption_iff value value']
  | .spread value, .spread value' => by simp [sameIn, value.same_iff value']
  | .named _ _, .spread _ => by simp [sameIn]
  | .spread _, .named _ _ => by simp [sameIn]

theorem sameOption_iff : ∀ t u : Option Tree, sameOption t u = true ↔ t = u
  | none, none => by simp [sameOption]
  | some t, some u => by simp [sameOption, t.same_iff u]
  | none, some _ => by simp [sameOption]
  | some _, none => by simp [sameOption]

end

instance : DecidableEq Tree := fun t u => decidable_of_iff _ (t.same_iff u)

deriving instance DecidableEq for Module

end LiveMarkup.Syntax
