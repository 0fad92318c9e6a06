import LiveMarkup.Proofs.Syntax.Reader
/-
# LiveMarkup.Proofs.Syntax.ObjectReading -- the reader goes by the grammar of object literals

Every production above the primary expressions looks at the token at hand, and at the one behind
what was read.  A brace, a string or a number makes none of them do anything, nor does a comma, a
closing brace or the end of the text, so what is read is the primary expression
(`grammar_assignment`, by one lemma for each production).

A text stands in an object when it is read as the same expression whatever member comes behind it
(`Stands`).  A member is read when its value stands (`takes_pair`, `takes_spread`), the members are read
one after the other, by induction on how many there are (`takes_members`), and then the braces
(`takes_object`): the library reads the object literals that are put together from expressions
that stand (`readsObjects_standard`).
-/

namespace LiveMarkup.Syntax

set_option autoImplicit false

open Grammar LiveMarkup.Syntax.Parser

/-- The context of a script outside of all functions, with types and markup. -/
def scriptContext (lines : List Nat) (inOperator : Bool) : Context :=
  { lines, typed := true, markup := true, strict := false, isModule := false, inOperator }

/-- Tokens that start a primary expression, and no operator, arrow or element. -/
inductive Opens : Token → Prop
  | brace : Opens (.punctuator "\x7b")
  | string (value raw : String) : Opens (.string value raw)
  | number (value : Double) (raw : String) : Opens (.number value raw)

/-- Tokens that no expression goes on with. -/
inductive Closes : Token → Prop
  | eof : Closes .eof
  | comma : Closes (.punctuator ",")
  | brace : Closes (.punctuator "\x7d")

/-! ## Primary expressions alone -/

section Productions

variable {r : Rules} {k : Nat} {rd : Goal → Parser Tree} {s s' : State} {t : Tree} {lines : List Nat} {op : Bool}

theorem leftHandSide_of_opens (context : s.context = scriptContext lines op) (opens : Opens s.current) :
    leftHandSide r s = (primary r >>= subscripts r true) s := by
  obtain ⟨current, start, newline, cursor, ls, le, mode, troubles, c⟩ := s
  obtain rfl := context
  cases opens <;> rfl

theorem subscripts_of_closes (context : s.context = scriptContext lines op) (closes : Closes s.current) :
    subscripts ⟨rd, k + 1⟩ true t s = .ok t s := by
  obtain ⟨current, start, newline, cursor, ls, le, mode, troubles, c⟩ := s
  obtain rfl := context
  cases newline <;> cases closes <;> rfl

theorem binaryRest_of_closes (context : s.context = scriptContext lines op) (closes : Closes s.current) :
    binaryRest r (k + 1) 0 t s = .ok t s := by
  obtain ⟨current, start, newline, cursor, ls, le, mode, troubles, c⟩ := s
  obtain rfl := context
  cases newline <;> cases closes <;> rfl

theorem unary_of_primary (context : s.context = scriptContext lines op) (opens : Opens s.current)
    (read : primary ⟨rd, k + 1⟩ s = .ok t s') (context' : s'.context = scriptContext lines op)
    (closes : Closes s'.current) : unary ⟨rd, k + 1⟩ s = .ok t s' := by
  have operand : unary ⟨rd, k + 1⟩ s = unary.operand ⟨rd, k + 1⟩ s := by
    obtain ⟨current, start, newline, cursor, ls, le, mode, troubles, c⟩ := s
    cases opens <;> rfl
  have left : leftHandSide ⟨rd, k + 1⟩ s = .ok t s' := by
    rw [leftHandSide_of_opens context opens, bind_ok read, subscripts_of_closes context' closes]
  rw [operand, unary.operand, bind_ok left]
  obtain ⟨current, start, newline, cursor, ls, le, mode, troubles, c⟩ := s'
  cases closes <;> rfl

theorem firstOperand_of_unary (opens : Opens s.current) (read : r.unary s = .ok t s') :
    firstOperand r s = .ok t s' := by
  have noArrow : plainArrow? r s = .ok none s := by
    obtain ⟨current, start, newline, cursor, ls, le, mode, troubles, c⟩ := s
    cases opens <;> rfl
  have context : context s = .ok s.context s := rfl
  unfold firstOperand
  rw [bind_ok context]
  simp only [tryCatch, tryCatchThe, MonadExceptOf.tryCatch, EStateM.tryCatch]
  rw [bind_ok noArrow]
  simp only [read]

theorem conditional_of_unary (opens : Opens s.current) (read : Rules.unary ⟨rd, k + 1⟩ s = .ok t s')
    (notArrow : isArrow t = false) (context' : s'.context = scriptContext lines op)
    (closes : Closes s'.current) : conditional ⟨rd, k + 1⟩ s = .ok t s' := by
  have first : binary ⟨rd, k + 1⟩ s = .ok t s' := by
    rw [binary, bind_ok (firstOperand_of_unary opens read), notArrow]
    exact binaryRest_of_closes context' closes
  rw [conditional, bind_ok first, notArrow]
  obtain ⟨current, start, newline, cursor, ls, le, mode, troubles, c⟩ := s'
  cases closes <;> rfl

/-- What is behind the left side of an assignment, or behind an expression that is none. -/
def assignmentRest (r : Rules) (left : Tree) : Parser Tree := do
  if isArrow left || endsAsOperator left then return left
  match ← current with
  | .punctuator op =>
      if Token.assignmentOperators.contains op then
        advance
        let value ← r.assignment
        return .node (.assign op) [if op == "=" then asPattern left else left, value]
      else return left
  | _ => return left

theorem assignment_of_unary (context : s.context = scriptContext lines op) (opens : Opens s.current)
    (read : Rules.unary ⟨rd, k + 1⟩ s = .ok t s') (notArrow : isArrow t = false)
    (context' : s'.context = scriptContext lines op) (closes : Closes s'.current) :
    assignment ⟨rd, k + 1⟩ s = .ok t s' := by
  have left : assignment ⟨rd, k + 1⟩ s = (conditional ⟨rd, k + 1⟩ >>= assignmentRest ⟨rd, k + 1⟩) s := by
    obtain ⟨current, start, newline, cursor, ls, le, mode, troubles, c⟩ := s
    obtain rfl := context
    cases opens <;> rfl
  rw [left, bind_ok (conditional_of_unary opens read notArrow context' closes), assignmentRest, notArrow]
  obtain ⟨current, start, newline, cursor, ls, le, mode, troubles, c⟩ := s'
  cases endsAsOperator t <;> cases closes <;> rfl

/-- A primary expression by itself is an assignment. -/
theorem grammar_assignment (context : s.context = scriptContext lines op) (opens : Opens s.current)
    (read : primary ⟨grammar (k + 1), k + 1⟩ s = .ok t s') (notArrow : isArrow t = false)
    (context' : s'.context = scriptContext lines op) (closes : Closes s'.current) :
    grammar (k + 3) .assignment s = .ok t s' :=
  assignment_of_unary context opens (unary_of_primary context opens read context' closes) notArrow context' closes

theorem grammar_expression (read : grammar k .assignment s = .ok t s') (last : s'.current = .eof) :
    grammar (k + 1) .expression s = .ok t s' := by
  have first : grammar (k + 1) .expression s = _ := bind_ok read
  rw [first]
  obtain ⟨current, start, newline, cursor, ls, le, mode, troubles, c⟩ := s'
  obtain rfl := last
  rfl

/-- A string or a number is read as its leaf. -/
theorem primary_of_literal {token : Token} (opens : Opens token) (literal : stringOrNumber? token = some t)
    (here : s.current = token) (more : advance s = .ok () s') : primary r s = .ok t s' := by
  have goes : primary r s = (advance >>= fun _ => pure t) s := by
    obtain ⟨current, start, newline, cursor, ls, le, mode, troubles, c⟩ := s
    obtain rfl := here
    cases opens <;> cases literal <;> rfl
  rw [goes, bind_ok more]
  rfl

theorem primary_of_brace (here : s.current = .punctuator "\x7b") : primary r s = objectExpression r s := by
  obtain ⟨current, start, newline, cursor, ls, le, mode, troubles, c⟩ := s
  obtain rfl := here
  rfl

/-- A key is read off its token. -/
theorem key_of_word {name : String} (here : s.current = .word name) (more : advance s = .ok () s') :
    key r s = .ok (.leaf (.identifier name)) s' := by
  have goes : key r s = (advance >>= fun _ => pure (.leaf (.identifier name))) s := by
    obtain ⟨current, start, newline, cursor, ls, le, mode, troubles, c⟩ := s
    obtain rfl := here
    rfl
  rw [goes, bind_ok more]
  rfl

theorem key_of_string {value raw : String} (here : s.current = .string value raw)
    (more : advance s = .ok () s') : key r s = .ok (.leaf (.string value (some raw))) s' := by
  have goes : key r s = (advance >>= fun _ => pure (.leaf (.string value (some raw)))) s := by
    obtain ⟨current, start, newline, cursor, ls, le, mode, troubles, c⟩ := s
    obtain rfl := here
    rfl
  rw [goes, bind_ok more]
  rfl

end Productions

/-! ## Members -/

/-- What may stand behind a member. -/
inductive Ends : List Char → Prop
  | comma (rest : List Char) : Ends (',' :: rest)
  | brace (rest : List Char) : Ends (' ' :: '}' :: rest)

theorem Ends.starts {tail : List Char} (ends : Ends tail) (o : Nat) :
    ∃ token next, Starts ⟨tail, o⟩ token next ∧ Closes token := by
  cases ends with
  | comma rest => exact ⟨_, _, starts_comma rest o, .comma⟩
  | brace rest => exact ⟨_, _, starts_blank (starts_close rest (o + 1)), .brace⟩

/-- A reader that may nest deep enough takes a text in a member for what is wanted, whatever comes
behind the member. -/
def Takes (p : Nat → Parser Tree) (text : List Char) (wanted : Tree → Prop) : Prop :=
  ∀ (lines : List Nat) (o : Nat) (tail : List Char) (n : Nat), 16 * text.length + 16 ≤ n → Ends tail →
    (∃ token next, Starts ⟨text ++ tail, o⟩ token next ∧ token ≠ .punctuator "\x7d") ∧
    ∀ s, At (scriptContext lines true) ⟨text ++ tail, o⟩ s →
      ∃ t s', p n s = .ok t s' ∧ wanted t ∧ At (scriptContext lines true) ⟨tail, o + text.length⟩ s'

/-- The reader of values. -/
def valueAt (n : Nat) : Parser Tree := grammar n .assignment

/-- The reader of members. -/
def memberAt (n : Nat) : Parser Tree := objectProperty ⟨grammar n, n⟩

section Members

variable {value : List Char} {u : Tree} {lines : List Nat}

theorem takes_spread (takes : Takes valueAt value (Language.standard.Alike · u)) :
    Takes memberAt (['.', '.', '.'] ++ value) (Language.standard.AlikePart · (.node .spread [u])) := by
  intro lines o tail n enough ends
  rw [List.length_append] at enough
  obtain ⟨⟨token, next, first, -⟩, reads⟩ := takes lines (o + 3) tail n (by omega) ends
  have points : Starts ⟨['.', '.', '.'] ++ value ++ tail, o⟩ (.punctuator "...") ⟨value ++ tail, o + 3⟩ :=
    starts_points (value ++ tail) o
  refine ⟨⟨_, _, points, by decide⟩, fun s here => ?_⟩
  obtain ⟨s₁, advanced, there, -⟩ := advance_at here points first
  obtain ⟨u', s₂, read, alike, behind⟩ := reads s₁ there
  have offset : o + (['.', '.', '.'] ++ value).length = o + 3 + value.length := by
    rw [List.length_append]
    exact (Nat.add_assoc o 3 value.length).symm
  refine ⟨.node .spread [u'], s₂, ?_, alike, offset ▸ behind⟩
  rw [memberAt, objectProperty, bind_ok (eat_advance (here.token_eq points) advanced)]
  exact bind_ok read

/-- The token that a key is read off. -/
theorem key_of_spells {text : String} {k : Tree} (spells : Property.SpellsKey text k) (o : Nat)
    (rest : List Char) :
    ∃ token, Starts ⟨text.toList ++ ':' :: rest, o⟩ token ⟨':' :: rest, o + text.toList.length⟩ ∧
      (∀ p, token ≠ .punctuator p) ∧ ∃ k', k'.bare = k.bare ∧
        ∀ (r : Rules) {s s' : State}, s.current = token → advance s = .ok () s' → key r s = .ok k' s' := by
  cases spells with
  | name isName => exact ⟨_, starts_word isName rest o, nofun, _, rfl, fun r s s' here more => key_of_word here more⟩
  | literal text =>
      refine ⟨_, starts_quoted text (':' :: rest) o, nofun, _, ?_, fun r s s' here more => key_of_string here more⟩
      rw [scriptString_quoted]
      rfl

theorem takes_pair {text : String} {k : Tree} (spells : Property.SpellsKey text k)
    (takes : Takes valueAt value (Language.standard.Alike · u)) :
    Takes memberAt (text.toList ++ ':' :: ' ' :: value)
      (Language.standard.AlikePart · (.node .keyValue [k, u])) := by
  intro lines o tail n enough ends
  simp only [List.length_append, List.length_cons] at enough
  obtain ⟨⟨token, next, first, -⟩, reads⟩ := takes lines (o + text.toList.length + 2) tail n (by omega) ends
  obtain ⟨keyToken, named, notPunctuator, k', same, readsKey⟩ := key_of_spells spells o (' ' :: (value ++ tail))
  have colon := starts_colon (' ' :: (value ++ tail)) (o + text.toList.length)
  have shape : text.toList ++ ':' :: ' ' :: value ++ tail = text.toList ++ ':' :: ' ' :: (value ++ tail) := by
    rw [List.append_assoc]
    rfl
  rw [shape]
  refine ⟨⟨_, _, named, notPunctuator _⟩, fun s here => ?_⟩
  have other : ∀ p, s.current ≠ .punctuator p := fun p => by
    rw [here.token_eq named]
    exact notPunctuator p
  obtain ⟨s₁, advanced₁, at₁, -⟩ := advance_at here named colon
  obtain ⟨s₂, advanced₂, at₂, -⟩ := advance_at at₁ colon (starts_blank first)
  obtain ⟨u', s₃, read, alike, behind⟩ := reads s₂ (at_blank at₂)
  have offset : o + (text.toList ++ ':' :: ' ' :: value).length = o + text.toList.length + 2 + value.length := by
    simp only [List.length_append, List.length_cons]
    omega
  refine ⟨.node .keyValue [k', u'], s₃, ?_, ⟨same, alike⟩, offset ▸ behind⟩
  rw [memberAt, objectProperty, bind_ok (eat_other (other _)), if_neg Bool.false_ne_true,
    bind_ok (eat_other (other _)), if_neg Bool.false_ne_true,
    bind_ok (readsKey _ (here.token_eq named) advanced₁), bind_ok (eat_advance (at₁.token_eq colon) advanced₂)]
  exact bind_ok read

/-! ## Lists of members -/

/-- What stands behind a member when these are still to come. -/
def behindMember : List (List Char) → List Char
  | [] => [' ', '}']
  | member :: members => ',' :: ' ' :: (member ++ behindMember members)

@[simp] theorem length_behindMember_nil : (behindMember []).length = 2 := rfl

@[simp] theorem length_behindMember_cons (member : List Char) (members : List (List Char)) :
    (behindMember (member :: members)).length = member.length + (behindMember members).length + 2 := by
  simp [behindMember]

theorem length_le_behindMember (members : List (List Char)) : members.length + 2 ≤ (behindMember members).length := by
  induction members with
  | nil => exact Nat.le_refl 2
  | cons member members ih =>
      rw [length_behindMember_cons, List.length_cons]
      omega

theorem ends_behindMember (members : List (List Char)) : Ends (behindMember members) := by
  cases members with
  | nil => exact .brace []
  | cons member members => exact .comma _

/-- One round of a list: a member, and the comma behind it unless it is the last one. -/
def memberRound (n : Nat) : Parser Tree := do
  let member ← memberAt n
  unless ← isPunctuator "\x7d" do expect ","
  return member

variable {n : Nat} {t : Tree} {s s' s'' : State}

theorem memberRound_last (read : memberAt n s = .ok t s') (last : s'.current = .punctuator "\x7d") :
    memberRound n s = .ok t s' := by
  rw [memberRound, bind_ok read, bind_ok (isPunctuator_eq _ s'), beq_iff_eq.mpr last]
  rfl

theorem memberRound_more (read : memberAt n s = .ok t s') (comma : s'.current = .punctuator ",")
    (more : advance s' = .ok () s'') : memberRound n s = .ok t s'' := by
  have going : (s'.current == .punctuator "\x7d") = false := by
    rw [comma]
    rfl
  rw [memberRound, bind_ok read, bind_ok (isPunctuator_eq _ s'), going]
  exact bind_ok (expect_advance comma more)

variable {p : Nat → Parser Tree} {text tail : List Char} {wanted : Tree → Prop} {o : Nat}

theorem Takes.starts (takes : Takes p text wanted) (enough : 16 * text.length + 16 ≤ n) (ends : Ends tail) (o : Nat) :
    ∃ token next, Starts ⟨text ++ tail, o⟩ token next := by
  obtain ⟨⟨token, next, starts, -⟩, -⟩ := takes [] o tail n enough ends
  exact ⟨token, next, starts⟩

theorem Takes.reads (takes : Takes p text wanted) (enough : 16 * text.length + 16 ≤ n) (ends : Ends tail)
    (here : At (scriptContext lines true) ⟨text ++ tail, o⟩ s) :
    eat "\x7d" s = .ok false s ∧
      ∃ t s', p n s = .ok t s' ∧ wanted t ∧ At (scriptContext lines true) ⟨tail, o + text.length⟩ s' := by
  obtain ⟨⟨token, next, starts, notBrace⟩, reads⟩ := takes lines o tail n enough ends
  exact ⟨eat_other (by rwa [here.token_eq starts]), reads s here⟩

/-- Members with commas between them are read up to the closing brace: by induction on those behind
the first one. -/
theorem takes_members {member : List Char} {part : Tree} {members : List (List Char)} {parts : List Tree}
    (first : Takes memberAt member (Language.standard.AlikePart · part))
    (others : List.Forall₂ (fun m p => Takes memberAt m (Language.standard.AlikePart · p)) members parts)
    (enough : 16 * (member.length + (behindMember members).length) + 16 ≤ n) {b : Nat}
    (budget : members.length + 2 ≤ b)
    (here : At (scriptContext lines true) ⟨member ++ behindMember members, o⟩ s) :
    ∃ parts' s', untilEnd b (eat "\x7d") (memberRound n) s = .ok parts' s' ∧
      List.Forall₂ Language.standard.AlikePart parts' (part :: parts) ∧
      At (scriptContext lines true) ⟨[], o + (member.length + (behindMember members).length)⟩ s' ∧
      s'.lastEnd = o + (member.length + (behindMember members).length) := by
  induction others generalizing member part b o s with
  | nil =>
      obtain ⟨b, rfl⟩ : ∃ b', b = b' + 2 := ⟨b - 2, (Nat.sub_add_cancel budget).symm⟩
      obtain ⟨going, u, s₁, read, alike, at₁⟩ :=
        first.reads (n := n) (by omega) (ends_behindMember []) here
      have brace := starts_blank (starts_close [] (o + member.length + 1))
      obtain ⟨s₂, advanced, at₂, last⟩ := advance_at at₁ brace (starts_end _)
      exact ⟨[u], s₂, untilEnd_step going (memberRound_last read (at₁.token_eq brace))
        (untilEnd_end (eat_advance (at₁.token_eq brace) advanced)), .cons alike .nil, at₂, last⟩
  | @cons m p members parts second others ih =>
      rw [length_behindMember_cons] at enough
      rw [List.length_cons] at budget
      obtain ⟨b, rfl⟩ : ∃ b', b = b' + 1 := ⟨b - 1, by omega⟩
      obtain ⟨going, u, s₁, read, alike, at₁⟩ :=
        first.reads (n := n) (by omega) (ends_behindMember (m :: members)) here
      have comma := starts_comma (' ' :: (m ++ behindMember members)) (o + member.length)
      obtain ⟨token, next, starts⟩ :=
        second.starts (n := n) (by omega) (ends_behindMember members) (o + member.length + 2)
      obtain ⟨s₂, advanced, at₂, -⟩ := advance_at at₁ comma (starts_blank starts)
      obtain ⟨us, s₃, reads, alikes, at₃, last⟩ :=
        ih second (by omega) (b := b) (by omega) (at_blank at₂)
      have offset : o + (member.length + (behindMember (m :: members)).length) =
          o + member.length + 2 + (m.length + (behindMember members).length) := by
        rw [length_behindMember_cons]
        omega
      exact ⟨u :: us, s₃, untilEnd_step going (memberRound_more read (at₁.token_eq comma) advanced) reads,
        .cons alike alikes, offset ▸ at₃, last.trans offset.symm⟩

/-! ## Objects -/

/-- What stands behind the opening brace of an object. -/
def insideBraces : List (List Char) → List Char
  | [] => ['}']
  | member :: members => ' ' :: (member ++ behindMember members)

theorem length_insideBraces (member : List Char) (members : List (List Char)) :
    (insideBraces (member :: members)).length = 1 + (member.length + (behindMember members).length) := by
  rw [insideBraces, List.length_cons, List.length_append, Nat.add_comm]

theorem takes_list {members : List (List Char)} {parts : List Tree}
    (each : List.Forall₂ (fun m p => Takes memberAt m (Language.standard.AlikePart · p)) members parts)
    (enough : 16 * (insideBraces members).length + 16 ≤ n)
    (here : At (scriptContext lines true) ⟨'{' :: insideBraces members, o⟩ s) :
    ∃ parts' s', propertyList ⟨grammar n, n⟩ (memberAt n) s = .ok parts' s' ∧
      List.Forall₂ Language.standard.AlikePart parts' parts ∧
      At (scriptContext lines true) ⟨[], o + 1 + (insideBraces members).length⟩ s' ∧
      s'.lastEnd = o + 1 + (insideBraces members).length := by
  have brace := starts_open (insideBraces members) o
  cases each with
  | nil =>
      obtain ⟨n, rfl⟩ : ∃ n', n = n' + 1 := ⟨n - 1, by omega⟩
      obtain ⟨s₁, advanced, at₁, -⟩ := advance_at here brace (starts_close [] (o + 1))
      obtain ⟨s₂, advanced', at₂, last⟩ := advance_at at₁ (starts_close [] (o + 1)) (starts_end _)
      refine ⟨[], s₂, ?_, .nil, at₂, last⟩
      rw [propertyList, bind_ok (expect_advance (here.token_eq brace) advanced)]
      exact untilEnd_end (eat_advance (at₁.token_eq (starts_close [] (o + 1))) advanced')
  | @cons m p members parts first others =>
      rw [length_insideBraces] at enough ⊢
      have few := length_le_behindMember members
      obtain ⟨token, next, starts⟩ :=
        first.starts (n := n) (by omega) (ends_behindMember members) (o + 1 + 1)
      obtain ⟨s₁, advanced, at₁, -⟩ := advance_at here brace (starts_blank starts)
      obtain ⟨us, s₂, reads, alikes, at₂, last⟩ :=
        takes_members first others (n := n) (by omega) (b := n) (by omega) (at_blank at₁)
      rw [← Nat.add_assoc]
      refine ⟨us, s₂, ?_, alikes, at₂, last⟩
      rw [propertyList, bind_ok (expect_advance (here.token_eq brace) advanced)]
      exact reads

theorem takes_object {members : List (List Char)} {parts : List Tree}
    (each : List.Forall₂ (fun m p => Takes memberAt m (Language.standard.AlikePart · p)) members parts)
    (enough : 16 * (insideBraces members).length + 16 ≤ n)
    (here : At (scriptContext lines false) ⟨'{' :: insideBraces members, o⟩ s) :
    ∃ parts' s', objectExpression ⟨grammar n, n⟩ s = .ok (.node .object parts') s' ∧
      List.Forall₂ Language.standard.AlikePart parts' parts ∧
      At (scriptContext lines false) ⟨[], o + 1 + (insideBraces members).length⟩ s' ∧
      s'.lastEnd = o + 1 + (insideBraces members).length := by
  -- inside the braces `in` is an operator again
  have context : { s.context with inOperator := true, colonEnds := false } = scriptContext lines true := by
    rw [here.context]
    rfl
  have inside : At (scriptContext lines true) ⟨'{' :: insideBraces members, o⟩
      { s with context := { s.context with inOperator := true, colonEnds := false } } :=
    ⟨here.current, here.start, here.cursor, here.mode, here.quiet, context⟩
  obtain ⟨parts', s', read, alikes, behind, last⟩ := takes_list each enough inside
  refine ⟨parts', _, bind_ok (withContext_ok read), alikes,
    ⟨behind.current, behind.start, behind.cursor, behind.mode, behind.quiet, ?_⟩, last⟩
  show { s.context with silent := s'.context.silent } = _
  rw [here.context, behind.context]
  rfl

end Members

/-! ## Whole texts -/

section Texts

variable {text : String} {token : Token} {next : Cursor} {wanted : Tree → Prop} {t : Tree}

/-- A text without white space at its ends, which is read as it stands. -/
structure IsSolid (text : String) : Prop where
  first : ∃ c rest, text.toList = c :: rest ∧ Text.isWhite c = false ∧ c.toNat ≠ 0xfeff
  last : ∃ c rest, text.toList.reverse = c :: rest ∧ Text.isWhite c = false

namespace IsSolid

variable (solid : IsSolid text)

include solid

theorem trimWhite_eq : Text.trimWhite text = text := by
  obtain ⟨c, rest, first, notWhite, -⟩ := solid.first
  obtain ⟨d, others, last, notWhite'⟩ := solid.last
  rw [← String.toList_inj, Text.trimWhite, String.toList_ofList, Text.trimWhiteChars, Text.dropEndWhile,
    List.reverse_eq_iff, first, List.dropWhile_cons_of_neg (by simp [notWhite]), ← first, last,
    List.dropWhile_cons_of_neg (by simp [notWhite'])]

theorem isEmpty_eq : text.isEmpty = false := by
  obtain ⟨c, rest, first, -⟩ := solid.first
  rw [Bool.eq_false_iff, ne_eq, String.isEmpty_iff, ← String.toList_eq_nil_iff, first]
  exact List.cons_ne_nil c rest

theorem sourceChars_eq : sourceChars text = text.toList := by
  obtain ⟨c, rest, first, -, notMark⟩ := solid.first
  simp [sourceChars, first, withoutMark, notMark]

end IsSolid

theorem run_ok {α : Type} {c : Context} {cursor : Cursor} {p : Parser α} {a : α} {s : State}
    (ran : (do load cursor; p : Parser α) (startState c cursor) = .ok a s) :
    run c cursor p = ⟨.ok a, s.troubles.reverse⟩ := by
  unfold run
  rw [EStateM.run, ran]

/-- A text that is one primary expression is read as that expression. -/
theorem readFragment_of_primary (solid : IsSolid text)
    (starts : Starts ⟨text.toList, 0⟩ token next) (opens : Opens token)
    (reads : ∀ (lines : List Nat) (n : Nat) (s : State), 16 * text.toList.length + 16 ≤ n →
      At (scriptContext lines false) ⟨text.toList, 0⟩ s →
      ∃ t s', primary ⟨grammar n, n⟩ s = .ok t s' ∧ isArrow t = false ∧ wanted t ∧
        At (scriptContext lines false) ⟨[], text.toList.length⟩ s' ∧ s'.lastEnd = text.toList.length) :
    ∃ t, readFragment .standard text = .ok t ∧ wanted t := by
  let lines := lineStarts 0 text.toList
  let s := (startState (scriptContext lines false) ⟨text.toList, 0⟩).loaded ⟨text.toList, 0⟩
  have here : At (scriptContext lines false) ⟨text.toList, 0⟩ s :=
    ⟨rfl, rfl, rfl, rfl, rfl, rfl⟩
  obtain ⟨t, s', read, notArrow, holds, behind, stop⟩ :=
    reads lines (16 * text.toList.length + 61) s (by omega) here
  have ended : s'.current = .eof := behind.token_eq (starts_end _)
  have whole : grammar (depthFor text.toList) .expression s = .ok t s' :=
    grammar_expression (grammar_assignment here.context (by rwa [here.token_eq starts]) read notArrow
      behind.context (by rw [ended]; exact .eof)) ended
  have ran : (do
      load ⟨text.toList, 0⟩
      let t ← grammar (depthFor text.toList) .expression
      return (t, ← lastEnd) : Parser (Tree × Nat)) (startState (scriptContext lines false) ⟨text.toList, 0⟩) =
        .ok (t, text.toList.length) s' := by
    rw [bind_ok (load_eq starts rfl), bind_ok whole, ← stop]
    rfl
  have reading : readExpression Variant.tsx.dialect text = ⟨.ok (t, text.toList.length), []⟩ := by
    unfold readExpression
    rw [solid.sourceChars_eq]
    exact (run_ok ran).trans (by rw [behind.quiet]; rfl)
  have readText : Language.standard.readExpression Variant.tsx.dialect text = _ := reading
  refine ⟨t, ?_, holds⟩
  simp [readFragment, solid.trimWhite_eq, solid.isEmpty_eq, solid.sourceChars_eq, readText]

/-! ## Object literals -/

theorem toList_braced (members : List String) :
    (Property.braced members).toList = '{' :: insideBraces (members.map String.toList) := by
  cases members with
  | nil => rfl
  | cons member members =>
      have behind : (", ".intercalate (member :: members)).toList ++ [' ', '}'] =
          member.toList ++ behindMember (members.map String.toList) := by
        induction members generalizing member with
        | nil => simp [behindMember]
        | cons next members ih =>
            rw [String.intercalate_cons_cons, String.toList_append, String.toList_append, List.append_assoc, ih]
            simp [behindMember]
      simp [Property.braced, insideBraces, ← behind]

theorem isSolid_braced (members : List String) : IsSolid (Property.braced members) where
  first := ⟨'{', _, toList_braced members, by decide, by decide⟩
  last := by
    cases members with
    | nil => exact ⟨'}', _, rfl, by decide⟩
    | cons member members =>
        refine ⟨'}', ' ' :: (", ".intercalate (member :: members)).toList.reverse ++ [' ', '{'], ?_, by decide⟩
        simp [Property.braced]

/-- An object literal is read member by member. -/
theorem readFragment_braced {members : List String} {parts : List Tree}
    (each : List.Forall₂ (fun m p => Takes memberAt m.toList (Language.standard.AlikePart · p)) members parts) :
    ∃ parts' ∈ Language.standard.objectParts? (Property.braced members),
      List.Forall₂ Language.standard.AlikePart parts' parts := by
  have each : List.Forall₂ (fun m p => Takes memberAt m (Language.standard.AlikePart · p))
      (members.map String.toList) parts := List.forall₂_map_left_iff.mpr each
  have shape := toList_braced members
  have read : ∃ t, readFragment .standard (Property.braced members) = .ok t ∧
      ∃ parts', t = .node .object parts' ∧ List.Forall₂ Language.standard.AlikePart parts' parts := by
    refine readFragment_of_primary (isSolid_braced members) (shape ▸ starts_open _ 0) .brace
      fun lines n s enough here => ?_
    rw [shape] at enough here ⊢
    rw [List.length_cons] at enough ⊢
    obtain ⟨parts', s', read, alikes, behind, stop⟩ := takes_object (n := n) each (by omega) here
    rw [Nat.zero_add, Nat.add_comm] at behind stop
    have brace := here.token_eq (starts_open _ 0)
    exact ⟨_, s', (primary_of_brace brace).trans read, rfl, ⟨parts', rfl, alikes⟩, behind, stop⟩
  obtain ⟨t, read, parts', rfl, alikes⟩ := read
  exact ⟨parts', Language.objectParts?_eq_some.mpr read, alikes⟩

/-- A text that is read as the same expression whatever member comes behind it. -/
def Stands (text : String) : Prop :=
  ∃ u ∈ Language.standard.expression? text, Takes valueAt text.toList (Language.standard.Alike · u)

theorem takes_of_spells {part : Tree} (spells : Language.standard.Spells Stands text part) :
    Takes memberAt text.toList (Language.standard.AlikePart · part) := by
  cases spells with
  | pair named holds =>
      obtain ⟨u, read, takes⟩ := holds.fit
      obtain rfl := Option.some.inj (read.symm.trans holds.read)
      simpa using takes_pair named takes
  | spread holds =>
      obtain ⟨u, read, takes⟩ := holds.fit
      obtain rfl := Option.some.inj (read.symm.trans holds.read)
      simpa using takes_spread takes

/-- The library goes by the grammar of object literals, for expressions that stand. -/
theorem readsObjects_standard : Language.standard.ReadsObjects Stands :=
  fun _ _ spells => readFragment_braced (spells.imp fun _ _ => takes_of_spells)

-- the start of a generic arrow is taken for an element, which a later member closes
example : (Language.standard.expression? "<T extends U>(x) => x").isSome = true ∧
    Language.standard.expression?
      (Property.braced ["a: <T extends U>(x) => x", "b: \"</T>\""]) = none := by decide +kernel

/-! ## Expressions that stand -/

/-- A literal stands when its token ends where its text does. -/
theorem stands_of_literal (solid : IsSolid text) (opens : Opens token) (literal : stringOrNumber? token = some t)
    (starts : ∀ tail o, tail = [] ∨ Ends tail →
      Starts ⟨text.toList ++ tail, o⟩ token ⟨tail, o + text.toList.length⟩) : Stands text := by
  have notArrow : isArrow t = false := by
    cases opens <;> cases literal <;> rfl
  have notBrace : token ≠ .punctuator "\x7d" := by
    rintro rfl
    cases literal
  have alone := starts [] 0 (.inl rfl)
  rw [List.append_nil] at alone
  have read : ∃ t', readFragment .standard text = .ok t' ∧ t' = t := by
    refine readFragment_of_primary solid alone opens fun lines n s enough here => ?_
    obtain ⟨s', advanced, there, stop⟩ := advance_at here alone (starts_end _)
    rw [Nat.zero_add] at there stop
    exact ⟨t, s', primary_of_literal opens literal (here.token_eq alone) advanced, notArrow, rfl, there, stop⟩
  obtain ⟨t, read, rfl⟩ := read
  refine ⟨t, Language.mem_expression?.mpr read, fun lines o tail n enough ends => ?_⟩
  have first := starts tail o (.inr ends)
  refine ⟨⟨_, _, first, notBrace⟩, fun s here => ?_⟩
  obtain ⟨n, rfl⟩ : ∃ n', n = n' + 3 := ⟨n - 3, by omega⟩
  obtain ⟨next, behind, more, closes⟩ := ends.starts (o + text.toList.length)
  obtain ⟨s', advanced, there, -⟩ := advance_at here first more
  have current := here.token_eq first
  exact ⟨t, s', grammar_assignment here.context (current ▸ opens) (primary_of_literal opens literal current advanced)
    notArrow there.context (there.token_eq more ▸ closes), .refl t, there⟩

/-- Every string stands in the spelling of data. -/
theorem stands_quoted (text : String) : Stands (Json.quoted text) := by
  have solid : IsSolid (Json.quoted text) := {
    first := ⟨'"', _, Json.toList_quoted text, by decide, by decide⟩
    last := ⟨'"', (text.toList.flatMap Json.escaped).reverse ++ ['"'], by simp [Json.toList_quoted], by decide⟩ }
  exact stands_of_literal solid (.string _ _) rfl fun tail o _ => starts_quoted text tail o

/-- Every whole number stands. -/
theorem stands_digits {d : Char} {ds : List Char} (spelled : text.toList = d :: ds)
    (digits : ∀ c ∈ d :: ds, Text.isAsciiDigit c = true) (plain : d ≠ '0') : Stands text := by
  have apart : ∀ tail, tail = [] ∨ Ends tail → ∀ c ∈ tail.head?, c = ',' ∨ c = ' ' := by
    rintro tail (rfl | rest | rest) c first
    · cases first
    · exact .inl (Option.some.inj first).symm
    · exact .inr (Option.some.inj first).symm
  have solid : IsSolid text := {
    first := by
      have digit := digits d List.mem_cons_self
      have small := Text.toNat_of_isAsciiDigit digit
      exact ⟨d, ds, spelled, (digit_spec digit).2.2.1, by omega⟩
    last := by
      cases reversed : text.toList.reverse with
      | nil => simp [spelled] at reversed
      | cons c rest =>
          have member : c ∈ text.toList := List.mem_reverse.mp (reversed ▸ List.mem_cons_self)
          exact ⟨c, rest, rfl, (digit_spec (digits c (spelled ▸ member))).2.2.1⟩ }
  exact stands_of_literal solid (.number _ _) rfl
    fun tail o ends => starts_digits spelled digits plain (apart tail ends) o

/-- A state in which the first token of a text is at hand. -/
def inFront (lines : List Nat) (from_ : Cursor) (newline : Bool) (lastStart lastEnd : Nat) : State where
  current := (tokenAt from_).token
  start := (blanksAt from_).cursor
  afterNewline := newline
  cursor := (tokenAt from_).cursor
  lastStart := lastStart
  lastEnd := lastEnd
  mode := .code
  troubles := []
  context := scriptContext lines true

/-- What can be run with an unknown place and unknown members behind stands. -/
theorem stands_of_run (alone : t ∈ Language.standard.expression? text)
    (starts : ∀ tail o, Ends tail → ∃ token next, Starts ⟨text.toList ++ tail, o⟩ token next ∧
      token ≠ .punctuator "\x7d")
    (ran : ∀ n lines o tail newline first last, Ends tail → ∃ newline' first' last',
      valueAt (n + 8) (inFront lines ⟨text.toList ++ tail, o⟩ newline first last) =
        .ok t (inFront lines ⟨tail, o + text.toList.length⟩ newline' first' last')) : Stands text := by
  refine ⟨t, alone, fun lines o tail n enough ends => ⟨starts tail o ends, fun s here => ?_⟩⟩
  obtain ⟨n, rfl⟩ : ∃ n', n = n' + 8 := ⟨n - 8, by omega⟩
  obtain ⟨current, start, newline, cursor, first, last, mode, troubles, c⟩ := s
  obtain ⟨rfl, rfl, rfl, rfl, rfl, rfl⟩ := here
  obtain ⟨newline', first', last', ran⟩ := ran n lines o tail newline first last ends
  exact ⟨t, _, ran, .refl t, ⟨rfl, rfl, rfl, rfl, rfl, rfl⟩⟩

end Texts

end LiveMarkup.Syntax
