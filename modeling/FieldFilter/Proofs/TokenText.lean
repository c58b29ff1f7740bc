import FieldFilter.Proofs.ValueText
import FieldFilter.Proofs.Writing

namespace FieldFilter

namespace Token

variable {α β : Type} {valid : α → Prop}

/-- Tokens in the order in which a chain has them, as far as it shows from one token to the next. The flag
says that a part is due. -/
def Placed (valid : α → Prop) : Bool → List (Token α) → Prop
  | true, .opening :: rest => Placed valid true rest
  | true, .atom a :: rest => valid a ∧ Placed valid false rest
  | false, .closing :: rest => Placed valid false rest
  | false, .joint _ :: rest => Placed valid true rest
  | false, [] => True
  | _, _ => False

theorem Placed.part {tokens : List (Token α)} (placed : Placed valid true tokens) :
    (∃ rest, tokens = .opening :: rest ∧ Placed valid true rest) ∨
      ∃ a rest, tokens = .atom a :: rest ∧ valid a ∧ Placed valid false rest := by
  match tokens with
  | .opening :: rest => exact Or.inl ⟨rest, rfl, placed⟩
  | .atom a :: rest => exact Or.inr ⟨a, rest, rfl, placed⟩

theorem Placed.after {tokens : List (Token α)} (placed : Placed valid false tokens) :
    tokens = [] ∨ (∃ rest, tokens = .closing :: rest ∧ Placed valid false rest) ∨
      ∃ c rest, tokens = .joint c :: rest ∧ Placed valid true rest := by
  match tokens with
  | [] => exact Or.inl rfl
  | .closing :: rest => exact Or.inr (Or.inl ⟨rest, rfl, placed⟩)
  | .joint c :: rest => exact Or.inr (Or.inr ⟨c, rest, rfl, placed⟩)

end Token

section Placement

variable {α : Type} {valid : α → Prop}

mutual

theorem Part.placed (p : Part α) {rest : List (Token α)} (atoms : ∀ a, .atom a ∈ p.tokens → valid a)
    (placed : Token.Placed valid false rest) : Token.Placed valid true (p.tokens ++ rest) := by
  match p with
  | .atom a => exact ⟨atoms a List.mem_cons_self, placed⟩
  | .group content =>
    have inside : ∀ a, .atom a ∈ content.tokens → valid a := fun a member =>
      atoms a (List.mem_cons_of_mem _ (List.mem_append_left _ member))
    have closed : Token.Placed valid false (.closing :: rest) := placed
    have inner := Chain.placed content inside closed
    rw [Part.tokens, List.cons_append, List.append_assoc]
    exact inner

theorem Chain.placed (c : Chain α) {rest : List (Token α)} (atoms : ∀ a, .atom a ∈ c.tokens → valid a)
    (placed : Token.Placed valid false rest) : Token.Placed valid true (c.tokens ++ rest) := by
  match c with
  | .last p => exact Part.placed p atoms placed
  | .link p k others =>
    have first : ∀ a, .atom a ∈ p.tokens → valid a := fun a member => atoms a (List.mem_append_left _ member)
    have later : ∀ a, .atom a ∈ others.tokens → valid a := fun a member =>
      atoms a (List.mem_append_right _ (List.mem_cons_of_mem _ member))
    have joined : Token.Placed valid false (.joint k :: (others.tokens ++ rest)) := Chain.placed others later placed
    rw [Chain.tokens, List.append_assoc]
    exact Part.placed p first joined

end

end Placement

/-- What may stand behind an atom: nothing, a closing bracket, or the space before a connective. -/
def Stops (r : List Char) : Prop :=
  ∀ c ∈ r.head?, c = ')' ∨ c = ' '

namespace Dialect

variable {β : Type} {d : Dialect} {settings : Settings} {valid : Atom Value → Prop} {meaning : Value → β}

/-- How a dialect writes tokens, so that they read back. An atom may begin with a bracket itself, but never
looks like a bracket and what may stand behind it. -/
structure SpellsTokens (d : Dialect) (settings : Settings) (valid : Atom Value → Prop) (meaning : Value → β) :
    Prop where
  opening : d.groupOpen.toList = ['(']
  closing : d.groupClose.toList = [')']
  joint : ReadsBack (fun _ => True) (fun _ => True) (fun c : Connective => (d.symbol c.operator).toList) id
  spaced : ∀ c : Connective, ∃ rest, (d.symbol c.operator).toList = ' ' :: rest
  atom : ReadsBack valid Stops (fun a => (d.atomText settings a).toList) (Atom.map meaning)
  bracketed : ∀ a b r s, valid a → valid b → Stops r → Stops s →
    '(' :: ((d.atomText settings a).toList ++ r) ≠ (d.atomText settings b).toList ++ s
  doubled : ∀ b r s, valid b → Stops s → '(' :: '(' :: r ≠ (d.atomText settings b).toList ++ s
  congr : ∀ a b : Atom Value, valid a → valid b → a.map meaning = b.map meaning →
    d.atomText settings a = d.atomText settings b

theorem toList_tokensText_cons (token : Token (Atom Value)) (rest : List (Token (Atom Value))) :
    (d.tokensText settings (token :: rest)).toList =
      (d.tokenText settings token).toList ++ (d.tokensText settings rest).toList := by
  rw [tokensText_cons, String.toList_append]

namespace SpellsTokens

variable (spells : d.SpellsTokens settings valid meaning)

include spells in
theorem stops {tokens : List (Token (Atom Value))} (placed : Token.Placed valid false tokens) :
    Stops (d.tokensText settings tokens).toList := by
  intro c first
  rcases placed.after with rfl | ⟨rest, rfl, _⟩ | ⟨k, rest, rfl, _⟩
  · simp [tokensText_nil] at first
  · rw [toList_tokensText_cons, tokenText, spells.closing] at first
    exact Or.inl (Option.some.inj first).symm
  · obtain ⟨symbol, spelled⟩ := spells.spaced k
    rw [toList_tokensText_cons, tokenText, spelled] at first
    exact Or.inr (Option.some.inj first).symm

include spells in
/-- A bracket and the part behind it are never taken for an atom. -/
theorem opening_ne_atom {tokens tokens' : List (Token (Atom Value))} {b : Atom Value}
    (placed : Token.Placed valid true tokens) (given : valid b) (placed' : Token.Placed valid false tokens') :
    (d.tokensText settings (.opening :: tokens)).toList ≠ (d.tokensText settings (.atom b :: tokens')).toList := by
  rw [toList_tokensText_cons, toList_tokensText_cons, tokenText, tokenText, spells.opening]
  rcases placed.part with ⟨rest, rfl, _⟩ | ⟨a, rest, rfl, given', placedRest⟩
  · rw [toList_tokensText_cons, tokenText, spells.opening]
    exact spells.doubled b _ _ given (spells.stops placed')
  · rw [toList_tokensText_cons, tokenText]
    exact spells.bracketed a b _ _ given' given (spells.stops placedRest) (spells.stops placed')

include spells in
theorem closing_ne_joint (c : Connective) (rest rest' : List (Token (Atom Value))) :
    (d.tokensText settings (.closing :: rest)).toList ≠ (d.tokensText settings (.joint c :: rest')).toList := by
  obtain ⟨symbol, spelled⟩ := spells.spaced c
  rw [toList_tokensText_cons, toList_tokensText_cons, tokenText, tokenText, spells.closing, spelled]
  intro same
  exact absurd (List.cons.inj same).1 (by decide)

include spells in
theorem tokens_of_text {due : Bool} {tokens tokens' : List (Token (Atom Value))}
    (placed : Token.Placed valid due tokens) (placed' : Token.Placed valid due tokens')
    (same : (d.tokensText settings tokens).toList = (d.tokensText settings tokens').toList) :
    tokens.map (Token.map (Atom.map meaning)) = tokens'.map (Token.map (Atom.map meaning)) := by
  -- The induction is on the first row: what stands in front of it, a token or the end, shows in the text,
  -- and the flag leaves only tokens that begin differently or are told apart by one hypothesis each.
  induction tokens generalizing due tokens' with
  | nil =>
    cases due with
    | true => exact absurd placed.part (by simp)
    | false =>
      rcases placed'.after with rfl | ⟨rest, rfl, _⟩ | ⟨k, rest, rfl, _⟩
      · rfl
      · rw [toList_tokensText_cons, tokenText, spells.closing, tokensText_nil] at same
        exact absurd same (by simp)
      · obtain ⟨symbol, spelled⟩ := spells.spaced k
        rw [toList_tokensText_cons, tokenText, spelled, tokensText_nil] at same
        exact absurd same (by simp)
  | cons token rest ih =>
    cases due with
    | true =>
      rcases placed.part with ⟨rest₁, head, placedRest⟩ | ⟨a, rest₁, head, given, placedRest⟩ <;>
        obtain ⟨rfl, rfl⟩ := List.cons.inj head
      · rcases placed'.part with ⟨rest', rfl, placedRest'⟩ | ⟨b, rest', rfl, given', placedRest'⟩
        · rw [toList_tokensText_cons, toList_tokensText_cons] at same
          rw [List.map_cons, List.map_cons, ih placedRest placedRest' (List.append_cancel_left same)]
        · exact absurd same (spells.opening_ne_atom placedRest given' placedRest')
      · rcases placed'.part with ⟨rest', rfl, placedRest'⟩ | ⟨b, rest', rfl, given', placedRest'⟩
        · exact absurd same.symm (spells.opening_ne_atom placedRest' given placedRest)
        · rw [toList_tokensText_cons, toList_tokensText_cons] at same
          obtain ⟨equal, rests⟩ :=
            spells.atom given given' (spells.stops placedRest) (spells.stops placedRest') same
          rw [List.map_cons, List.map_cons, ih placedRest placedRest' rests, Token.map, Token.map, equal]
    | false =>
      rcases placed.after with empty | ⟨rest₁, head, placedRest⟩ | ⟨k, rest₁, head, placedRest⟩
      · exact absurd empty (List.cons_ne_nil _ _)
      · obtain ⟨rfl, rfl⟩ := List.cons.inj head
        rcases placed'.after with rfl | ⟨rest', rfl, placedRest'⟩ | ⟨k', rest', rfl, _⟩
        · rw [toList_tokensText_cons, tokenText, spells.closing, tokensText_nil] at same
          exact absurd same (by simp)
        · rw [toList_tokensText_cons, toList_tokensText_cons] at same
          rw [List.map_cons, List.map_cons, ih placedRest placedRest' (List.append_cancel_left same)]
        · exact absurd same (spells.closing_ne_joint k' rest rest')
      · obtain ⟨rfl, rfl⟩ := List.cons.inj head
        rcases placed'.after with rfl | ⟨rest', rfl, _⟩ | ⟨k', rest', rfl, placedRest'⟩
        · obtain ⟨symbol, spelled⟩ := spells.spaced k
          rw [toList_tokensText_cons, tokenText, spelled, tokensText_nil] at same
          exact absurd same (by simp)
        · exact absurd same.symm (spells.closing_ne_joint k rest' rest)
        · rw [toList_tokensText_cons, toList_tokensText_cons] at same
          obtain ⟨equal, rests⟩ := spells.joint trivial trivial trivial trivial same
          rw [List.map_cons, List.map_cons, ih placedRest placedRest' rests, show k = k' from equal]

include spells in
theorem text_of_tokens {tokens tokens' : List (Token (Atom Value))} (atoms : ∀ a, .atom a ∈ tokens → valid a)
    (atoms' : ∀ a, .atom a ∈ tokens' → valid a)
    (same : tokens.map (Token.map (Atom.map meaning)) = tokens'.map (Token.map (Atom.map meaning))) :
    d.tokensText settings tokens = d.tokensText settings tokens' := by
  induction tokens generalizing tokens' with
  | nil =>
    cases tokens' with
    | nil => rfl
    | cons token' rest' => exact absurd same (by simp)
  | cons token rest ih =>
    cases tokens' with
    | nil => exact absurd same (by simp)
    | cons token' rest' =>
      obtain ⟨head, tail⟩ := List.cons.inj same
      have rests := ih (fun a member => atoms a (List.mem_cons_of_mem _ member))
        (fun a member => atoms' a (List.mem_cons_of_mem _ member)) tail
      have text : d.tokenText settings token = d.tokenText settings token' := by
        cases token <;> cases token' <;>
          simp only [Token.map, reduceCtorEq, Token.joint.injEq, Token.atom.injEq] at head
        · rfl
        · rfl
        · rw [head]
        · exact spells.congr _ _ (atoms _ List.mem_cons_self) (atoms' _ List.mem_cons_self) head
      rw [tokensText_cons, tokensText_cons, text, rests]

include spells in
/-- Two chains are written alike exactly when they are the same, as far as they are known. -/
theorem tokensText_eq_iff {c c' : Chain (Atom Value)} (atoms : ∀ a, .atom a ∈ c.tokens → valid a)
    (atoms' : ∀ a, .atom a ∈ c'.tokens → valid a) :
    d.tokensText settings c.tokens = d.tokensText settings c'.tokens ↔
      c.map (Atom.map meaning) = c'.map (Atom.map meaning) := by
  constructor
  · intro same
    have placed : Token.Placed valid true (c.tokens ++ []) := Chain.placed c atoms trivial
    have placed' : Token.Placed valid true (c'.tokens ++ []) := Chain.placed c' atoms' trivial
    rw [List.append_nil] at placed placed'
    have tokens := spells.tokens_of_text placed placed' (congrArg String.toList same)
    rw [← Chain.tokens_map, ← Chain.tokens_map] at tokens
    exact Chain.tokens_injective tokens
  · intro same
    have tokens := congrArg Chain.tokens same
    rw [Chain.tokens_map, Chain.tokens_map] at tokens
    exact spells.text_of_tokens atoms atoms' tokens

end SpellsTokens

end Dialect

end FieldFilter
