import FieldFilter.Proofs.WellFormed

namespace FieldFilter

/-- A word of a written filter: a bracket of a group, a connective, or a filter without filters in it. -/
inductive Token (α : Type)
  | opening
  | closing
  | joint (c : Connective)
  | atom (a : α)
deriving DecidableEq

def Token.map {α β : Type} (f : α → β) : Token α → Token β
  | .opening => .opening
  | .closing => .closing
  | .joint c => .joint c
  | .atom a => .atom (f a)

mutual

/-- What stands next to a connective. -/
inductive Part (α : Type)
  | atom (a : α)
  | group (content : Chain α)

/-- Parts with connectives between them, from left to right. Nothing but the groups says which parts
belong together. -/
inductive Chain (α : Type)
  | last (p : Part α)
  | link (p : Part α) (c : Connective) (rest : Chain α)

end

variable {α β : Type}

mutual

def Part.tokens : Part α → List (Token α)
  | .atom a => [.atom a]
  | .group content => .opening :: (content.tokens ++ [.closing])

def Chain.tokens : Chain α → List (Token α)
  | .last p => p.tokens
  | .link p c rest => p.tokens ++ .joint c :: rest.tokens

end

mutual

def Part.map (f : α → β) : Part α → Part β
  | .atom a => .atom (f a)
  | .group content => .group (content.map f)

def Chain.map (f : α → β) : Chain α → Chain β
  | .last p => .last (p.map f)
  | .link p c rest => .link (p.map f) c (rest.map f)

end

namespace Chain

def append : Chain α → Connective → Chain α → Chain α
  | .last p, c, d => .link p c d
  | .link p k rest, c, d => .link p k (rest.append c d)

theorem tokens_append (left : Chain α) (c : Connective) (right : Chain α) :
    (left.append c right).tokens = left.tokens ++ .joint c :: right.tokens := by
  match left with
  | .last p => simp only [append, tokens]
  | .link p k rest => simp only [append, tokens, tokens_append rest c right, List.append_assoc, List.cons_append]

theorem map_append (f : α → β) (left : Chain α) (c : Connective) (right : Chain α) :
    (left.append c right).map f = (left.map f).append c (right.map f) := by
  match left with
  | .last p => simp only [append, map]
  | .link p k rest => simp only [append, map, map_append f rest c right]

end Chain

mutual

theorem Part.tokens_map (f : α → β) (p : Part α) : (p.map f).tokens = p.tokens.map (Token.map f) := by
  match p with
  | .atom a => rfl
  | .group content =>
    simp only [Part.map, Part.tokens, Chain.tokens_map f content, List.map_cons, List.map_append, Token.map,
      List.map_nil]

theorem Chain.tokens_map (f : α → β) (c : Chain α) : (c.map f).tokens = c.tokens.map (Token.map f) := by
  match c with
  | .last p => simp only [Chain.map, Chain.tokens, Part.tokens_map f p]
  | .link p k rest =>
    simp only [Chain.map, Chain.tokens, Part.tokens_map f p, Chain.tokens_map f rest, List.map_append,
      List.map_cons, Token.map]

end

/-- What is known of one level of brackets when its tokens are read from the right: nothing yet, a chain,
or a chain with a connective in front of it. -/
inductive BracketLevel (α : Type)
  | blank
  | chain (c : Chain α)
  | joined (c : Connective) (rest : Chain α)

/-- Puts a part to the left of what is known. Two parts have a connective between them. -/
def BracketLevel.put : BracketLevel α → Part α → Option (BracketLevel α)
  | .blank, p => some (.chain (.last p))
  | .joined c rest, p => some (.chain (.link p c rest))
  | .chain _, _ => none

namespace Token

/-- Reads one more token. The first level is the innermost one. -/
def read : Token α → List (BracketLevel α) → Option (List (BracketLevel α))
  | .closing, levels => some (.blank :: levels)
  | .opening, .chain c :: level :: outer => (level.put (.group c)).map (· :: outer)
  | .joint c, .chain rest :: outer => some (.joined c rest :: outer)
  | .atom a, level :: outer => (level.put (.atom a)).map (· :: outer)
  | _, _ => none

def readAll (tokens : List (Token α)) (levels : List (BracketLevel α)) : Option (List (BracketLevel α)) :=
  tokens.foldr (fun token read? => read?.bind token.read) (some levels)

theorem readAll_cons (token : Token α) {tokens : List (Token α)} {levels after : List (BracketLevel α)}
    (run : readAll tokens levels = some after) : readAll (token :: tokens) levels = token.read after := by
  simp only [readAll, List.foldr_cons] at run ⊢
  rw [run, Option.bind_some]

theorem readAll_append (left : List (Token α)) {right : List (Token α)} {levels after : List (BracketLevel α)}
    (run : readAll right levels = some after) : readAll (left ++ right) levels = readAll left after := by
  simp only [readAll, List.foldr_append] at run ⊢
  rw [run]

end Token

/-- The chain that tokens are written for. Brackets are matched first of all. -/
def Chain.ofTokens? (tokens : List (Token α)) : Option (Chain α) :=
  match Token.readAll tokens [.blank] with
  | some [.chain c] => some c
  | _ => none

mutual

theorem Part.readAll_tokens {level after : BracketLevel α} (p : Part α) (outer : List (BracketLevel α))
    (put : level.put p = some after) : Token.readAll p.tokens (level :: outer) = some (after :: outer) := by
  match p with
  | .atom a =>
    have read := Token.readAll_cons (.atom a) (rfl : Token.readAll [] (level :: outer) = _)
    rw [Part.tokens, read, Token.read, put, Option.map_some]
  | .group content =>
    have close : Token.readAll [Token.closing] (level :: outer) = some (.blank :: level :: outer) := rfl
    have inner := Token.readAll_append content.tokens close
    rw [Chain.readAll_tokens content (level :: outer)] at inner
    rw [Part.tokens, Token.readAll_cons .opening inner, Token.read, put, Option.map_some]

theorem Chain.readAll_tokens (c : Chain α) (outer : List (BracketLevel α)) :
    Token.readAll c.tokens (.blank :: outer) = some (.chain c :: outer) := by
  match c with
  | .last p => exact Part.readAll_tokens p outer rfl
  | .link p k rest =>
    have joined := Token.readAll_cons (.joint k) (Chain.readAll_tokens rest outer)
    rw [Chain.tokens, Token.readAll_append p.tokens joined]
    exact Part.readAll_tokens p outer rfl

end

namespace Chain

theorem ofTokens?_tokens (c : Chain α) : ofTokens? c.tokens = some c := by
  rw [ofTokens?, readAll_tokens]

theorem tokens_injective {c d : Chain α} (same : c.tokens = d.tokens) : c = d := by
  have read := congrArg ofTokens? same
  rw [ofTokens?_tokens, ofTokens?_tokens] at read
  exact Option.some.inj read

end Chain

end FieldFilter
