import FieldFilter.Dialect.Store
import FieldFilter.Proofs.Flattening

namespace FieldFilter

@[simp] theorem TextBuffer.append_append (b : TextBuffer) (s s' : String) :
    (b.append s).append s' = b.append (s ++ s') := by
  simp only [append, String.append_assoc, String.length_append, Nat.add_assoc]

theorem TextBuffer.append_empty (b : TextBuffer) : b.append "" = b := by
  simp [append]

namespace Writer

/-- The action appends the text to whatever buffer it is given, and does not fail. -/
def Writes (w : Writer) (s : String) : Prop :=
  ∀ b, w b = .ok () (b.append s)

theorem writes_append (s : String) : (append s).Writes s := fun _ => rfl

theorem writes_appendOr {text : Except FilterError String} {s : String} (given : text = .ok s) :
    (appendOr text).Writes s := by
  subst given
  exact writes_append s

theorem writes_pure : Writes (pure ()) "" :=
  fun b => congrArg (EStateM.Result.ok ()) b.append_empty.symm

theorem Writes.seq {w w' : Writer} {s s' : String} (first : w.Writes s) (second : w'.Writes s') :
    Writes (do w; w') (s ++ s') := by
  intro b
  rw [← b.append_append s s', ← second (b.append s)]
  simp only [bind, EStateM.bind, first b]

/-- The pieces of an expression are written one after the other. -/
theorem writes_assemble {symbol left right : Writer} {text : Piece → String}
    (plain : ∀ s, text (.text s) = s) (writesSymbol : symbol.Writes (text .symbol))
    (writesLeft : left.Writes (text .left)) (writesRight : right.Writes (text .right)) (pieces : List Piece) :
    (assemble symbol left right pieces).Writes (String.join (pieces.map text)) := by
  induction pieces with
  | nil => exact writes_pure
  | cons piece rest ih =>
    rw [List.map_cons, String.join_cons]
    cases piece with
    | text s =>
      rw [plain s]
      exact (writes_append s).seq ih
    | symbol => exact writesSymbol.seq ih
    | left => exact writesLeft.seq ih
    | right => exact writesRight.seq ih

end Writer

namespace Dialect

/-- A dialect that has a symbol for every operator but the negation, a spelling of fields, and writes
connectives between their sides. How a comparison is arranged may depend on its operator. -/
structure Infix (d : Dialect) : Prop where
  symbol : ∀ op, op ≠ .not → (d.symbol? op).isSome = true
  field : d.fieldText?.isSome = true
  arrange_congr : ∀ {tag other : Tag} (left right : Operand), tag.operator? = other.operator? →
    d.arrange tag left right = d.arrange other left right
  arrange_connective : ∀ {tag : Tag} (c : Connective) (left right : Operand),
    tag.operator? = some c.operator → d.arrange tag left right = [.left, .symbol, .right]

def symbol (d : Dialect) (op : Operator) : String :=
  (d.symbol? op).getD ""

/-- The reference to a field, if the dialect says how it refers to fields. -/
def field (d : Dialect) (settings : Settings) (name : String) : String :=
  (d.fieldText?.map fun text => text settings name).getD ""

/-- A piece of a comparison as it is written. -/
def pieceText (d : Dialect) (settings : Settings) (op : Operator) (field : String) (v : Value) :
    Piece → String
  | .text s => s
  | .symbol => d.symbol op
  | .left => d.field settings field
  | .right => d.valueText v

def atomText (d : Dialect) (settings : Settings) : Atom Value → String
  | .constant truth => if truth then d.trueText else d.falseText
  | .comparison op field v =>
    String.join ((d.arrange (.known op) (.key field) (.value v)).map (d.pieceText settings op field v))

def tokenText (d : Dialect) (settings : Settings) : Token (Atom Value) → String
  | .opening => d.groupOpen
  | .closing => d.groupClose
  | .joint c => d.symbol c.operator
  | .atom a => d.atomText settings a

def tokensText (d : Dialect) (settings : Settings) (tokens : List (Token (Atom Value))) : String :=
  String.join (tokens.map (d.tokenText settings))

theorem tokensText_nil (d : Dialect) (settings : Settings) : d.tokensText settings [] = "" :=
  String.join_nil

theorem tokensText_append (d : Dialect) (settings : Settings) (first second : List (Token (Atom Value))) :
    d.tokensText settings (first ++ second) = d.tokensText settings first ++ d.tokensText settings second := by
  rw [tokensText, List.map_append, String.join_append, tokensText, tokensText]

theorem tokensText_cons (d : Dialect) (settings : Settings) (token : Token (Atom Value))
    (rest : List (Token (Atom Value))) :
    d.tokensText settings (token :: rest) = d.tokenText settings token ++ d.tokensText settings rest := by
  rw [tokensText, List.map_cons, String.join_cons, tokensText]

theorem tokensText_atom (d : Dialect) (settings : Settings) (a : Atom Value) :
    d.tokensText settings [.atom a] = d.atomText settings a := by
  rw [tokensText_cons, tokensText_nil, String.append_empty, tokenText]

namespace Infix

variable {d : Dialect} (spells : d.Infix)

include spells in
theorem writes_symbol {tag : Tag} {op : Operator} (known : tag.operator? = some op) (named : op ≠ .not) :
    (Writer.appendOr (d.symbolText tag)).Writes (d.symbol op) := by
  obtain ⟨s, symbol⟩ := Option.isSome_iff_exists.1 (spells.symbol op named)
  apply Writer.writes_appendOr
  rw [symbolText, known, Option.bind_some, Dialect.symbol, symbol]
  rfl

include spells in
theorem writes_field (settings : Settings) (name : String) :
    (Writer.appendOr (d.fieldText settings name)).Writes (d.field settings name) := by
  obtain ⟨text, given⟩ := Option.isSome_iff_exists.1 spells.field
  apply Writer.writes_appendOr
  rw [Dialect.fieldText, Dialect.field, given]
  rfl

end Infix

end Dialect

namespace Operand

variable {d : Dialect} {settings : Settings}

theorem write_group (content : Operand) :
    (Operand.group content).write d settings = (do
      Writer.append d.groupOpen
      content.write d settings
      Writer.append d.groupClose) := by
  rw [write]

theorem write_connective (spells : d.Infix) {tag : Tag} {c : Connective}
    (known : tag.operator? = some c.operator) (left right : Operand) :
    (Operand.expression tag left right).write d settings =
      Writer.assemble (Writer.appendOr (d.symbolText tag)) (left.write d settings) (right.write d settings)
        [.left, .symbol, .right] := by
  have valued : lacksValue tag right = false := by
    rw [lacksValue, known]
    cases c <;> rfl
  have filled : isEmptyMembership tag right = false := by
    unfold isEmptyMembership
    rw [known]
    cases c <;> split <;> rfl
  have positive : some c.operator ≠ some Operator.not := by cases c <;> decide
  rw [write, valued, known, if_neg Bool.false_ne_true, if_neg positive, filled,
    if_neg Bool.false_ne_true, spells.arrange_connective c left right known]

theorem write_negation {tag : Tag} {left result : Operand} (known : tag.operator? = some .not)
    (negated : left.negate = .ok result) (right : Operand) :
    (Operand.expression tag left right).write d settings = result.write d settings := by
  have valued : lacksValue tag right = false := by
    rw [lacksValue, known]
    rfl
  rw [write, valued, known, if_neg Bool.false_ne_true, if_pos rfl]
  split
  · rename_i r run
    rw [negated] at run
    cases run
    rfl
  · rename_i e run
    rw [negated] at run
    cases run

theorem writes_comparison (spells : d.Infix) {tag : Tag} {op : Operator}
    (known : tag.operator? = some op) (compares : op.isLogical = false) (field : String) (v : Value) :
    ((Operand.expression tag (.key field) (.value v)).write d settings).Writes
      (d.atomText settings (.ofComparison op field v)) := by
  have valued : lacksValue tag (.value v) = false := by
    simp [lacksValue, isValue]
  have named : op ≠ .not := Operator.ne_not compares
  have positive : some op ≠ some Operator.not := fun same => named (Option.some.inj same)
  have same : tag.operator? = (Tag.known op).operator? := known
  have empty := isEmptyMembership_congr same (.value v)
  rw [write, valued, known, if_neg Bool.false_ne_true, if_neg positive, empty, Atom.ofComparison]
  split
  · have text : d.emptyMembershipText tag = d.atomText settings (.constant (op == .notIn)) := by
      rw [Dialect.emptyMembershipText, known, Dialect.atomText]
      cases op <;> rfl
    rw [text]
    exact Writer.writes_append _
  · have arranged := spells.arrange_congr (.key field) (.value v) same
    rw [arranged]
    refine Writer.writes_assemble (fun _ => rfl) (spells.writes_symbol known named) ?_ ?_ _
    · rw [write]
      exact spells.writes_field settings field
    · rw [write]
      exact Writer.writes_append _

/-- What is written for a plain filter is the tokens of its chain. -/
theorem Plain.writes {t : Operand} (plain : t.Plain) (spells : d.Infix) :
    (t.write d settings).Writes (d.tokensText settings t.chain.tokens) := by
  induction plain with
  | comparison field v known compares =>
    rw [chain_comparison known compares, Chain.tokens, Part.tokens, Dialect.tokensText_atom]
    exact writes_comparison spells known compares field v
  | @connective tag left right c known _ _ writesLeft writesRight =>
    have sides := (writesLeft.seq ((spells.writes_symbol known c.operator_ne_not).seq (writesRight.seq Writer.writes_pure)))
    rw [write_connective spells known, chain_connective known, Chain.tokens_append,
      Dialect.tokensText_append, Dialect.tokensText_cons, Dialect.tokenText]
    rw [String.append_empty] at sides
    exact sides
  | @group content _ writes =>
    have bracketed := (Writer.writes_append d.groupOpen).seq (writes.seq (Writer.writes_append d.groupClose))
    rw [write_group, chain, Chain.tokens, Part.tokens, Dialect.tokensText_cons, Dialect.tokensText_append,
      Dialect.tokensText_cons, Dialect.tokensText_nil, String.append_empty]
    exact bracketed

end Operand

theorem Dialect.render_of_writes {d : Dialect} {settings : Settings} {t : Operand} {s : String}
    (writes : (t.write d settings).Writes s) : d.render settings t = .ok s := by
  rw [render, writes]
  exact congrArg Except.ok String.empty_append

theorem Store.isInfix (store : Store) (given : Option String) : (store.dialect given).Infix where
  symbol op named := by cases store <;> cases op <;> first | rfl | exact absurd rfl named
  field := by cases store <;> rfl
  arrange_congr left right same := by
    cases store with
    | pgVector => simp only [dialect, Dialect.pgVector, Dialect.PgVector.arrange, Dialect.PgVector.cast?, same]
    | generic | milvus | mariaDb => rfl
  arrange_connective {tag} c left right known := by
    cases store with
    | pgVector =>
      have logical : tag.operator?.any Operator.isLogical = true := by
        rw [known, Option.any_some, c.isLogical_operator]
      simp only [dialect, Dialect.pgVector, Dialect.PgVector.arrange, Dialect.PgVector.cast?, logical, if_true]
    | generic | milvus | mariaDb => rfl

end FieldFilter
