import FieldFilter.Proofs.TokenText

namespace FieldFilter

/-- An atom that a plain filter without doubles that are no numbers can have. -/
def Atom.Writable : Atom Value → Prop
  | .constant _ => True
  | .comparison op _ v => op.isLogical = false ∧ v.AllNumbers

theorem Atom.writable_ofComparison {op : Operator} (compares : op.isLogical = false) (field : String) {v : Value}
    (numbers : v.AllNumbers) : (Atom.ofComparison op field v).Writable := by
  unfold Atom.ofComparison
  split
  · trivial
  · exact ⟨compares, numbers⟩

namespace Operand

def AllNumbers : Operand → Prop
  | .value v => v.AllNumbers
  | .expression _ left right => left.AllNumbers ∧ right.AllNumbers
  | .group content => content.AllNumbers
  | _ => True

/-- The parts of a plain filter from left to right, with the values as far as they are known. -/
def flattening (known : Scalar → Scalar) (t : Operand) : Chain (Atom Contents) :=
  t.chain.map (Atom.map (Value.contents known))

theorem Plain.writable {t : Operand} (plain : t.Plain) (numbers : t.AllNumbers) :
    ∀ a, .atom a ∈ t.chain.tokens → a.Writable := by
  induction plain with
  | comparison field v known compares =>
    rw [chain_comparison known compares]
    intro a member
    obtain rfl : a = Atom.ofComparison _ field v := by simpa [Chain.tokens, Part.tokens] using member
    exact Atom.writable_ofComparison compares field numbers.2
  | connective c known _ _ left right =>
    rw [chain_connective known, Chain.tokens_append]
    intro a member
    rcases List.mem_append.1 member with first | second
    · exact left numbers.1 a first
    · rcases List.mem_cons.1 second with joint | later
      · exact absurd joint (by simp)
      · exact right numbers.2 a later
  | group _ content =>
    intro a member
    have inside : Token.atom a ∈ Token.opening :: (_ ++ [Token.closing]) := member
    rcases List.mem_cons.1 inside with bracket | later
    · exact absurd bracket (by simp)
    · rcases List.mem_append.1 later with found | bracket
      · exact content numbers a found
      · exact absurd bracket (by simp)

end Operand

/-- Values with the same contents are written alike, if what is not known of a scalar is not written. -/
theorem Dialect.valueText_congr {d : Dialect} {known : Scalar → Scalar}
    (shown : ∀ s, d.scalarText (known s) = d.scalarText s) {v w : Value}
    (same : v.contents known = w.contents known) : d.valueText v = d.valueText w := by
  cases v with
  | scalar s =>
    cases w with
    | scalar t =>
      have scalars : known s = known t := Contents.scalar.inj same
      rw [valueText, valueText, ← shown s, scalars, shown t]
    | list m => exact absurd same (by simp [Value.contents])
  | list l =>
    cases w with
    | scalar t => exact absurd same (by simp [Value.contents])
    | list m =>
      have items : l.items.map known = m.items.map known := Contents.list.inj same
      have texts (k : ScalarList) : k.items.map d.scalarText = (k.items.map known).map d.scalarText := by
        rw [List.map_map]
        exact List.map_congr_left fun s _ => (shown s).symm
      rw [valueText, valueText, texts l, texts m, items]

namespace Dialect

variable {d : Dialect} {settings : Settings} {p : Char → Bool} {known : Scalar → Scalar}

theorem atomText_infixed {op : Operator} {field : String} {v : Value}
    (arranged : d.arrange (.known op) (.key field) (.value v) = [.left, .symbol, .right]) :
    d.atomText settings (.comparison op field v) =
      d.field settings field ++ (d.symbol op ++ d.valueText v) := by
  rw [atomText, arranged, List.map_cons, List.map_cons, List.map_cons, List.map_nil, String.join_cons,
    String.join_cons, String.join_cons, String.join_nil, String.append_empty]
  rfl

def SymbolAhead (d : Dialect) (r : List Char) : Prop :=
  ∃ op s, Operator.isLogical op = false ∧ r = (d.symbol op).toList ++ s

/-- How a dialect writes comparisons, so that they read back: what stands on the left tells the field and
where it ends, the symbol tells the operator, and then the value follows. -/
structure SpellsAtoms (d : Dialect) (settings : Settings) (p : Char → Bool) (known : Scalar → Scalar)
    (front : String → Value → String) : Prop where
  values : d.SpellsValues p known
  outside : p ')' = false ∧ p ' ' = false
  comparison : ∀ op field v, op.isLogical = false →
    d.atomText settings (.comparison op field v) = front field v ++ (d.symbol op ++ d.valueText v)
  field : ReadsBack (fun _ => True) d.SymbolAhead (fun given : String × Value => (front given.1 given.2).toList)
    Prod.fst
  symbol : ReadsBack (fun op : Operator => op.isLogical = false) (fun _ => True)
    (fun op => (d.symbol op).toList) id
  constant : ReadsBack (fun _ => True) Stops
    (fun truth => (d.atomText settings (.constant truth)).toList) id
  shown : ∀ s, d.scalarText (known s) = d.scalarText s
  front_congr : ∀ field v w, v.contents known = w.contents known → front field v = front field w
  settled : ∀ truth field v r s, Stops r →
    (d.atomText settings (.constant truth)).toList ++ r ≠ (front field v).toList ++ s

variable {front : String → Value → String}

theorem SpellsAtoms.readsBack_atomText (spells : d.SpellsAtoms settings p known front) :
    ReadsBack Atom.Writable Stops (fun a => (d.atomText settings a).toList) (Atom.map (Value.contents known)) := by
  have after {r : List Char} (stops : Stops r) : StartsOutside p r := by
    intro c first
    rcases stops c first with rfl | rfl
    · exact spells.outside.1
    · exact spells.outside.2
  intro a b r s given given' atLeft atRight same
  cases a with
  | constant truth =>
    cases b with
    | constant truth' =>
      obtain ⟨equal, rests⟩ := spells.constant trivial trivial atLeft atRight same
      exact ⟨congrArg Atom.constant equal, rests⟩
    | comparison op field v =>
      simp only [spells.comparison op field v given'.1, String.toList_append, List.append_assoc] at same
      exact absurd same (spells.settled truth field v r _ atLeft)
  | comparison op field v =>
    cases b with
    | constant truth =>
      simp only [spells.comparison op field v given.1, String.toList_append, List.append_assoc] at same
      exact absurd same.symm (spells.settled truth field v s _ atRight)
    | comparison op' field' v' =>
      simp only [spells.comparison op field v given.1, spells.comparison op' field' v' given'.1,
        String.toList_append, List.append_assoc] at same
      obtain ⟨fields, symbols⟩ := spells.field (a := (field, v)) (b := (field', v')) trivial trivial
        ⟨op, _, given.1, rfl⟩ ⟨op', _, given'.1, rfl⟩ same
      obtain ⟨operators, values⟩ := spells.symbol given.1 given'.1 trivial trivial symbols
      obtain ⟨contents, rests⟩ :=
        spells.values.readsBack_valueText given.2 given'.2 (after atLeft) (after atRight) values
      have operator : op = op' := operators
      have name : field = field' := fields
      rw [Atom.map, Atom.map, operator, name, contents]
      exact ⟨rfl, rests⟩

/-- What is not known of an atom is not written. -/
theorem SpellsAtoms.atomText_congr (spells : d.SpellsAtoms settings p known front) {a b : Atom Value}
    (given : a.Writable) (given' : b.Writable)
    (same : a.map (Value.contents known) = b.map (Value.contents known)) :
    d.atomText settings a = d.atomText settings b := by
  cases a with
  | constant truth =>
    cases b with
    | constant truth' => rw [Atom.constant.inj same]
    | comparison op field v => exact absurd same (by simp [Atom.map])
  | comparison op field v =>
    cases b with
    | constant truth => exact absurd same (by simp [Atom.map])
    | comparison op' field' v' =>
      obtain ⟨rfl, rfl, contents⟩ := Atom.comparison.inj same
      rw [spells.comparison op field v given.1, spells.comparison op field v' given'.1,
        spells.front_congr field v v' contents, valueText_congr spells.shown contents]

theorem SpellsAtoms.unbracketed (spells : d.SpellsAtoms settings p known front)
    (constants : ∀ truth r s, (d.atomText settings (.constant truth)).toList ++ r ≠ '(' :: s)
    (fronts : ∀ field v r s, (front field v).toList ++ r ≠ '(' :: s) (b : Atom Value) (r s : List Char)
    (given : b.Writable) : '(' :: r ≠ (d.atomText settings b).toList ++ s := by
  cases b with
  | constant truth => exact (constants truth s r).symm
  | comparison op field v =>
    rw [spells.comparison op field v given.1, String.toList_append, List.append_assoc]
    exact (fronts field v _ r).symm

/-- Plain filters are written alike exactly when they have the same parts from left to right, as far as
these are known. -/
theorem SpellsTokens.render_eq_iff (spells : d.SpellsTokens settings Atom.Writable (Value.contents known))
    (infixed : d.Infix) {t u : Operand} (plain : t.Plain) (plain' : u.Plain) (numbers : t.AllNumbers)
    (numbers' : u.AllNumbers) :
    ∃ text text', d.render settings t = .ok text ∧ d.render settings u = .ok text' ∧
      (text = text' ↔ t.flattening known = u.flattening known) :=
  ⟨_, _, render_of_writes (plain.writes infixed), render_of_writes (plain'.writes infixed),
    spells.tokensText_eq_iff (plain.writable numbers) (plain'.writable numbers')⟩

end Dialect

end FieldFilter
