import FieldFilter.Logging
import FieldFilter.Registry
import FieldFilter.Rendering

namespace FieldFilter

/-- What requests share: the settings and the registered dialects. -/
structure Workspace where
  settings : Settings
  registry : Registry

namespace Workspace

/-- The default settings and the dialects of the stores. -/
def initial : Workspace :=
  ⟨.default, .builtIn⟩

/-- The dialect of a name. -/
def dialect (w : Workspace) (name : Option String) : Except Failure Dialect :=
  (w.registry.lookup w.settings name).mapError .dialect

/-- What is logged when a filter was written. -/
def renderedRecord (d : Dialect) (text : String) : LogRecord :=
  ⟨.debug, "metafilter.converters.base", "Converted filter for " ++ d.name ++ " dialect: " ++ text⟩

/-- A filter as a text of a dialect, with the record of the writing. -/
def render (w : Workspace) (d : Dialect) (t : Operand) : Except Failure (String × LogRecord) :=
  match d.render w.settings t with
  | .ok text => .ok (text, renderedRecord d text)
  | .error e => .error (.filter e)

/-- A filter as a text of the dialect of a name. -/
def renderNamed (w : Workspace) (name : Option String) (t : Operand) :
    Except Failure (String × LogRecord) := do
  let d ← w.dialect name
  w.render d t

/-- Registers a dialect under a name, with the record of it. -/
def register (w : Workspace) (name : String) (d : Dialect) : Workspace × LogRecord :=
  ({ w with registry := w.registry.register name d },
    ⟨LogMethod.configured.level w.settings, "metafilter.converters.registry",
      "Registered filter dialect " ++ name ++ " (" ++ d.className ++ ")"⟩)

/-- Whether asking for a name leads to the dialect that is registered under it. -/
def serves (w : Workspace) (name : String) : Except Failure Bool :=
  (w.registry.serves w.settings name).mapError .dialect

/-- An operand as plain text. Filters are shown in the reference dialect, with a record of it. -/
def display (w : Workspace) (t : Operand) : Except Failure (String × List LogRecord) :=
  match t with
  | .key name => .ok ("key=" ++ textLiteral name, [])
  | .value v => .ok ("value=" ++ v.literal, [])
  | .unfit u => .ok (u.fieldLiteral, [])
  | .foreign d => .ok (d.text, [])
  | t => (w.renderNamed (some Store.generic.name) t).map fun shown => (shown.1, [shown.2])

/-- Logs a message with its arguments as plain text, unless its level is below the threshold, in which
case they are not even looked at. What showing the arguments logs comes before the message. A single
dictionary with entries may be left over, since its entries are arguments of their own. -/
def log (w : Workspace) (threshold : Level) (logger : Option String) (method : LogMethod)
    (message : String) (arguments : List Operand) : Except Failure (List LogRecord) := do
  let level := method.level w.settings
  if level.number < threshold.number then return []
  let shown ← arguments.mapM w.display
  let mayBeLeft := match arguments with
    | [.foreign (.dict entries)] => !entries.isEmpty
    | _ => false
  let text ← (formatMessage message (shown.map Prod.fst) mayBeLeft).mapError .type
  return shown.flatMap Prod.snd ++ [⟨level, loggerName logger, text⟩]

end Workspace

namespace Operand

/-- The number of members of the set of two operands. -/
def distinct (a b : Operand) : Except Failure Nat :=
  match a.unhashable?, b.unhashable? with
  | some type, _ => .error (.type (.unhashable type))
  | none, some type => .error (.type (.unhashable type))
  | none, none => .ok (if a.equals b then 1 else 2)

end Operand

end FieldFilter
