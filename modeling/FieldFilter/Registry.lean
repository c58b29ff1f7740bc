import FieldFilter.Dialect.Store

namespace FieldFilter

/-- The dialects that can be asked for by name. Names are kept in small letters. -/
structure Registry where
  entries : List (String × Dialect)

namespace Registry

/-- The stores under their own names. -/
def builtIn : Registry :=
  ⟨Store.all.map fun store => (store.name, store.dialect none)⟩

/-- Puts a dialect under a name; a dialect that was there is replaced. -/
def put (name : String) (d : Dialect) : List (String × Dialect) → List (String × Dialect)
  | [] => [(name, d)]
  | entry :: rest => if entry.1 = name then (name, d) :: rest else entry :: put name d rest

def register (r : Registry) (name : String) (d : Dialect) : Registry :=
  ⟨put (lowercase name) d r.entries⟩

/-- The dialect under a name that is in small letters already. -/
def find? (r : Registry) (name : String) : Option Dialect :=
  r.entries.lookup name

/-- All names in order. -/
def names (r : Registry) : List String :=
  (r.entries.map Prod.fst).mergeSort fun a b => a ≤ b

/-- The name that is looked up. A missing or empty name stands for the configured default. -/
def resolve (settings : Settings) (name : Option String) : String :=
  match name with
  | some s => lowercase (if s.isEmpty then settings.defaultDialect else s)
  | none => lowercase settings.defaultDialect

/-- Where the name came from: a missing name, unlike an empty one, is put down to the settings. -/
def source (name : Option String) : String :=
  if name.isNone then SettingName.defaultDialect.text else "dialect"

/-- The dialect that a name stands for. -/
def lookup (r : Registry) (settings : Settings) (name : Option String) : Except UnknownDialect Dialect :=
  let resolved := resolve settings name
  match r.find? resolved with
  | some d => .ok d
  | none => .error ⟨source name, resolved, r.names⟩

/-- Whether asking for a name leads to what is registered under it. -/
def serves (r : Registry) (settings : Settings) (name : String) : Except UnknownDialect Bool :=
  (r.lookup settings (some name)).map fun _ => resolve settings (some name) == lowercase name

theorem lookup_put (name other : String) (d : Dialect) (entries : List (String × Dialect)) :
    (put name d entries).lookup other = if other = name then some d else entries.lookup other := by
  induction entries with
  | nil =>
    by_cases same : other = name
    · simp [put, same]
    · simp [put, List.lookup_cons, same, beq_false_of_ne same]
  | cons entry rest ih =>
    obtain ⟨key, value⟩ := entry
    by_cases found : key = name
    · subst found
      by_cases same : other = key
      · simp [put, same]
      · simp [put, List.lookup_cons, same, beq_false_of_ne same]
    · by_cases same : other = key
      · subst same
        simp [put, found]
      · simp [put, found, List.lookup_cons, beq_false_of_ne same, ih]

/-- Registering changes what is found under the name in small letters, and nothing else. -/
theorem find?_register (r : Registry) (name other : String) (d : Dialect) :
    (r.register name d).find? other = if other = lowercase name then some d else r.find? other :=
  lookup_put _ _ _ _

end Registry

end FieldFilter
