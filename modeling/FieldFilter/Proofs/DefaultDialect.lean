import Mathlib.Algebra.Order.BigOperators.Group.List
import FieldFilter.Proofs.RegistryRun

namespace FieldFilter

theorem lowerChar_ne_nil (before : List Char) (c : Char) (after : List Char) : lowerChar before c after ≠ [] := by
  unfold lowerChar
  split
  · split <;> exact List.cons_ne_nil _ _
  · split
    · exact List.cons_ne_nil _ _
    · split <;> exact List.cons_ne_nil _ _

theorem lowercase_eq_empty_iff {s : String} : lowercase s = "" ↔ s = "" := by
  constructor
  · intro small
    have letters : lowerChars [] s.toList = [] := by
      rw [← String.toList_ofList (l := lowerChars [] s.toList), ← lowercase, small]
      rfl
    cases spelled : s.toList with
    | nil => exact String.toList_inj.1 spelled
    | cons c after =>
      rw [spelled, lowerChars] at letters
      exact absurd (List.append_eq_nil_iff.1 letters).1 (lowerChar_ne_nil [] c after)
  · rintro rfl
    decide

namespace Registry

/-- Some name in small letters is not registered: one that is longer than all that are. -/
theorem exists_unregistered (r : Registry) : ∃ name, lowercase name = name ∧ r.find? name = none := by
  let longest := (r.names.map String.length).sum
  let name := String.ofList (List.replicate (longest + 1) 'a')
  have small : lowercase name = name := by
    rw [lowercase, String.toList_ofList, lowerChars_eq_self]
    intro c member
    rw [List.eq_of_mem_replicate member]
    decide
  refine ⟨name, small, Option.eq_none_iff_forall_ne_some.2 fun d found => ?_⟩
  have listed : name ∈ r.names := mem_names_iff.2 ⟨d, found⟩
  have bound : name.length ≤ longest :=
    List.single_le_sum (fun _ _ => Nat.zero_le _) _ (List.mem_map_of_mem listed)
  have length : name.length = longest + 1 := by rw [String.length_ofList, List.length_replicate]
  omega

theorem resolve_default {given : Option String} (absent : given = none ∨ given = some "") (settings : Settings) :
    resolve settings given = lowercase settings.defaultDialect := by
  rcases absent with rfl | rfl <;> rfl

/-- The looked-up name is the configured one, whatever that is, exactly if no name or an empty one is given. -/
theorem resolve_default_iff {given : Option String} :
    (∀ settings, resolve settings given = lowercase settings.defaultDialect) ↔ given = none ∨ given = some "" := by
  constructor
  · intro follows
    cases given with
    | none => exact Or.inl rfl
    | some name =>
      by_contra present
      have nonempty : name ≠ "" := fun empty => present (Or.inr (congrArg some empty))
      have empty := follows { Settings.default with defaultDialect := "" }
      rw [resolve_some nonempty] at empty
      exact nonempty (lowercase_eq_empty_iff.1 (empty.trans (lowercase_eq_empty_iff.2 rfl)))
  · exact resolve_default

theorem source_eq_default_iff {given : Option String} :
    source given = SettingName.defaultDialect.text ↔ given = none := by
  cases given with
  | none => exact iff_of_true rfl rfl
  | some name =>
    have other : source (some name) ≠ SettingName.defaultDialect.text := by
      rw [source, Option.isNone_some]
      decide
    exact iff_of_false other (Option.some_ne_none name)

end Registry

namespace Workspace

/-- The workspace with another configured default. -/
def defaulting (w : Workspace) (name : String) : Workspace :=
  { w with settings := w.settings.set .defaultDialect name }

theorem dialect_error_iff_find {w : Workspace} {given : Option String} {e : Failure} :
    w.dialect given = .error e ↔
      w.registry.find? (Registry.resolve w.settings given) = none ∧
        e = .dialect ⟨Registry.source given, Registry.resolve w.settings given, w.registry.names⟩ := by
  rw [dialect, Registry.lookup]
  cases w.registry.find? (Registry.resolve w.settings given) <;> simp [Except.mapError, eq_comm]

/-- The names of the stores stay registered, for whatever dialects. -/
theorem exists_find?_run (requests : List RegistryRequest) (store : Store) :
    ∃ d, (initial.run requests).registry.find? store.name = some d :=
  Registry.mem_names_iff.1 ((mem_names_run_iff requests).2 (Or.inl ⟨store, rfl⟩))

theorem dialect_defaulting_eq {name : String} (nonempty : name ≠ "") (w : Workspace) (first second : String) :
    (w.defaulting first).dialect (some name) = (w.defaulting second).dialect (some name) := by
  simp only [dialect, Registry.lookup, Registry.resolve_some nonempty]
  rfl

/-- Without a name, or with an empty one, some default is found and some default is not. -/
theorem dialect_defaulting_apart {given : Option String} (absent : given = none ∨ given = some "")
    (requests : List RegistryRequest) :
    ∃ found missing, (∃ d, ((initial.run requests).defaulting found).dialect given = .ok d) ∧
      ∃ e : UnknownDialect, ((initial.run requests).defaulting missing).dialect given = .error (.dialect e) ∧
        e.source = Registry.source given := by
  obtain ⟨missing, small, unregistered⟩ := (initial.run requests).registry.exists_unregistered
  obtain ⟨d, registered⟩ := exists_find?_run requests .generic
  refine ⟨Store.generic.name, missing, ⟨d, dialect_ok_iff_find.2 ?_⟩, _, dialect_error_iff_find.2 ⟨?_, rfl⟩, rfl⟩
  · have small : lowercase Store.generic.name = Store.generic.name := by decide
    rw [Registry.resolve_default absent]
    exact small.symm ▸ registered
  · rw [Registry.resolve_default absent]
    exact small.symm ▸ unregistered

/-- A registered dialect is served under its name where the name is what is looked up, or where what is looked up
was that dialect before. -/
theorem dialect_register_self_iff (w : Workspace) (name : String) (d : Dialect) :
    (w.register name d).1.dialect (some name) = .ok d ↔
      Registry.resolve w.settings (some name) = lowercase name ∨
        w.registry.find? (Registry.resolve w.settings (some name)) = some d := by
  rw [dialect_ok_iff_find, register, Registry.find?_register]
  by_cases under : Registry.resolve w.settings (some name) = lowercase name <;> simp [under]

/-- Every dialect is served under the name that it is registered under, unless the name is empty and the configured
default is another. -/
theorem served_once_registered_iff (w : Workspace) (name : String) :
    (∀ d, (w.register name d).1.dialect (some name) = .ok d) ↔ name ≠ "" ∨ w.settings.defaultDialect = "" := by
  constructor
  · intro served
    by_contra default
    rw [not_or, not_not] at default
    obtain ⟨rfl, nonempty⟩ := default
    have other : Registry.resolve w.settings (some "") ≠ lowercase "" := by
      rw [Registry.resolve_default (Or.inr rfl), (lowercase_eq_empty_iff (s := "")).2 rfl]
      exact mt lowercase_eq_empty_iff.1 nonempty
    have before (d : Dialect) : w.registry.find? (Registry.resolve w.settings (some "")) = some d :=
      ((dialect_register_self_iff w "" d).1 (served d)).resolve_left other
    have same := Option.some.inj ((before (.generic none)).symm.trans (before (.milvus none)))
    exact absurd (congrArg Dialect.name same) (by decide)
  · intro default d
    rw [dialect_register_self_iff]
    refine Or.inl ?_
    by_cases empty : name = ""
    · have configured : w.settings.defaultDialect = "" := default.resolve_left (not_not_intro empty)
      rw [empty, Registry.resolve_default (Or.inr rfl), configured]
    · exact Registry.resolve_some empty _

end Workspace

/-- The answer for a name is independent of the configured default exactly if there is a name and it is not empty. A
dialect that is registered under a name is always served for it exactly if the name, or else the configured default,
is that name. Errors put a name down to the settings exactly if none was given: so they do exactly if the name came
from there, unless it was empty. -/
theorem answer_independent_of_default_iff (requests : List RegistryRequest) (given : Option String) :
    let w := Workspace.initial.run requests
    ((∀ first second, (w.defaulting first).dialect given = (w.defaulting second).dialect given) ↔
        given ≠ none ∧ given ≠ some "") ∧
      (∀ name, (∀ d, (w.register name d).1.dialect (some name) = .ok d) ↔
        name ≠ "" ∨ w.settings.defaultDialect = "") ∧
      (∀ e, w.dialect given = .error e ↔
        w.registry.find? (Registry.resolve w.settings given) = none ∧
          e = .dialect ⟨if given = none then SettingName.defaultDialect.text else "dialect",
            Registry.resolve w.settings given, w.registry.names⟩) ∧
      ((∀ default e, (w.defaulting default).dialect given = .error (.dialect e) →
          (e.source = SettingName.defaultDialect.text ↔
            ∀ settings, Registry.resolve settings given = lowercase settings.defaultDialect)) ↔
        given ≠ some "") := by
  intro w
  refine ⟨⟨fun independent => ?_, ?_⟩, w.served_once_registered_iff, fun e => ?_, ⟨fun told => ?_, ?_⟩⟩
  · by_contra absent
    rw [not_and_or, not_not, not_not] at absent
    obtain ⟨found, missing, ⟨d, ok⟩, e, error, _⟩ := Workspace.dialect_defaulting_apart absent requests
    have same := independent found missing
    rw [ok, error] at same
    cases same
  · rintro ⟨present, nonempty⟩ first second
    obtain ⟨name, rfl⟩ := Option.ne_none_iff_exists'.1 present
    exact w.dialect_defaulting_eq (fun empty => nonempty (congrArg some empty)) first second
  · rw [Workspace.dialect_error_iff_find, Registry.source]
    cases given <;> rfl
  · rintro rfl
    obtain ⟨_, missing, _, e, error, source⟩ := Workspace.dialect_defaulting_apart (Or.inr rfl) requests
    have settings := (told missing e error).2 (Registry.resolve_default (Or.inr rfl))
    rw [source, Registry.source_eq_default_iff] at settings
    cases settings
  · intro nonempty default e error
    obtain ⟨_, same⟩ := Workspace.dialect_error_iff_find.1 error
    cases same
    rw [Registry.source_eq_default_iff, Registry.resolve_default_iff, or_iff_left nonempty]

/-- Under the empty name the dialect is not served, the default is, and an error does not say so. -/
theorem empty_name_answered_by_default :
    let d := Store.milvus.dialect none
    let w := Workspace.initial.run [.register "" d]
    w.dialect (some "") = .ok (Store.generic.dialect none) ∧ Store.generic.dialect none ≠ d ∧
      (w.defaulting "mariadb").dialect (some "") = .ok (Store.mariaDb.dialect none) ∧
      (w.defaulting "oracle").dialect (some "") = .error (.dialect ⟨"dialect", "oracle", w.registry.names⟩) := by
  intro d w
  have settled (default : String) (small : lowercase default = default) :
      Registry.resolve (w.defaulting default).settings (some "") = default := small
  refine ⟨Workspace.dialect_ok_iff_find.2 ?_, fun same => ?_, Workspace.dialect_ok_iff_find.2 ?_,
    Workspace.dialect_error_iff_find.2 ?_⟩
  · exact (settled "generic" (by decide)).symm ▸ rfl
  · exact absurd (congrArg Dialect.name same) (by decide)
  · rw [settled "mariadb" (by decide)]
    rfl
  · rw [settled "oracle" (by decide)]
    exact ⟨rfl, rfl⟩

end FieldFilter
