import Mathlib.Data.String.Basic
import FieldFilter.Workspace
import FieldFilter.Proofs.SmallLetters

namespace FieldFilter

namespace Registry

/-- Every name is there once, and in small letters. -/
structure Kept (r : Registry) : Prop where
  once : (r.entries.map Prod.fst).Nodup
  small : ∀ name ∈ r.entries.map Prod.fst, lowercase name = name

theorem mem_keys_put {name other : String} {d : Dialect} {entries : List (String × Dialect)} :
    other ∈ (put name d entries).map Prod.fst ↔ other = name ∨ other ∈ entries.map Prod.fst := by
  induction entries with
  | nil => simp [put]
  | cons entry rest ih =>
    by_cases found : entry.1 = name
    · simp [put, found]
    · rw [put, if_neg found, List.map_cons, List.mem_cons, ih, List.map_cons, List.mem_cons, or_left_comm]

theorem nodup_keys_put {entries : List (String × Dialect)} (once : (entries.map Prod.fst).Nodup) (name : String)
    (d : Dialect) : ((put name d entries).map Prod.fst).Nodup := by
  induction entries with
  | nil => simp [put]
  | cons entry rest ih =>
    rw [List.map_cons, List.nodup_cons] at once
    by_cases found : entry.1 = name
    · rw [put, if_pos found, List.map_cons, List.nodup_cons, ← found]
      exact once
    · rw [put, if_neg found, List.map_cons, List.nodup_cons, mem_keys_put]
      exact ⟨fun member => member.elim found once.1, ih once.2⟩

theorem kept_builtIn : builtIn.Kept where
  once := by decide
  small := by decide +kernel

theorem Kept.register {r : Registry} (kept : r.Kept) (name : String) (d : Dialect) : (r.register name d).Kept where
  once := nodup_keys_put kept.once _ d
  small other member := by
    rcases mem_keys_put.1 member with rfl | before
    · exact lowercase_lowercase name
    · exact kept.small other before

theorem mem_names_iff_mem_keys {r : Registry} {name : String} : name ∈ r.names ↔ name ∈ r.entries.map Prod.fst :=
  (List.mergeSort_perm _ _).mem_iff

theorem mem_names_iff {r : Registry} {name : String} : name ∈ r.names ↔ ∃ d, r.find? name = some d := by
  rw [mem_names_iff_mem_keys, ← Option.isSome_iff_exists, find?, List.lookup_isSome_iff]
  simp only [List.mem_map, beq_iff_eq]
  exact ⟨fun ⟨entry, member, same⟩ => ⟨entry, member, same.symm⟩,
    fun ⟨entry, member, same⟩ => ⟨entry, member, same.symm⟩⟩

theorem Kept.ascending {r : Registry} (kept : r.Kept) : r.names.Pairwise (· < ·) := by
  have once : r.names.Nodup := (List.mergeSort_perm _ _).nodup_iff.2 kept.once
  have sorted : r.names.Pairwise fun a b => decide (a ≤ b) = true :=
    List.pairwise_mergeSort (fun a b c first second => by
      rw [decide_eq_true_eq] at first second ⊢
      exact le_trans first second) (fun a b => by simpa using le_total a b) _
  exact (sorted.and once).imp fun both => lt_of_le_of_ne (of_decide_eq_true both.1) both.2

/-- Registers dialects one after the other. -/
def registerAll (r : Registry) (registrations : List (String × Dialect)) : Registry :=
  registrations.foldl (fun r entry => r.register entry.1 entry.2) r

/-- Of the registrations under a name, in whatever letters, the last one is of the dialect. -/
def LastUnder (name : String) (registrations : List (String × Dialect)) (d : Dialect) : Prop :=
  ∃ before given after, registrations = before ++ (given, d) :: after ∧ lowercase given = name ∧
    ∀ later ∈ after, lowercase later.1 ≠ name

theorem lastUnder_cons_iff {name given : String} {d e : Dialect} {rest : List (String × Dialect)} :
    LastUnder name ((given, e) :: rest) d ↔
      LastUnder name rest d ∨ (∀ later ∈ rest, lowercase later.1 ≠ name) ∧ lowercase given = name ∧ e = d := by
  constructor
  · rintro ⟨before, given', after, split, small, none⟩
    cases before with
    | nil =>
      obtain ⟨same, rfl⟩ := List.cons.inj split
      obtain ⟨rfl, rfl⟩ := Prod.mk.inj same
      exact Or.inr ⟨none, small, rfl⟩
    | cons entry before =>
      obtain ⟨rfl, rfl⟩ := List.cons.inj split
      exact Or.inl ⟨before, given', after, rfl, small, none⟩
  · rintro (⟨before, given', after, rfl, small, none⟩ | ⟨none, small, rfl⟩)
    · exact ⟨(given, e) :: before, given', after, rfl, small, none⟩
    · exact ⟨[], given, rest, rfl, small, none⟩

theorem exists_lastUnder_iff {name : String} {registrations : List (String × Dialect)} :
    (∃ d, LastUnder name registrations d) ↔ ∃ entry ∈ registrations, lowercase entry.1 = name := by
  constructor
  · rintro ⟨d, before, given, after, rfl, small, _⟩
    exact ⟨(given, d), List.mem_append_right _ List.mem_cons_self, small⟩
  · induction registrations with
    | nil =>
      rintro ⟨_, member, _⟩
      cases member
    | cons entry rest ih =>
      rintro ⟨under, member, small⟩
      by_cases later : ∃ entry ∈ rest, lowercase entry.1 = name
      · obtain ⟨d, last⟩ := ih later
        exact ⟨d, lastUnder_cons_iff.2 (Or.inl last)⟩
      · have none : ∀ entry ∈ rest, lowercase entry.1 ≠ name :=
          fun entry member same => later ⟨entry, member, same⟩
        have first : under = entry :=
          (List.mem_cons.1 member).resolve_right fun inside => none under inside small
        exact ⟨entry.2, lastUnder_cons_iff.2 (Or.inr ⟨none, first ▸ small, rfl⟩)⟩

theorem Kept.registerAll {r : Registry} (kept : r.Kept) (registrations : List (String × Dialect)) :
    (r.registerAll registrations).Kept := by
  induction registrations generalizing r with
  | nil => exact kept
  | cons entry rest ih => exact ih (kept.register entry.1 entry.2)

/-- What is found after a run of registrations is what was registered last, or what was there before. -/
theorem find?_registerAll_iff {r : Registry} {name : String} {registrations : List (String × Dialect)}
    {d : Dialect} :
    (r.registerAll registrations).find? name = some d ↔
      LastUnder name registrations d ∨
        (∀ entry ∈ registrations, lowercase entry.1 ≠ name) ∧ r.find? name = some d := by
  induction registrations generalizing r with
  | nil =>
    have unregistered : ¬LastUnder name [] d := fun last => by
      obtain ⟨_, member, _⟩ := exists_lastUnder_iff.1 ⟨d, last⟩
      cases member
    simp [registerAll, unregistered]
  | cons entry rest ih =>
    obtain ⟨given, e⟩ := entry
    rw [registerAll, List.foldl_cons, ← registerAll, ih, lastUnder_cons_iff, or_assoc, find?_register]
    refine or_congr_right ?_
    by_cases under : name = lowercase given
    · simp [under]
    · have other : lowercase given ≠ name := fun same => under same.symm
      simp [under, other]

theorem resolve_some {name : String} (nonempty : name ≠ "") (settings : Settings) :
    resolve settings (some name) = lowercase name := by
  rw [resolve, if_neg]
  simpa using nonempty

theorem find?_builtIn_iff {name : String} {d : Dialect} :
    builtIn.find? name = some d ↔ ∃ store : Store, store.name = name ∧ d = store.dialect none := by
  constructor
  · intro found
    obtain ⟨before, after, split, _⟩ := List.lookup_eq_some_iff.1 found
    have member : (name, d) ∈ builtIn.entries := split ▸ List.mem_append_right before List.mem_cons_self
    obtain ⟨store, _, same⟩ := List.mem_map.1 member
    obtain ⟨rfl, rfl⟩ := Prod.mk.inj same
    exact ⟨store, rfl, rfl⟩
  · rintro ⟨store, rfl, rfl⟩
    cases store <;> rfl

end Registry

/-- What is asked of the registry, and the settings that its answers depend on. -/
inductive RegistryRequest
  | register (name : String) (d : Dialect)
  | lookup (name : Option String)
  | names
  | configure (setting : SettingName) (value : String)

inductive RegistryAnswer
  | serving (d : Dialect)
  | refused (e : Failure)
  | names (names : List String)
  | configured

namespace Workspace

/-- Answers a request. -/
def answer (w : Workspace) : RegistryRequest → RegistryAnswer × Workspace
  | .register name d => (.serving d, (w.register name d).1)
  | .lookup name =>
    match w.dialect name with
    | .ok d => (.serving d, w)
    | .error e => (.refused e, w)
  | .names => (.names w.registry.names, w)
  | .configure setting value => (.configured, { w with settings := w.settings.set setting value })

/-- Answers requests one after the other. -/
def run (w : Workspace) (requests : List RegistryRequest) : Workspace :=
  requests.foldl (fun w request => (w.answer request).2) w

end Workspace

namespace RegistryRequest

/-- What a request registers. -/
def registration? : RegistryRequest → Option (String × Dialect)
  | .register name d => some (name, d)
  | _ => none

end RegistryRequest

namespace Workspace

/-- Only registrations change the registry. -/
theorem registry_run (w : Workspace) (requests : List RegistryRequest) :
    (w.run requests).registry = w.registry.registerAll (requests.filterMap RegistryRequest.registration?) := by
  induction requests generalizing w with
  | nil => rfl
  | cons request rest ih =>
    rw [run, List.foldl_cons, ← run, ih]
    cases request with
    | lookup name =>
      rw [answer]
      cases w.dialect name <;> rfl
    | register | names | configure => rfl

theorem dialect_ok_iff_find {w : Workspace} {given : Option String} {d : Dialect} :
    w.dialect given = .ok d ↔ w.registry.find? (Registry.resolve w.settings given) = some d := by
  rw [dialect, Registry.lookup]
  cases w.registry.find? (Registry.resolve w.settings given) <;> simp [Except.mapError]

theorem dialect_eq_ok_iff {w : Workspace} {name : String} (nonempty : name ≠ "") {d : Dialect} :
    w.dialect (some name) = .ok d ↔ w.registry.find? (lowercase name) = some d := by
  rw [dialect_ok_iff_find, Registry.resolve_some nonempty]

/-- What is served under a name after requests: the dialect that was registered last, or that of a store. -/
theorem dialect_run_eq_ok_iff (requests : List RegistryRequest) {name : String} (nonempty : name ≠ "") {d : Dialect} :
    (initial.run requests).dialect (some name) = .ok d ↔
      Registry.LastUnder (lowercase name) (requests.filterMap RegistryRequest.registration?) d ∨
        (∀ entry ∈ requests.filterMap RegistryRequest.registration?, lowercase entry.1 ≠ lowercase name) ∧
          ∃ store : Store, store.name = lowercase name ∧ d = store.dialect none := by
  rw [dialect_eq_ok_iff nonempty, registry_run, Registry.find?_registerAll_iff]
  exact or_congr_right (and_congr_right fun _ => Registry.find?_builtIn_iff)

theorem mem_names_run_iff (requests : List RegistryRequest) {name : String} :
    name ∈ (initial.run requests).registry.names ↔
      (∃ store : Store, store.name = name) ∨
        ∃ entry ∈ requests.filterMap RegistryRequest.registration?, lowercase entry.1 = name := by
  simp only [Registry.mem_names_iff, registry_run, Registry.find?_registerAll_iff, exists_or,
    Registry.exists_lastUnder_iff]
  by_cases registered : ∃ entry ∈ requests.filterMap RegistryRequest.registration?, lowercase entry.1 = name
  · exact iff_of_true (Or.inl registered) (Or.inr registered)
  · have none : ∀ entry ∈ requests.filterMap RegistryRequest.registration?, lowercase entry.1 ≠ name :=
      fun entry member same => registered ⟨entry, member, same⟩
    rw [or_iff_right registered, or_iff_left registered]
    constructor
    · rintro ⟨d, _, found⟩
      obtain ⟨store, named, _⟩ := Registry.find?_builtIn_iff.1 found
      exact ⟨store, named⟩
    · rintro ⟨store, named⟩
      exact ⟨store.dialect Option.none, none, Registry.find?_builtIn_iff.2 ⟨store, named, rfl⟩⟩

theorem exists_dialect_iff {w : Workspace} {name : String} (nonempty : name ≠ "") :
    (∃ d, w.dialect (some name) = .ok d) ↔ lowercase name ∈ w.registry.names := by
  simp only [dialect_eq_ok_iff nonempty, Registry.mem_names_iff]

theorem kept_run (requests : List RegistryRequest) : (initial.run requests).registry.Kept := by
  rw [registry_run]
  exact Registry.kept_builtIn.registerAll _

theorem dialect_register_eq_ok_iff {w : Workspace} {name other : String} (nonempty : name ≠ "")
    (apart : lowercase other ≠ lowercase name) (d served : Dialect) :
    (w.register other d).1.dialect (some name) = .ok served ↔ w.dialect (some name) = .ok served := by
  have found := w.registry.find?_register other (lowercase name) d
  rw [if_neg (Ne.symm apart)] at found
  rw [dialect_eq_ok_iff nonempty, dialect_eq_ok_iff nonempty, register, found]

/-- Asking changes nothing, whether or not there is an answer. -/
theorem answer_lookup_snd (w : Workspace) (name : Option String) : (w.answer (.lookup name)).2 = w := by
  rw [answer]
  cases w.dialect name <;> rfl

end Workspace

/-- The registry is a map from names in small letters to what was registered last under them. After any requests a
name that is not empty is served exactly if a store has it or it was registered, in whatever letters: by what was
registered last, or else by the store. Registering under one name leaves the others, failing to find a name leaves
everything, and the list of names ascends and holds exactly what can be looked up. -/
theorem registry_serves_last_registration (requests : List RegistryRequest) {name : String} (nonempty : name ≠ "") :
    let w := Workspace.initial.run requests
    let registrations := requests.filterMap RegistryRequest.registration?
    ((∃ d, w.dialect (some name) = .ok d) ↔
        (∃ store : Store, store.name = lowercase name) ∨
          ∃ entry ∈ registrations, lowercase entry.1 = lowercase name) ∧
      (∀ d, w.dialect (some name) = .ok d ↔
        Registry.LastUnder (lowercase name) registrations d ∨
          (∀ entry ∈ registrations, lowercase entry.1 ≠ lowercase name) ∧
            ∃ store : Store, store.name = lowercase name ∧ d = store.dialect none) ∧
      (∀ other d, lowercase other ≠ lowercase name → ∀ served,
        (w.answer (.register other d)).2.dialect (some name) = .ok served ↔
          w.dialect (some name) = .ok served) ∧
      (∀ given e, (w.answer (.lookup given)).1 = .refused e → (w.answer (.lookup given)).2 = w) ∧
      w.registry.names.Pairwise (· < ·) ∧
      (∀ listed, listed ∈ w.registry.names ↔
        (∃ store : Store, store.name = listed) ∨ ∃ entry ∈ registrations, lowercase entry.1 = listed) ∧
      (name ∈ w.registry.names ↔ lowercase name = name ∧ ∃ d, w.dialect (some name) = .ok d) := by
  intro w registrations
  have kept := Workspace.kept_run requests
  have listed : (∃ d, w.dialect (some name) = .ok d) ↔ lowercase name ∈ w.registry.names :=
    Workspace.exists_dialect_iff nonempty
  refine ⟨listed.trans (Workspace.mem_names_run_iff requests), fun d => ?_, fun other d apart served => ?_,
    fun given e _ => w.answer_lookup_snd given, kept.ascending, fun name => Workspace.mem_names_run_iff requests, ?_⟩
  · exact Workspace.dialect_run_eq_ok_iff requests nonempty
  · exact Workspace.dialect_register_eq_ok_iff nonempty apart d served
  · rw [listed]
    constructor
    · intro member
      have small := kept.small name (Registry.mem_names_iff_mem_keys.1 member)
      exact ⟨small, small.symm ▸ member⟩
    · rintro ⟨small, member⟩
      exact small ▸ member

/-- The sign of the kelvin has the small letter of a capital K. -/
theorem kelvin_served :
    let d := Dialect.milvus (some "first")
    let e := Dialect.generic (some "second")
    let w := Workspace.initial.run
      [.register "kelvin" d, .lookup (some "oracle"), .register "\u212Aelvin" e, .configure .defaultDialect "oracle"]
    "KELVIN" ≠ "" ∧ w.dialect (some "KELVIN") = .ok e ∧ "KELVIN" ∉ w.registry.names ∧ "kelvin" ∈ w.registry.names ∧
      ∀ served, (w.answer (.register "celsius" d)).2.dialect (some "KELVIN") = .ok served ↔ served = e := by
  intro d e w
  have nonempty : "KELVIN" ≠ "" := by decide
  have small : lowercase "\u212Aelvin" = "kelvin" := by decide
  have small' : lowercase "KELVIN" = "kelvin" := by decide
  obtain ⟨_, serves, leaves, _, _, names, listed⟩ := registry_serves_last_registration
    [.register "kelvin" d, .lookup (some "oracle"), .register "\u212Aelvin" e, .configure .defaultDialect "oracle"]
    nonempty
  have served : w.dialect (some "KELVIN") = .ok e :=
    (serves e).2 (Or.inl ⟨[("kelvin", d)], _, [], rfl, small.trans small'.symm, by simp⟩)
  refine ⟨nonempty, served, fun member => ?_, ?_, fun other => ?_⟩
  · exact absurd ((listed.1 member).1.symm.trans small') (by decide)
  · exact (names "kelvin").2 (Or.inr ⟨("\u212Aelvin", e), List.mem_cons_of_mem _ List.mem_cons_self, small⟩)
  · rw [leaves "celsius" d (by decide), served, Except.ok.injEq, eq_comm]

end FieldFilter
