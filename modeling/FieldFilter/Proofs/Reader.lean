import Mathlib.Data.List.Basic
import FieldFilter.Proofs.ReadsBack

namespace FieldFilter

variable {α β : Type}

/-- Reads something at the front of a text: what it is, and what is left of the text. What is read takes up
at least one character. -/
structure Reader (α : Type) where
  run : List Char → Option (α × List Char)
  shortens : ∀ {s a rest}, run s = some (a, rest) → rest.length < s.length

theorem isPrefixOf?_append (word s : List Char) : word.isPrefixOf? (word ++ s) = some s :=
  List.isPrefixOf?_eq_some_iff_append_eq.2 rfl

theorem length_of_isPrefixOf? {word s rest : List Char} (begins : word.isPrefixOf? s = some rest) :
    word.length + rest.length = s.length := by
  rw [← List.isPrefixOf?_eq_some_iff_append_eq.1 begins, List.length_append]

namespace Reader

/-- Reads one thing after the other as long as that works. -/
def many (item : Reader α) (s : List Char) : List α × List Char :=
  match _read : item.run s with
  | none => ([], s)
  | some (a, rest) => (a :: (item.many rest).1, (item.many rest).2)
termination_by s.length
decreasing_by all_goals exact item.shortens ‹_›

theorem many_of_none {item : Reader α} {s : List Char} (ended : item.run s = none) : item.many s = ([], s) := by
  rw [many]
  split
  · rfl
  · simp_all

theorem many_of_some {item : Reader α} {s rest : List Char} {a : α} (read : item.run s = some (a, rest)) :
    item.many s = (a :: (item.many rest).1, (item.many rest).2) := by
  rw [many]
  split
  · simp_all
  · simp_all

/-- Each of the things takes up a character of its own. -/
theorem length_many_le (item : Reader α) (s : List Char) :
    (item.many s).1.length + (item.many s).2.length ≤ s.length := by
  induction s using many.induct item with
  | case1 s ended =>
    rw [many_of_none ended]
    simp
  | case2 s a rest read ih =>
    have shorter := item.shortens read
    rw [many_of_some read]
    simp only [List.length_cons]
    omega

/-- Reads the whole of a text. -/
def whole (reader : Reader α) (s : List Char) : Option α :=
  (reader.run s).bind fun read => if read.2 = [] then some read.1 else none

/-- Reads one thing after the other up to the end of a text. -/
def all (item : Reader α) (s : List Char) : Option (List α) :=
  if (item.many s).2 = [] then some (item.many s).1 else none

/-- Reads a character of a class. -/
def char (p : Char → Bool) : Reader Char where
  run
    | [] => none
    | c :: rest => if p c then some (c, rest) else none
  shortens {s a rest} run := by
    cases s with
    | nil => simp at run
    | cons c t =>
      obtain ⟨_, same⟩ := Option.ite_none_right_eq_some.1 run
      obtain rfl : t = rest := (Prod.mk.inj (Option.some.inj same)).2
      exact Nat.lt_succ_self _

/-- Reads behind a word. -/
def behind (reader : Reader α) (word : List Char) : Reader α where
  run s := (word.isPrefixOf? s).bind reader.run
  shortens {s a rest} run := by
    obtain ⟨t, begins, read⟩ := Option.bind_eq_some_iff.1 run
    have shorter := reader.shortens read
    have length := length_of_isPrefixOf? begins
    omega

/-- Reads in front of a word. -/
def before (reader : Reader α) (word : List Char) : Reader α where
  run s := (reader.run s).bind fun read => (word.isPrefixOf? read.2).map (read.1, ·)
  shortens {s a rest} run := by
    obtain ⟨⟨b, t⟩, read, closed⟩ := Option.bind_eq_some_iff.1 run
    obtain ⟨u, begins, same⟩ := Option.map_eq_some_iff.1 closed
    have shorter := reader.shortens read
    have length := length_of_isPrefixOf? begins
    obtain rfl : u = rest := (Prod.mk.inj same).2
    simp only at length
    omega

/-- Reads two things in a row. -/
def andThen (first : Reader α) (second : Reader β) : Reader (α × β) where
  run s := (first.run s).bind fun read => (second.run read.2).map fun read' => ((read.1, read'.1), read'.2)
  shortens {s c rest} run := by
    obtain ⟨⟨a, t⟩, read, run⟩ := Option.bind_eq_some_iff.1 run
    obtain ⟨⟨b, u⟩, read', same⟩ := Option.map_eq_some_iff.1 run
    obtain rfl : u = rest := (Prod.mk.inj same).2
    exact Nat.lt_trans (second.shortens read') (first.shortens read)

/-- Reads in a second way what cannot be read in the first. -/
def orElse (first second : Reader α) : Reader α where
  run s := (first.run s).or (second.run s)
  shortens {s a rest} run := by
    rcases Option.or_eq_some_iff.1 run with read | ⟨_, read⟩
    · exact first.shortens read
    · exact second.shortens read

/-- Reads what has a meaning, and tells the meaning. -/
def decode (reader : Reader α) (meaning? : α → Option β) : Reader β where
  run s := (reader.run s).bind fun read => (meaning? read.1).map (·, read.2)
  shortens {s b rest} run := by
    obtain ⟨⟨a, t⟩, read, meant⟩ := Option.bind_eq_some_iff.1 run
    obtain ⟨_, _, same⟩ := Option.map_eq_some_iff.1 meant
    obtain rfl : t = rest := (Prod.mk.inj same).2
    exact reader.shortens read

def map (reader : Reader α) (f : α → β) : Reader β :=
  reader.decode fun a => some (f a)

/-- Reads a row of things, one or more, with a word between each two of them. -/
def separated (item : Reader α) (separator : List Char) : Reader (List α) where
  run s := (item.run s).map fun read =>
    (read.1 :: ((item.behind separator).many read.2).1, ((item.behind separator).many read.2).2)
  shortens {s l rest} run := by
    obtain ⟨⟨a, t⟩, read, same⟩ := Option.map_eq_some_iff.1 run
    obtain rfl : ((item.behind separator).many t).2 = rest := (Prod.mk.inj same).2
    exact Nat.lt_of_le_of_lt (Nat.le_of_add_left_le (length_many_le _ t)) (item.shortens read)

/-- Things between an opening and a closing character. -/
def runEnclosed (item : Reader α) (opening closing : Char) (s : List Char) : Option (List α × List Char) :=
  ([opening].isPrefixOf? s).bind fun t => ([closing].isPrefixOf? (item.many t).2).map ((item.many t).1, ·)

theorem length_of_runEnclosed {item : Reader α} {opening closing : Char} {s rest : List Char} {l : List α}
    (run : item.runEnclosed opening closing s = some (l, rest)) : l.length + 2 + rest.length ≤ s.length := by
  obtain ⟨t, begins, closed⟩ := Option.bind_eq_some_iff.1 run
  obtain ⟨u, ends, same⟩ := Option.map_eq_some_iff.1 closed
  obtain ⟨rfl, rfl⟩ := Prod.mk.inj same
  have length := length_of_isPrefixOf? begins
  have length' := length_of_isPrefixOf? ends
  have inside := length_many_le item t
  simp only [List.length_singleton] at length length'
  omega

def enclosed (item : Reader α) (opening closing : Char) : Reader (List α) where
  run := item.runEnclosed opening closing
  shortens {s l rest} run := by
    have length := length_of_runEnclosed run
    omega

theorem run_nil (reader : Reader α) : reader.run [] = none := by
  match read : reader.run [] with
  | none => rfl
  | some (a, rest) => exact absurd (reader.shortens read) (Nat.not_lt_zero _)

theorem char_run_of_not {p : Char → Bool} {c : Char} (outside : p c = false) (r : List Char) :
    (char p).run (c :: r) = none := by
  simp [char, outside]

theorem orElse_run_of_none {first : Reader α} {s : List Char} (fails : first.run s = none) (second : Reader α) :
    (first.orElse second).run s = second.run s := by
  simp [orElse, fails]

theorem behind_run_of_head_ne {reader : Reader α} {c d : Char} (differ : d ≠ c) (word r : List Char) :
    (reader.behind (c :: word)).run (d :: r) = none := by
  simp [Reader.behind, List.isPrefixOf?, Ne.symm differ]

theorem map_run_eq_some_iff {reader : Reader α} {f : α → β} {s rest : List Char} {b : β} :
    (reader.map f).run s = some (b, rest) ↔ ∃ a, reader.run s = some (a, rest) ∧ f a = b := by
  cases read : reader.run s <;> simp [map, decode, read, and_comm, Prod.ext_iff]

theorem all_eq_some_cons {item : Reader α} {s : List Char} {a : α} {l : List α} :
    item.all s = some (a :: l) ↔ ∃ rest, item.run s = some (a, rest) ∧ item.all rest = some l := by
  match first : item.run s with
  | none => simp [all, many_of_none first]
  | some (b, rest) =>
    simp only [all, many_of_some first, Option.ite_none_right_eq_some, Option.some.injEq, List.cons.injEq,
      Prod.mk.injEq]
    constructor
    · rintro ⟨ended, rfl, rfl⟩
      exact ⟨rest, ⟨rfl, rfl⟩, ended, rfl⟩
    · rintro ⟨_, ⟨rfl, rfl⟩, ended, rfl⟩
      exact ⟨ended, rfl, rfl⟩

/-- In front of whatever `ends` it, the spelling is read as the thing, and all the rest is left. -/
def Reads (reader : Reader α) (ends : List Char → Prop) (spelling : List Char) (a : α) : Prop :=
  ∀ r, ends r → reader.run (spelling ++ r) = some (a, r)

namespace Reads

variable {reader item : Reader α} {ends inside : List Char → Prop} {spelling : List Char} {a : α}

theorem whole (reads : reader.Reads ends spelling a) (nil : ends []) : reader.whole spelling = some a := by
  have read := reads [] nil
  rw [List.append_nil] at read
  simp [Reader.whole, read]

theorem mono (reads : reader.Reads inside spelling a) (stops : ∀ r, ends r → inside r) :
    reader.Reads ends spelling a :=
  fun r atEnd => reads r (stops r atEnd)

theorem char {p : Char → Bool} {c : Char} (member : p c = true) : (char p).Reads (fun _ => True) [c] c := by
  intro r _
  simp [Reader.char, member]

theorem behind (reads : reader.Reads ends spelling a) (word : List Char) :
    (reader.behind word).Reads ends (word ++ spelling) a := by
  intro r atEnd
  simp only [Reader.behind, List.append_assoc, isPrefixOf?_append, Option.bind_some]
  exact reads r atEnd

theorem before {word : List Char} (reads : reader.Reads (word <+: ·) spelling a) :
    (reader.before word).Reads (fun _ => True) (spelling ++ word) a := by
  intro r _
  have read := reads (word ++ r) (List.prefix_append word r)
  simp only [Reader.before, List.append_assoc, read, Option.bind_some, isPrefixOf?_append, Option.map_some]

theorem andThen {second : Reader β} {spelling' : List Char} {b : β} (reads : reader.Reads inside spelling a)
    (reads' : second.Reads ends spelling' b) (continues : ∀ r, inside (spelling' ++ r)) :
    (reader.andThen second).Reads ends (spelling ++ spelling') (a, b) := by
  intro r atEnd
  have read := reads (spelling' ++ r) (continues r)
  simp only [Reader.andThen, List.append_assoc, read, Option.bind_some, reads' r atEnd, Option.map_some]

theorem orElse_left (reads : reader.Reads ends spelling a) (second : Reader α) :
    (reader.orElse second).Reads ends spelling a := by
  intro r atEnd
  simp [Reader.orElse, reads r atEnd]

theorem orElse_right {first : Reader α} (reads : reader.Reads ends spelling a)
    (apart : ∀ r, first.run (spelling ++ r) = none) : (first.orElse reader).Reads ends spelling a := by
  intro r atEnd
  rw [orElse_run_of_none (apart r)]
  exact reads r atEnd

theorem decode {meaning? : α → Option β} {b : β} (reads : reader.Reads ends spelling a)
    (meant : meaning? a = some b) : (reader.decode meaning?).Reads ends spelling b := by
  intro r atEnd
  simp [Reader.decode, reads r atEnd, meant]

theorem map (reads : reader.Reads ends spelling a) (f : α → β) : (reader.map f).Reads ends spelling (f a) :=
  reads.decode rfl

variable {γ : Type} {spell : γ → List Char} {meaning : γ → α}

/-- What is read of a spelling is told by it, since the reader gives one answer only. -/
theorem readsBack {valid : γ → Prop} (reads : ∀ c, valid c → reader.Reads ends (spell c) (meaning c)) :
    ReadsBack valid ends spell meaning := by
  intro c d r s left right atLeft atRight same
  have read := reads c left r atLeft
  rw [same, reads d right s atRight] at read
  obtain ⟨meanings, rests⟩ := Prod.mk.inj (Option.some.inj read)
  exact ⟨meanings.symm, rests.symm⟩

/-- A row is read thing by thing, if each may stand in front of the next, and what follows it after it. -/
theorem many_append {l : List γ} (reads : ∀ c ∈ l, item.Reads inside (spell c) (meaning c))
    (continues : ∀ c ∈ l, ∀ r, inside (spell c ++ r)) {r : List Char} (follows : inside r) :
    item.many (l.flatMap spell ++ r) = (l.map meaning ++ (item.many r).1, (item.many r).2) := by
  induction l with
  | nil => rfl
  | cons c rest ih =>
    rw [List.forall_mem_cons] at reads continues
    have behind : inside (rest.flatMap spell ++ r) := by
      cases rest with
      | nil => exact follows
      | cons d others =>
        rw [List.flatMap_cons, List.append_assoc]
        exact continues.2 d List.mem_cons_self _
    have read := reads.1 _ behind
    rw [List.flatMap_cons, List.append_assoc, many_of_some read, ih reads.2 continues.2, List.map_cons,
      List.cons_append]

theorem many_flatMap {l : List γ} (reads : ∀ c ∈ l, item.Reads inside (spell c) (meaning c))
    (continues : ∀ c ∈ l, ∀ r, inside (spell c ++ r)) {r : List Char} (stops : inside r)
    (ended : item.run r = none) : item.many (l.flatMap spell ++ r) = (l.map meaning, r) := by
  rw [many_append reads continues stops, many_of_none ended, List.append_nil]

theorem all_flatMap {l : List γ} (reads : ∀ c ∈ l, item.Reads inside (spell c) (meaning c))
    (continues : ∀ c ∈ l, ∀ r, inside (spell c ++ r)) (stops : inside []) :
    item.all (l.flatMap spell) = some (l.map meaning) := by
  have read := many_flatMap reads continues stops item.run_nil
  rw [List.append_nil] at read
  simp [all, read]

/-- Characters between an opening and a closing one are read up to where no character can be read. -/
theorem enclosed {closing : Char} (reads : ∀ c, item.Reads (fun _ => True) (spell c) (meaning c))
    (ended : ∀ r, ends r → item.run (closing :: r) = none) (opening : Char) (l : List γ) :
    (item.enclosed opening closing).Reads ends ([opening] ++ l.flatMap spell ++ [closing]) (l.map meaning) := by
  intro r atEnd
  have read : item.many (l.flatMap spell ++ [closing] ++ r) = (l.map meaning, [closing] ++ r) := by
    rw [List.append_assoc]
    exact many_flatMap (fun c _ => reads c) (fun _ _ _ => trivial) trivial (ended r atEnd)
  simp only [Reader.enclosed, runEnclosed, List.append_assoc, isPrefixOf?_append, Option.bind_some]
  rw [← List.append_assoc, read]
  simp only [isPrefixOf?_append, Option.map_some]

/-- In front of what makes the closing character part of the text, the text does not end there. -/
theorem enclosed_run_ne {closing : Char} (reads : ∀ c, item.Reads (fun _ => True) (spell c) (meaning c))
    {r rest : List Char} (continued : item.run (closing :: r) = some (a, rest)) (opening : Char) (l : List γ)
    (found : List α) :
    (item.enclosed opening closing).run ([opening] ++ l.flatMap spell ++ [closing] ++ r) ≠ some (found, r) := by
  intro read
  simp only [Reader.enclosed, runEnclosed, List.append_assoc, isPrefixOf?_append, Option.bind_some] at read
  rw [List.singleton_append, many_append (fun c _ => reads c) (fun _ _ _ => trivial) trivial,
    many_of_some continued] at read
  obtain ⟨left, begins, same⟩ := Option.map_eq_some_iff.1 read
  obtain rfl : left = r := (Prod.mk.inj same).2
  have closed := length_of_isPrefixOf? begins
  have shorter := item.shortens continued
  have within := length_many_le item rest
  simp only [List.length_cons] at closed shorter
  omega

/-- A text between quotes, say: each character is written by a code of its own. -/
theorem enclosed_self {closing : Char} {code : α → List Char} (reads : ∀ b, item.Reads (fun _ => True) (code b) b)
    (ended : ∀ r, ends r → item.run (closing :: r) = none) (opening : Char) (l : List α) :
    (item.enclosed opening closing).Reads ends ([opening] ++ l.flatMap code ++ [closing]) l := by
  have read := enclosed reads ended opening l
  rw [List.map_id'] at read
  exact read

/-- A row with a separator is read up to where no separator follows. -/
theorem separated {separator : List Char} {code : α → List Char} (reads : ∀ b, item.Reads inside (code b) b)
    (separates : ∀ r, inside (separator ++ r)) (stops : ∀ r, ends r → inside r)
    (ended : ∀ r, ends r → (item.behind separator).run r = none) {l : List α} (some : l ≠ []) :
    (item.separated separator).Reads ends (separator.intercalate (l.map code)) l := by
  obtain ⟨first, rest, rfl⟩ := List.exists_cons_of_ne_nil some
  intro r atEnd
  have others : (item.behind separator).many ((rest.flatMap fun b => separator ++ code b) ++ r) = (rest, r) := by
    have read := many_flatMap (l := rest) (fun b _ => (reads b).behind separator) (fun b _ r => ?_) (stops r atEnd)
      (ended r atEnd)
    · rw [List.map_id'] at read
      exact read
    · rw [List.append_assoc]
      exact separates _
  have behind : inside ((rest.flatMap fun b => separator ++ code b) ++ r) := by
    cases rest with
    | nil => exact stops r atEnd
    | cons b rest =>
      rw [List.flatMap_cons, List.append_assoc, List.append_assoc]
      exact separates _
  have begins := reads first _ behind
  rw [List.map_cons, intercalate_cons_eq_flatMap, List.flatMap_map, List.append_assoc]
  simp only [Reader.separated, begins, Option.map_some, others]

end Reads

end Reader

end FieldFilter
