import FieldFilter.Proofs.JsonText
import FieldFilter.Proofs.Reader

namespace FieldFilter

/-- The number that a hexadecimal digit stands for. -/
def hexValue? (c : Char) : Option Nat :=
  if '0' ≤ c ∧ c ≤ '9' then some (c.toNat - 48)
  else if 'a' ≤ c ∧ c ≤ 'f' then some (c.toNat - 87)
  else if 'A' ≤ c ∧ c ≤ 'F' then some (c.toNat - 55)
  else none

/-- The number that hexadecimal digits stand for. -/
def hexNumber? (digits : List Char) : Option Nat :=
  digits.foldlM (fun n c => (hexValue? c).map (16 * n + ·)) 0

/-- The number of a UTF-16 unit that is given by its four digits. -/
def unitReader : Reader Nat where
  run s := (['\\', 'u'].isPrefixOf? s).bind fun t =>
    if 4 ≤ t.length then (hexNumber? (t.take 4)).map (·, t.drop 4) else none
  shortens {s n rest} run := by
    obtain ⟨t, begins, run⟩ := Option.bind_eq_some_iff.1 run
    obtain ⟨_, run⟩ := Option.ite_none_right_eq_some.1 run
    obtain ⟨_, _, same⟩ := Option.map_eq_some_iff.1 run
    obtain rfl : t.drop 4 = rest := (Prod.mk.inj same).2
    have length := length_of_isPrefixOf? begins
    simp only [List.length_cons, List.length_nil] at length
    simp only [List.length_drop]
    omega

/-- The character of a code point; surrogates have none. -/
def charAt? (n : Nat) : Option Char :=
  if n.isValidChar then some (Char.ofNat n) else none

/-- The character of a high and a low surrogate. -/
def pairedChar? (units : Nat × Nat) : Option Char :=
  if 0xD800 ≤ units.1 ∧ units.1 < 0xDC00 ∧ 0xDC00 ≤ units.2 ∧ units.2 < 0xE000 then
    charAt? (0x10000 + (units.1 - 0xD800) * 0x400 + (units.2 - 0xDC00))
  else none

/-- A character that is given by its UTF-16 units. -/
def codePointReader : Reader Char :=
  ((unitReader.andThen unitReader).decode pairedChar?).orElse (unitReader.decode charAt?)

/-- A character of a JSON string. -/
def jsonCharReader : Reader Char :=
  (codePointReader.orElse (((Reader.char (shortEscapes.contains ·)).map unescaped).behind ['\\'])).orElse
    (Reader.char fun c => c != '\\' && c != '"' && ' ' ≤ c)

/-- A JSON string. -/
def jsonReader : Reader (List Char) :=
  jsonCharReader.enclosed '"' '"'

theorem hexValue?_hexDigit {n : Nat} (digit : n < 16) : hexValue? (hexDigit n) = some n := by
  have all : ∀ n < 16, hexValue? (hexDigit n) = some n := by decide
  exact all n digit

theorem hexNumber?_hexDigits {width n : Nat} (fits : n < Nat.pow 16 width) :
    hexNumber? (hexDigits width n) = some n := by
  induction width generalizing n with
  | zero =>
    obtain rfl : n = 0 := Nat.lt_one_iff.1 fits
    rfl
  | succ width ih =>
    have wide : n < Nat.pow 16 width * 16 := fits
    have high := ih (n := n / 16) (by omega)
    have low := hexValue?_hexDigit (Nat.mod_lt n (by omega : 0 < 16))
    unfold hexNumber? at high ⊢
    rw [hexDigits, List.foldlM_append, high]
    simp [low]
    omega

theorem unitReader_reads {n : Nat} (unit : n < 0x10000) : unitReader.Reads (fun _ => True) (unitEscape n) n := by
  intro r _
  have fits : n < Nat.pow 16 4 := unit
  have digits := length_hexDigits 4 n
  have opened : ['\\', 'u'].isPrefixOf? (unitEscape n ++ r) = some (hexDigits 4 n ++ r) :=
    isPrefixOf?_append ['\\', 'u'] _
  have read : (hexDigits 4 n ++ r).take 4 = hexDigits 4 n ∧ (hexDigits 4 n ++ r).drop 4 = r := by
    rw [← digits]
    exact ⟨List.take_left, List.drop_left⟩
  simp [unitReader, opened, read, digits, hexNumber?_hexDigits fits]

theorem charAt?_toNat (c : Char) : charAt? c.toNat = some c := by
  have valid : c.toNat.isValidChar := c.valid
  rw [charAt?, if_pos valid, Char.ofNat_toNat]

/-- A single unit is not taken for the first half of a pair. -/
theorem pairReader_run_low {c : Char} (low : c.toNat < 0x10000) (r : List Char) :
    ((unitReader.andThen unitReader).decode pairedChar?).run (unitEscape c.toNat ++ r) = none := by
  have boundary := codePoint_valid c
  have unpaired (second : Nat) : pairedChar? (c.toNat, second) = none := by
    rw [pairedChar?, if_neg]
    omega
  simp only [Reader.decode, Reader.andThen, unitReader_reads low r trivial, Option.bind_some]
  cases unitReader.run r with
  | none => rfl
  | some read => simp [unpaired]

theorem codePointReader_reads (c : Char) : codePointReader.Reads (fun _ => True) (unicodeEscape c) c := by
  have bound := codePoint_valid c
  by_cases low : c.toNat < 0x10000
  · rw [unicodeEscape_low low]
    exact ((unitReader_reads low).decode (charAt?_toNat c)).orElse_right (pairReader_run_low low)
  · have high : 0xD800 + (c.toNat - 0x10000) / 0x400 < 0x10000 := by omega
    have rest : 0xDC00 + (c.toNat - 0x10000) % 0x400 < 0x10000 := by omega
    have paired : pairedChar? (0xD800 + (c.toNat - 0x10000) / 0x400, 0xDC00 + (c.toNat - 0x10000) % 0x400) =
        some c := by
      rw [pairedChar?, if_pos (by omega)]
      have point : 0x10000 + (0xD800 + (c.toNat - 0x10000) / 0x400 - 0xD800) * 0x400 +
          (0xDC00 + (c.toNat - 0x10000) % 0x400 - 0xDC00) = c.toNat := by omega
      rw [point, charAt?_toNat]
    rw [unicodeEscape_high low]
    exact (((unitReader_reads high).andThen (unitReader_reads rest) fun _ => trivial).decode paired).orElse_left _

/-- Whatever does not go on like a code point is read in another way. -/
theorem codePointReader_run_of_not_unit {s : List Char} (fails : unitReader.run s = none) :
    codePointReader.run s = none := by
  simp [codePointReader, Reader.orElse, Reader.decode, Reader.andThen, fails]

theorem jsonCharReader_reads (c : Char) : jsonCharReader.Reads (fun _ => True) (jsonChar c) c := by
  rcases jsonChar_cases c with ⟨spelled, bare, inside, printable⟩ | ⟨x, spelled, short, rfl⟩ | spelled <;>
    rw [spelled]
  · refine (Reader.Reads.char (by simp [bare, inside, printable])).orElse_right fun r => ?_
    have noUnit : unitReader.run (c :: r) = none := by
      simp [unitReader, List.isPrefixOf?, Ne.symm bare]
    rw [List.singleton_append, Reader.orElse_run_of_none (codePointReader_run_of_not_unit noUnit)]
    exact Reader.behind_run_of_head_ne bare [] r
  · have other : x ≠ 'u' := by
      rintro rfl
      exact absurd short (by decide)
    have escape := ((Reader.Reads.char (List.contains_iff_mem.2 short)).map unescaped).behind ['\\']
    refine (escape.orElse_right fun r => codePointReader_run_of_not_unit ?_).orElse_left _
    simp [unitReader, List.isPrefixOf?, Ne.symm other]
  · exact ((codePointReader_reads c).orElse_left _).orElse_left _

theorem jsonCharReader_run_quote (r : List Char) : jsonCharReader.run ('"' :: r) = none := by
  have noUnit : unitReader.run ('"' :: r) = none := by
    simp [unitReader, List.isPrefixOf?]
  rw [jsonCharReader, Reader.orElse_run_of_none]
  · exact Reader.char_run_of_not (by decide) r
  · rw [Reader.orElse_run_of_none (codePointReader_run_of_not_unit noUnit)]
    exact Reader.behind_run_of_head_ne (by decide) [] r

/-- A JSON string gives its text back, whatever stands behind it. -/
theorem jsonReader_reads (s : List Char) : jsonReader.Reads (fun _ => True) (jsonString s) s :=
  Reader.Reads.enclosed_self jsonCharReader_reads (fun r _ => jsonCharReader_run_quote r) '"' s

/-- A JSON string ends at its closing quote, whatever the text is. -/
theorem readsBack_jsonString : ReadsBack (fun _ => True) (fun _ => True) jsonString id :=
  Reader.Reads.readsBack fun s _ => jsonReader_reads s

end FieldFilter
