import Loxeme.Text.Quoted

/-!
# Reading quoted text

A written character can be read back without knowing which characters are shown by their code points, and whatever follows it
(`readEscape_append`). No written character begins with the quote, so a quoted text ends where it is first closed, whatever the text
(`quoted_append_inj`), and none contains a line feed.
-/

namespace Loxeme

/-! ## Reading a written character -/

/-- The value of a lower-case hexadecimal digit. -/
def hexValue (c : Char) : Nat := if c.isDigit then c.toNat - '0'.toNat else c.toNat - 'a'.toNat + 10

/-- The number that hexadecimal digits write. -/
def ofHexDigits (t : List Char) : Nat := t.foldl (fun n c => 16 * n + hexValue c) 0

/-- The character that a letter behind a backslash stands for. -/
def ofEscapeLetter (l : Char) : Char :=
  if l = '0' then '\x00' else if l = 't' then '\t' else if l = 'r' then '\r' else if l = 'n' then '\n' else l

/-- The character whose written form a text begins with, and what follows it. -/
def readEscape : List Char → Option (Char × List Char)
  | '\\' :: 'u' :: '\x7b' :: t =>
    some (Char.ofNat (ofHexDigits (t.takeWhile (· ≠ '\x7d'))), (t.dropWhile (· ≠ '\x7d')).tail)
  | '\\' :: l :: t => some (ofEscapeLetter l, t)
  | c :: t => some (c, t)
  | [] => none

theorem hexValue_digitChar {d : Nat} (h : d < 16) : hexValue d.digitChar = d :=
  (by decide : ∀ d < 16, hexValue d.digitChar = d) d h

/-- The hexadecimal digits of a number read as the number. -/
theorem ofHexDigits_toDigits (n : Nat) : ofHexDigits (Nat.toDigits 16 n) = n := by
  induction n using Nat.strongRecOn with
  | _ n ih =>
    rw [Nat.toDigits_eq_if (by decide)]
    split
    · next h => simp [ofHexDigits, hexValue_digitChar h]
    · next h =>
      have hrest := ih (n / 16) (Nat.div_lt_self (by omega) (by decide))
      rw [ofHexDigits, List.foldl_append, ← ofHexDigits, hrest]
      simpa [hexValue_digitChar (Nat.mod_lt n (by decide : 0 < 16))] using Nat.div_add_mod n 16

/-- The digits of a number are those of the numbers below the base. -/
theorem exists_digitChar_of_mem_toDigits {b n : Nat} {c : Char} (hb : 1 < b) (h : c ∈ Nat.toDigits b n) :
    ∃ d < b, c = d.digitChar := by
  induction n using Nat.strongRecOn with
  | _ n ih =>
    rw [Nat.toDigits_eq_if hb] at h
    split at h
    · next hlt => exact ⟨n, hlt, List.mem_singleton.1 h⟩
    · next hge =>
      rcases List.mem_append.1 h with hm | hm
      · exact ih (n / b) (Nat.div_lt_self (by omega) hb) hm
      · exact ⟨n % b, Nat.mod_lt n (by omega), List.mem_singleton.1 hm⟩

/-- What is no digit does not stand among decimal digits. -/
theorem not_mem_toDigits {c : Char} (hc : c.isDigit = false) (n : Nat) : c ∉ Nat.toDigits 10 n := by
  intro h
  rw [Nat.isDigit_of_mem_toDigits (by decide) (by decide) h] at hc
  cases hc

/-- Hexadecimal digits are neither a brace nor a line feed. -/
theorem ne_of_mem_toDigits {n : Nat} {c : Char} (h : c ∈ Nat.toDigits 16 n) : c ≠ '\x7d' ∧ c ≠ '\n' := by
  obtain ⟨d, hd, rfl⟩ := exists_digitChar_of_mem_toDigits (by decide) h
  exact (by decide : ∀ d < 16, d.digitChar ≠ '\x7d' ∧ d.digitChar ≠ '\n') d hd

/-- The characters that are written with a letter, and the letters. -/
def escapeLetters (quote : Char) : List (Char × Char) :=
  [('\x00', '0'), ('\t', 't'), ('\r', 'r'), ('\n', 'n'), ('\\', '\\'), (quote, quote)]

theorem mem_escapeLetters {quote c l : Char} (h : escapeLetter? quote c = some l) : (c, l) ∈ escapeLetters quote := by
  unfold escapeLetter? at h
  unfold escapeLetters
  grind

/-- A backslash and the quote have a letter. -/
theorem ne_of_escapeLetter?_eq_none {quote c : Char} (h : escapeLetter? quote c = none) : c ≠ '\\' ∧ c ≠ quote := by
  unfold escapeLetter? at h
  grind

section Quote

variable {quote : Char} (hquote : quote = '\'' ∨ quote = '"') (hidden : Char → Bool)

include hquote

/-- The letter for a character stands for it, and is not the one that code points begin with. -/
theorem ofEscapeLetter_of_escapeLetter? {c l : Char} (h : escapeLetter? quote c = some l) : ofEscapeLetter l = c ∧ l ≠ 'u' := by
  have hall : ∀ p ∈ escapeLetters quote, ofEscapeLetter p.2 = p.1 ∧ p.2 ≠ 'u' := by
    rcases hquote with rfl | rfl <;> decide
  exact hall _ (mem_escapeLetters h)

/-- A written character is read as the character, whatever follows it. -/
theorem readEscape_append (c : Char) (r : List Char) : readEscape (escape quote hidden c ++ r) = some (c, r) := by
  unfold escape
  split
  · next l hl =>
    obtain ⟨hletter, hne⟩ := ofEscapeLetter_of_escapeLetter? hquote hl
    rw [List.cons_append, List.singleton_append, readEscape.eq_def]
    simp [hne, hletter]
  · next hnone =>
    have hc := (ne_of_escapeLetter?_eq_none hnone).1
    split
    · have hall : ∀ d ∈ Nat.toDigits 16 c.toNat, decide (d ≠ '\x7d') = true :=
        fun d hd => decide_eq_true (ne_of_mem_toDigits hd).1
      have hsplit : codePointEscape c ++ r = '\\' :: 'u' :: '\x7b' :: (Nat.toDigits 16 c.toNat ++ '\x7d' :: r) := by
        simp [codePointEscape]
      rw [hsplit, readEscape, List.takeWhile_append_of_pos hall, List.dropWhile_append_of_pos hall]
      simp [ofHexDigits_toDigits, Char.ofNat_toNat]
    · rw [List.singleton_append, readEscape.eq_def]
      simp [hc]

/-- A written character does not begin with the quote. -/
theorem exists_escape_eq_cons (c : Char) : ∃ d t, escape quote hidden c = d :: t ∧ d ≠ quote := by
  have hslash : '\\' ≠ quote := by
    rcases hquote with rfl | rfl <;> decide
  unfold escape
  split
  · exact ⟨_, _, rfl, hslash⟩
  · next hnone =>
    split
    · exact ⟨_, _, rfl, hslash⟩
    · exact ⟨c, [], rfl, (ne_of_escapeLetter?_eq_none hnone).2⟩

/-- Written characters up to a quote determine the characters and what follows the quote. -/
theorem flatMap_escape_append_inj {t u r s : List Char}
    (h : t.flatMap (escape quote hidden) ++ quote :: r = u.flatMap (escape quote hidden) ++ quote :: s) : t = u ∧ r = s := by
  induction t generalizing u with
  | nil =>
    cases u with
    | nil => exact ⟨rfl, (List.cons.inj h).2⟩
    | cons c u =>
      -- one text is closed where the other goes on, but nothing that is written begins with the quote
      obtain ⟨d, v, hescape, hne⟩ := exists_escape_eq_cons hquote hidden c
      rw [List.flatMap_nil, List.flatMap_cons, hescape] at h
      exact absurd (List.cons.inj h).1.symm hne
  | cons c t ih =>
    cases u with
    | nil =>
      obtain ⟨d, v, hescape, hne⟩ := exists_escape_eq_cons hquote hidden c
      rw [List.flatMap_nil, List.flatMap_cons, hescape] at h
      exact absurd (List.cons.inj h).1 hne
    | cons d u =>
      rw [List.flatMap_cons, List.flatMap_cons, List.append_assoc, List.append_assoc] at h
      have hread := congrArg readEscape h
      rw [readEscape_append hquote, readEscape_append hquote, Option.some.injEq, Prod.mk.injEq] at hread
      obtain ⟨rfl, hrest⟩ := hread
      obtain ⟨rfl, hr⟩ := ih hrest
      exact ⟨rfl, hr⟩

/-- A quoted text ends where it is first closed, so it determines the text and what follows it. -/
theorem quoted_append_inj {t u r s : List Char} (h : quoted quote hidden t ++ r = quoted quote hidden u ++ s) : t = u ∧ r = s := by
  refine flatMap_escape_append_inj hquote hidden ?_
  simpa [quoted] using h

/-- No written character is or contains a line feed. -/
theorem newline_not_mem_escape (c : Char) : '\n' ∉ escape quote hidden c := by
  have hletters : ∀ p ∈ escapeLetters quote, p.2 ≠ '\n' := by
    rcases hquote with rfl | rfl <;> decide
  unfold escape
  split
  · next l hl =>
    have hne := hletters _ (mem_escapeLetters hl)
    simp [hne.symm]
  · next hnone =>
    split
    · intro hm
      have hdigit : '\n' ∈ Nat.toDigits 16 c.toNat := by simpa [codePointEscape] using hm
      exact (ne_of_mem_toDigits hdigit).2 rfl
    · intro hm
      rw [← List.mem_singleton.1 hm] at hnone
      cases hnone

theorem newline_not_mem_quoted (t : List Char) : '\n' ∉ quoted quote hidden t := by
  have hne : '\n' ≠ quote := by
    rcases hquote with rfl | rfl <;> decide
  have hflat : '\n' ∉ t.flatMap (escape quote hidden) := by
    intro hm
    obtain ⟨c, -, hc⟩ := List.mem_flatMap.1 hm
    exact newline_not_mem_escape hquote hidden c hc
  simp [quoted, hne, hflat]

end Quote

end Loxeme
