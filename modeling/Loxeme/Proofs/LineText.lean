import Loxeme.Proofs.Beginning
import Loxeme.Text.Lines
import Mathlib.Data.List.DropRight
import Mathlib.Data.List.Infix

/-!
# The text of a line

A line begins behind whole lines, as many as its number says (`dropLines_eq_some_iff`). So a place in a source is on the line that
the line feeds in front of it give, and that line is what stands in front of the place up to the last line feed and behind it up
to the next one (`lineAt?_of_eq`). Of that the carriage return at the end is left out and nothing else, so a piece that does not
end in one is a piece of what is left (`infix_dropReturn`).
-/

namespace Loxeme

variable {c : Char} {p t u v : List Char} {n : Nat} {source : String}

/-- A text of whole lines: it is empty or ends in a line feed. -/
def WholeLines (t : List Char) : Prop := ∀ c ∈ t.getLast?, c = '\n'

theorem wholeLines_nil : WholeLines [] := by
  intro c hc
  cases hc

/-- A character in front of whole lines belongs to the first of them, and a line feed is a whole line. -/
theorem WholeLines.cons (h : WholeLines t) (hc : t ≠ [] ∨ c = '\n') : WholeLines (c :: t) := by
  intro d hd
  cases t with
  | nil =>
    obtain rfl : c = d := by simpa using hd
    exact hc.resolve_left (by simp)
  | cons e t => exact h d (by simpa using hd)

theorem WholeLines.tail (h : WholeLines (c :: t)) : WholeLines t := by
  intro d hd
  cases t with
  | nil => cases hd
  | cons e t => exact h d (by simpa using hd)

/-- Whole lines are dropped as a whole. -/
theorem dropLines_append (h : WholeLines p) (u : List Char) : dropLines (newlines p) (p ++ u) = some u := by
  induction p with
  | nil => cases u <;> rfl
  | cons c p ih =>
    have hp := ih h.tail
    by_cases hc : c = '\n'
    · subst hc
      simpa [newlines_cons, dropLines] using hp
    · -- the line that the character belongs to ends in `p`
      have hpos : 0 < newlines p := by
        rw [newlines, List.count_pos_iff]
        cases hlast : p.getLast? with
        | none =>
          obtain rfl := List.getLast?_eq_none_iff.1 hlast
          exact absurd (h c rfl) hc
        | some d =>
          obtain rfl := h.tail d hlast
          exact List.mem_of_getLast? hlast
      obtain ⟨n, hn⟩ := Nat.exists_eq_succ_of_ne_zero hpos.ne'
      rw [hn] at hp
      rw [newlines_cons, if_neg hc, Nat.add_zero, hn, List.cons_append, dropLines, if_neg hc]
      exact hp

/-- What remains behind a number of lines is what stands behind as many whole lines. -/
theorem dropLines_eq_some_iff : dropLines n t = some u ↔ ∃ p, t = p ++ u ∧ newlines p = n ∧ WholeLines p := by
  constructor
  · intro h
    induction t generalizing n with
    | nil =>
      cases n with
      | zero => exact ⟨[], by simpa [dropLines] using h, rfl, wholeLines_nil⟩
      | succ n => cases h
    | cons c t ih =>
      cases n with
      | zero => exact ⟨[], by simpa [dropLines] using h, rfl, wholeLines_nil⟩
      | succ n =>
        rw [dropLines] at h
        split at h
        · next hc =>
          obtain ⟨p, rfl, rfl, hp⟩ := ih h
          exact ⟨c :: p, rfl, by simp [newlines_cons, hc], hp.cons (Or.inr hc)⟩
        · next hc =>
          obtain ⟨p, rfl, hn, hp⟩ := ih h
          have hne : p ≠ [] := by
            rintro rfl
            cases hn
          exact ⟨c :: p, rfl, by simp [newlines_cons, hc, hn], hp.cons (Or.inl hne)⟩
  · rintro ⟨p, rfl, rfl, hp⟩
    exact dropLines_append hp u

/-! ## The last line of a text -/

/-- The text behind its last line feed. -/
def lastLine (t : List Char) : List Char := t.rtakeWhile (· ≠ '\n')

theorem not_mem_lastLine (t : List Char) : '\n' ∉ lastLine t := by
  intro h
  simpa using List.mem_rtakeWhile_imp h

/-- A text is whole lines and its last line. -/
theorem exists_wholeLines (t : List Char) : ∃ p, t = p ++ lastLine t ∧ WholeLines p := by
  refine ⟨t.rdropWhile (· ≠ '\n'), List.rdropWhile_append_rtakeWhile.symm, ?_⟩
  intro c hc
  obtain ⟨hne, rfl⟩ := List.mem_getLast?_eq_getLast hc
  simpa using List.rdropWhile_last_not _ _ hne

/-- The last line of a text goes back to the last line of its end, or further. -/
theorem lastLine_suffix_append (t u : List Char) : lastLine u <:+ lastLine (t ++ u) := by
  rw [lastLine, lastLine, List.rtakeWhile, List.rtakeWhile, List.reverse_suffix, List.reverse_append]
  refine begins_takeWhile ((List.takeWhile_prefix _).trans (List.prefix_append _ _)) ?_
  intro c hc
  simpa using List.mem_takeWhile_imp hc

/-- The first line of a text goes on from the beginning of a line. -/
theorem firstLine_append (h : '\n' ∉ t) (u : List Char) : firstLine (t ++ u) = t ++ firstLine u :=
  List.takeWhile_append_of_pos fun c hc => by simpa using ne_of_mem_of_not_mem hc h

/-! ## The end of a line -/

theorem dropReturn_concat (t : List Char) : dropReturn (t ++ ['\r']) = t := by
  simp [dropReturn]

theorem dropReturn_of_not_mem (h : '\r' ∉ t) : dropReturn t = t := by
  rw [dropReturn, if_neg]
  intro hlast
  exact h (List.mem_of_getLast? hlast)

/-- A piece of a line is a piece of its text, if it does not end in the carriage return that is left out. -/
theorem infix_dropReturn (h : u <:+: t) (hlast : u.getLast? ≠ some '\r') : u <:+: dropReturn t := by
  obtain ⟨v, w, rfl⟩ := h
  unfold dropReturn
  split
  · next hr =>
    cases w using List.reverseRecOn with
    | nil =>
      cases u using List.reverseRecOn with
      | nil => exact List.nil_infix
      | append_singleton u d => simp_all
    | append_singleton w d => exact ⟨v, w, by rw [← List.append_assoc, List.dropLast_concat]⟩
  · exact ⟨v, w, rfl⟩

/-! ## The line of a place -/

/-- The line that a place in a source is on. -/
theorem lineAt?_of_eq (h : source.toList = t ++ v) :
    lineAt? source (1 + newlines t) = some (String.ofList (dropReturn (lastLine t ++ firstLine v))) := by
  obtain ⟨p, hp, hwhole⟩ := exists_wholeLines t
  have hlast : '\n' ∉ lastLine t := not_mem_lastLine t
  have hcount : newlines t = newlines p := by
    rw [hp, newlines_append, show newlines (lastLine t) = 0 from List.count_eq_zero.2 hlast, Nat.add_zero]
  have hsource : source.toList = p ++ (lastLine t ++ v) := by rw [h, ← List.append_assoc, ← hp]
  rw [hcount, Nat.add_comm, lineAt?, hsource, dropLines_append hwhole, Option.map_some, firstLine_append hlast]

/-- A source has the lines from the first to one more than it has line feeds. -/
theorem lineAt?_isSome_iff : (lineAt? source n).isSome ↔ 1 ≤ n ∧ n ≤ 1 + newlines source.toList := by
  cases n with
  | zero => simp [lineAt?]
  | succ n =>
    rw [lineAt?, Option.isSome_map, dropLines_isSome_iff]
    omega

end Loxeme
