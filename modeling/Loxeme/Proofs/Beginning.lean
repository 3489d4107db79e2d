import Mathlib.Data.List.TakeWhile

/-!
# Beginnings of a text

A language says of a text how far something that begins there reaches: as far as it can, or up to the first place where it
may end. `Longest` and `Shortest` are the two, for any property of the pieces. Each piece is determined by the text, and a
character that no piece with the property contains keeps a piece from reaching past it.
-/

namespace Loxeme

variable {α : Type} {P : List α → Prop} {p : α → Bool} {source text u v : List α}

/-- The longest beginning of a source that has a property. -/
structure Longest (P : List α → Prop) (source text : List α) : Prop where
  /-- The text begins the source. -/
  begins : text <+: source
  /-- The text has the property. -/
  holds : P text
  /-- No longer beginning of the source has it. -/
  longest : ∀ u, u <+: source → P u → u.length ≤ text.length

/-- The shortest beginning of a source that has a property. -/
structure Shortest (P : List α → Prop) (source text : List α) : Prop where
  /-- The text begins the source. -/
  begins : text <+: source
  /-- The text has the property. -/
  holds : P text
  /-- No shorter beginning of the source has it. -/
  shortest : ∀ u, u <+: source → P u → text.length ≤ u.length

/-- Two beginnings of one text that are equally long are the same. -/
theorem eq_of_begins (hu : u <+: source) (hv : v <+: source) (h : u.length = v.length) : u = v :=
  (List.prefix_of_prefix_length_le hu hv (Nat.le_of_eq h)).eq_of_length h

theorem Longest.unique (h : Longest P source u) (h' : Longest P source v) : u = v :=
  eq_of_begins h.begins h'.begins (Nat.le_antisymm (h'.longest u h.begins h.holds) (h.longest v h'.begins h'.holds))

theorem Shortest.unique (h : Shortest P source u) (h' : Shortest P source v) : u = v :=
  eq_of_begins h.begins h'.begins (Nat.le_antisymm (h.shortest v h'.begins h'.holds) (h'.shortest u h.begins h.holds))

/-- A beginning of a source made of characters with a property begins the run of such characters. -/
theorem begins_takeWhile (hu : u <+: source) (hp : ∀ c ∈ u, p c) : u <+: source.takeWhile p := by
  obtain ⟨w, rfl⟩ := hu
  rw [List.takeWhile_append_of_pos hp]
  exact List.prefix_append _ _

/-- The run of characters with a property is the longest beginning made of them. -/
theorem longest_takeWhile (p : α → Bool) (source : List α) :
    Longest (fun u => ∀ c ∈ u, p c) source (source.takeWhile p) where
  begins := List.takeWhile_prefix p
  holds := fun _ hc => List.mem_takeWhile_imp hc
  longest := fun _ hu hp => (begins_takeWhile hu hp).length_le

/-- A beginning without the character `c` does not reach past it. -/
theorem begins_of_not_mem {c : α} (hu : u <+: source ++ c :: v) (hc : c ∉ u) : u <+: source := by
  rcases List.prefix_or_prefix_of_prefix hu (List.prefix_append source (c :: v)) with h | ⟨w, rfl⟩
  · exact h
  · cases w with
    | nil => simp
    | cons d w =>
      rw [List.prefix_append_right_inj, List.cons_prefix_cons] at hu
      exact absurd (by simp [hu.1]) hc

/-- What is longest in a source stays longest when the source goes on with a character that the property keeps out. -/
theorem Longest.append {c : α} (h : Longest P source text) (hc : ∀ u, P u → c ∉ u) : Longest P (source ++ c :: v) text where
  begins := h.begins.trans (List.prefix_append _ _)
  holds := h.holds
  longest := fun u hu hP => h.longest u (begins_of_not_mem hu (hc u hP)) hP

/-- What is shortest in a source stays shortest however the source goes on. -/
theorem Shortest.append (h : Shortest P source text) : Shortest P (source ++ v) text where
  begins := h.begins.trans (List.prefix_append _ _)
  holds := h.holds
  shortest := by
    intro u hu hP
    rcases List.prefix_or_prefix_of_prefix hu (List.prefix_append source v) with hs | hs
    · exact h.shortest u hs hP
    · exact h.begins.length_le.trans hs.length_le

/-- What is longest in a source is longest in itself. -/
theorem Longest.self (h : Longest P source text) : Longest P text text where
  begins := List.prefix_rfl
  holds := h.holds
  longest := fun _ hu _ => hu.length_le

/-- What is shortest in a source is shortest in itself. -/
theorem Shortest.self (h : Shortest P source text) : Shortest P text text where
  begins := List.prefix_rfl
  holds := h.holds
  shortest := fun u hu hP => h.shortest u (hu.trans h.begins) hP

end Loxeme
