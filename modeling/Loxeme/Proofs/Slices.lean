import Loxeme.Proofs.Cursor
import Loxeme.Proofs.Rule

/-!
# Slices and patterns

The boundaries of a source are the lengths of its beginnings, so a slice between two of them is what the longer beginning adds
to the shorter one (`slice?_eq`). A pattern finds the longest beginning of a text that is in its language: digits with a
fraction or without, and words. Where a text begins with a digit or a letter there is such a beginning.
-/

namespace Loxeme

/-! ## Boundaries and slices -/

theorem utf8ByteSize_ofList (t : List Char) : (String.ofList t).utf8ByteSize = byteLength t := by
  induction t with
  | nil => rfl
  | cons c t ih =>
    rw [String.ofList_cons, String.utf8ByteSize_append, String.utf8ByteSize_singleton, ih, byteLength_cons]

theorem utf8ByteSize_eq (source : String) : source.utf8ByteSize = byteLength source.toList := by
  rw [← utf8ByteSize_ofList, String.ofList_toList]

/-- The boundaries of a source are the lengths of its beginnings. -/
theorem isBoundary_iff {source : String} {i : Nat} :
    IsBoundary source i ↔ ∃ a b, source.toList = a ++ b ∧ i = byteLength a := by
  rw [IsBoundary, String.Pos.Raw.isValid_iff_exists_append]
  constructor
  · rintro ⟨s, t, rfl, h⟩
    refine ⟨s.toList, t.toList, String.toList_append, ?_⟩
    rw [← utf8ByteSize_eq]
    exact congrArg String.Pos.Raw.byteIdx h
  · rintro ⟨a, b, h, rfl⟩
    refine ⟨String.ofList a, String.ofList b, ?_, ?_⟩
    · rw [← String.toList_inj, h]
      simp
    · rw [String.Pos.Raw.ext_iff, ← utf8ByteSize_ofList]
      rfl

theorem IsBoundary.le_size {source : String} {i : Nat} (h : IsBoundary source i) : i ≤ source.utf8ByteSize := h.le_rawEndPos

/-- A slice is there exactly where both offsets are in the source, on boundaries and in order. -/
theorem slice?_isSome_iff {source : String} {i j : Nat} :
    (slice? source i j).isSome ↔ i ≤ j ∧ j ≤ source.utf8ByteSize ∧ IsBoundary source i ∧ IsBoundary source j := by
  unfold slice?
  split
  · next h => simp [h.1, h.2.2.le_size, h.2]
  · next h => simpa using fun hle _ hi hj => h ⟨hle, hi, hj⟩

/-- The bytes of the middle one of three texts. -/
theorem extract_toByteArray_append (a m b : String) :
    (a ++ m ++ b).toByteArray.extract a.utf8ByteSize (a.utf8ByteSize + m.utf8ByteSize) = m.toByteArray := by
  have h := @ByteArray.extract_append_size_add a.toByteArray (m.toByteArray ++ b.toByteArray) 0 m.toByteArray.size
  rw [Nat.add_zero, ByteArray.extract_append_eq_left rfl] at h
  rw [String.append_assoc, String.toByteArray_append, String.toByteArray_append, ← String.size_toByteArray,
    ← String.size_toByteArray, h]

/-- The slice between the lengths of two beginnings of a source is what the longer one adds. -/
theorem slice?_eq {source : String} {a m b : List Char} (h : source.toList = a ++ m ++ b) :
    slice? source (byteLength a) (byteLength a + byteLength m) = some m := by
  have hi : IsBoundary source (byteLength a) := isBoundary_iff.2 ⟨a, m ++ b, by simp [h], rfl⟩
  have hj : IsBoundary source (byteLength a + byteLength m) := isBoundary_iff.2 ⟨a ++ m, b, h, by simp⟩
  have hsource : source = String.ofList a ++ String.ofList m ++ String.ofList b := by
    rw [← String.toList_inj, h]
    simp
  have hbytes : source.toByteArray.extract (byteLength a) (byteLength a + byteLength m) = (String.ofList m).toByteArray := by
    rw [hsource, ← utf8ByteSize_ofList a, ← utf8ByteSize_ofList m]
    exact extract_toByteArray_append _ _ _
  have hextract : source.extract (source.pos ⟨_⟩ hi) (source.pos ⟨_⟩ hj) = String.ofList m :=
    String.toByteArray_inj.1 (String.toByteArray_extract.trans hbytes)
  rw [slice?, dif_pos ⟨Nat.le_add_right _ _, hi, hj⟩, hextract, String.toList_ofList]

/-! ## Patterns -/

/-- Digits, with further digits behind a point or without. -/
def Numeral (t : List Char) : Prop :=
  ∃ whole fraction, Digits whole ∧ (fraction = [] ∨ Digits fraction) ∧ t = Decimal.pointed whole fraction

theorem Numeral.isLexeme {t : List Char} (h : Numeral t) : IsLexeme t := by
  obtain ⟨whole, fraction, hw, hf, rfl⟩ := h
  exact ⟨_, _, Lexeme.number hw hf⟩

/-- A token is the longest lexeme that a text begins with, and so the longest of a class of lexemes that it is in. -/
theorem FirstSegment.longest_of_token {r : List Char} {s : Segment} {k : Kind} {l : Option Literal} {P : List Char → Prop}
    (h : FirstSegment r s) (ho : ¬ Opens r) (hy : s.yield = .token k l) (hs : P s.text) (hP : ∀ u, P u → IsLexeme u) :
    Longest P r s.text := by
  rcases h.lexeme_or_stray ho with ⟨text, k, l, rfl, hl, -⟩ | ⟨c, t, rfl, -⟩
  · exact ⟨hl.begins, hs, fun u hu hPu => hl.longest u hu (hP u hPu)⟩
  · cases hy

section FirstCharacter

variable {c : Char} {t : List Char}

theorem not_opens_of_digit (hc : Digit c) : ¬ Opens (c :: t) := by
  refine not_opens_cons (fun hb => (not_digit_letter_of_blank hb).1 hc) ?_ ?_
  · rintro rfl
    exact absurd hc (by decide)
  · rintro rfl
    exact absurd hc (by decide)

theorem not_opens_of_letter (hc : Letter c) : ¬ Opens (c :: t) := by
  refine not_opens_cons (fun hb => (not_digit_letter_of_blank hb).2 hc) ?_ ?_
  · rintro rfl
    exact absurd hc (by decide)
  · rintro rfl
    exact absurd hc (by decide)

theorem cut_of_digit (hc : Digit c) : Segment.cut c t = Segment.cutNumber c t := by
  have hblank : ¬ isBlank c = true := fun hb => (not_digit_letter_of_blank (isBlank_iff.1 hb)).1 hc
  have hquote : c ≠ '"' := by
    rintro rfl
    exact absurd hc (by decide)
  rw [Segment.cut, if_neg hblank, if_neg hquote, if_pos (isDigit_iff.2 hc)]

theorem cut_of_letter (hc : Letter c) : Segment.cut c t = Segment.cutWord c t := by
  have hblank : ¬ isBlank c = true := fun hb => (not_digit_letter_of_blank (isBlank_iff.1 hb)).2 hc
  have hquote : c ≠ '"' := by
    rintro rfl
    exact absurd hc (by decide)
  have hdigit : ¬ c.isDigit = true := fun hd => not_letter_of_digit (isDigit_iff.1 hd) hc
  rw [Segment.cut, if_neg hblank, if_neg hquote, if_neg hdigit, if_pos (isWordStart_iff.2 hc)]

/-- The run of digits that a text with a digit in front begins with. -/
theorem digits_takeWhile (hc : Digit c) : Digits (c :: t.takeWhile Char.isDigit) :=
  ⟨by simp, List.forall_mem_cons.2 ⟨hc, fun _ hd => isDigit_iff.1 (List.mem_takeWhile_imp hd)⟩⟩

theorem numeral_cutNumber (hc : Digit c) : Numeral (Segment.cutNumber c t).1.text :=
  ⟨_, _, digits_takeWhile hc, digits_splitFraction _, rfl⟩

theorem word_cutWord (hc : Letter c) : Word (Segment.cutWord c t).1.text :=
  ⟨⟨c, rfl, hc⟩, List.forall_mem_cons.2 ⟨Or.inl hc, fun _ hd => isWordPart_iff.1 (List.mem_takeWhile_imp hd)⟩⟩

theorem longest_cutNumber (hc : Digit c) : Longest Numeral (c :: t) (Segment.cutNumber c t).1.text :=
  (firstSegment_cutNumber (not_opens_of_digit hc) hc).longest_of_token (not_opens_of_digit hc) rfl (numeral_cutNumber hc)
    fun _ => Numeral.isLexeme

theorem longest_cutWord (hc : Letter c) : Longest Word (c :: t) (Segment.cutWord c t).1.text :=
  (firstSegment_cutWord (not_opens_of_letter hc) hc).longest_of_token (not_opens_of_letter hc) rfl (word_cutWord hc)
    fun _ hu => ⟨_, _, Lexeme.word hu⟩

theorem numberAt?_eq (hc : Digit c) : numberAt? (c :: t) = some (Segment.cutNumber c t).1.text := by
  simp [numberAt?, isDigit_iff.2 hc, Segment.cutNumber]

theorem wordAt?_eq (hc : Letter c) : wordAt? (c :: t) = some (Segment.cutWord c t).1.text := by
  simp [wordAt?, isWordStart_iff.2 hc, Segment.cutWord]

end FirstCharacter

/-- What the pattern for numbers finds is the longest numeral that a text begins with. -/
theorem numberAt?_eq_some_iff {r u : List Char} : numberAt? r = some u ↔ Longest Numeral r u := by
  constructor
  · intro h
    cases r with
    | nil => cases h
    | cons c t =>
      have hc : Digit c := by
        rw [← isDigit_iff]
        by_contra hn
        simp [numberAt?, hn] at h
      rw [numberAt?_eq hc] at h
      exact Option.some.inj h ▸ longest_cutNumber hc
  · intro h
    obtain ⟨w, f, hw, -, rfl⟩ := h.holds
    obtain ⟨c, v, hv, hc⟩ := exists_pointed_eq_cons hw f
    obtain ⟨t, rfl⟩ := hv ▸ h.begins
    rw [List.cons_append] at h ⊢
    rw [numberAt?_eq hc, (longest_cutNumber hc).unique h]

/-- What the pattern for words finds is the longest word that a text begins with. -/
theorem wordAt?_eq_some_iff {r u : List Char} : wordAt? r = some u ↔ Longest Word r u := by
  constructor
  · intro h
    cases r with
    | nil => cases h
    | cons c t =>
      have hc : Letter c := by
        rw [← isWordStart_iff]
        by_contra hn
        simp [wordAt?, hn] at h
      rw [wordAt?_eq hc] at h
      exact Option.some.inj h ▸ longest_cutWord hc
  · intro h
    obtain ⟨⟨c, hu, hc⟩, -⟩ := h.holds
    obtain ⟨v, rfl⟩ := List.head?_eq_some_iff.1 hu
    obtain ⟨t, rfl⟩ := h.begins
    rw [List.cons_append] at h ⊢
    rw [wordAt?_eq hc, (longest_cutWord hc).unique h]

/-- Digits with a point and further digits, or without, read as the decimal that they write. -/
theorem ofText?_pointed {whole fraction : List Char} (hw : Digits whole) (hf : fraction = [] ∨ Digits fraction) :
    Decimal.ofText? (Decimal.pointed whole fraction) = some (Decimal.ofDigits whole fraction) := by
  have htake := takeWhile_pointed hw.2 fraction
  have happ := List.takeWhile_append_dropWhile (p := Char.isDigit) (l := Decimal.pointed whole fraction)
  rw [htake] at happ
  rcases hf with rfl | hf
  · have hdrop : (Decimal.pointed whole []).dropWhile Char.isDigit = [] := by simpa [Decimal.pointed] using happ
    simp [Decimal.ofText?, htake, hdrop, hw.1]
  · have hall : ∀ d ∈ fraction, d.isDigit = true := fun d hd => isDigit_iff.2 (hf.2 d hd)
    have hdrop : (Decimal.pointed whole fraction).dropWhile Char.isDigit = '.' :: fraction := by
      simpa [Decimal.pointed, hf.1] using happ
    simpa [Decimal.ofText?, htake, hdrop, hw.1] using hall

end Loxeme
