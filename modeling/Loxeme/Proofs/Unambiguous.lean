import Loxeme.Console
import Loxeme.Proofs.Unquoting
import Mathlib.Logic.Basic

/-!
# Diagnostics are unambiguous

A message tells its fault even with other text behind it, because what it quotes ends where it is first closed. The tip and the
excerpt, which are shown as they are, therefore cannot make one diagnostic look like another (`diagnostics_unambiguous`).
-/

namespace Loxeme

/-! ## Messages -/

/-- What is wrong, in words, where the characters that are shown by their code points are given. -/
def Fault.messageBy (hidden : Char → Bool) : Fault → String
  | unexpectedCharacter c => "Unexpected character " ++ String.ofList (quoted '\'' hidden [c]) ++ "."
  | unterminatedString => "Unterminated string."
  | unterminatedComment => "Unterminated block comment."
  | invalidNumber lexeme => "Invalid number literal " ++ String.ofList (quoted '"' hidden lexeme.toList) ++ "."

theorem Fault.messageBy_isHidden (f : Fault) : f.messageBy isHidden = f.message := by
  unfold messageBy message quoteChar quoteText
  rfl

/-- A message tells the fault, whatever is written behind it. -/
theorem Fault.messageBy_append_inj {hidden : Char → Bool} {f g : Fault} {r s : List Char}
    (h : (f.messageBy hidden).toList ++ r = (g.messageBy hidden).toList ++ s) : f = g := by
  unfold messageBy at h
  cases f with
  | unexpectedCharacter c =>
    cases g with
    | unexpectedCharacter d =>
      have hquoted : quoted '\'' hidden [c] ++ '.' :: r = quoted '\'' hidden [d] ++ '.' :: s := by simpa using h
      obtain ⟨hc, -⟩ := quoted_append_inj (Or.inl rfl) hidden hquoted
      rw [List.singleton_inj.1 hc]
    | _ => simp at h
  | invalidNumber t =>
    cases g with
    | invalidNumber u =>
      have hquoted : quoted '"' hidden t.toList ++ '.' :: r = quoted '"' hidden u.toList ++ '.' :: s := by simpa using h
      obtain ⟨ht, -⟩ := quoted_append_inj (Or.inr rfl) hidden hquoted
      rw [String.toList_inj.1 ht]
    | _ => simp at h
  | unterminatedString =>
    cases g with
    | unterminatedString => rfl
    | _ => simp at h
  | unterminatedComment =>
    cases g with
    | unterminatedComment => rfl
    | _ => simp at h

/-! ## Diagnostics -/

/-- A diagnostic with the number of its line, its message and anything behind that. -/
def Diagnostic.announced (hidden : Char → Bool) (behind : String) (d : Diagnostic) : String :=
  "[line " ++ toString d.line ++ "] Error: " ++ d.fault.messageBy hidden ++ behind

/-- What a console writes behind the message: the tip, and the line of the source. -/
def Console.behind (c : Console) (d : Diagnostic) : String :=
  (match d.fault.tip? with
    | some tip => " (" ++ tip ++ ")"
    | none => "") ++
  match c.lineOf? d with
    | some text => excerpt d.line text
    | none => ""

theorem Console.render_eq (c : Console) (d : Diagnostic) : c.render d = d.announced isHidden (c.behind d) := by
  unfold render behind Diagnostic.announced Diagnostic.header
  rw [Fault.messageBy_isHidden]
  cases c.lineOf? d <;> cases d.fault.tip? <;> simp [String.append_assoc]

/-- Texts up to a character that is in neither of them are equal. -/
theorem append_cons_inj_of_not_mem {α : Type} {a : α} {t u r s : List α} (ht : a ∉ t) (hu : a ∉ u)
    (h : t ++ a :: r = u ++ a :: s) : t = u ∧ r = s := by
  induction t generalizing u with
  | nil =>
    cases u with
    | nil => exact ⟨rfl, (List.cons.inj h).2⟩
    | cons b u => exact absurd (List.mem_cons.2 (Or.inl (List.cons.inj h).1)) hu
  | cons b t ih =>
    cases u with
    | nil => exact absurd (List.mem_cons.2 (Or.inl (List.cons.inj h).1.symm)) ht
    | cons c u =>
      obtain ⟨rfl, h'⟩ := List.cons.inj h
      obtain ⟨rfl, hr⟩ := ih (fun hm => ht (List.mem_cons_of_mem _ hm)) (fun hm => hu (List.mem_cons_of_mem _ hm)) h'
      exact ⟨rfl, hr⟩

/-- A diagnostic is told by its line and its message, whatever is written behind them. -/
theorem Diagnostic.announced_inj {hidden : Char → Bool} {d e : Diagnostic} {r s : String}
    (h : d.announced hidden r = e.announced hidden s) : d = e := by
  have hlist : Nat.toDigits 10 d.line ++ ']' :: (" Error: ".toList ++ (d.fault.messageBy hidden).toList ++ r.toList) =
      Nat.toDigits 10 e.line ++ ']' :: (" Error: ".toList ++ (e.fault.messageBy hidden).toList ++ s.toList) := by
    simpa [announced, Nat.toString_eq_ofList_toDigits] using congrArg String.toList h
  obtain ⟨hline, hrest⟩ := append_cons_inj_of_not_mem (not_mem_toDigits rfl _) (not_mem_toDigits rfl _) hlist
  rw [List.append_assoc, List.append_assoc] at hrest
  have hfault := Fault.messageBy_append_inj (List.append_cancel_left hrest)
  have hnumber : d.line = e.line := by
    rw [← Nat.ofDigitChars_ten_toDigits (n := d.line), hline, Nat.ofDigitChars_ten_toDigits]
  exact congrArg₂ Diagnostic.mk hfault hnumber

/-- Whatever the characters are that are shown by their code points, two messages are equal only for equal faults, and two diagnostics
are shown alike only if they are equal, even if each of them has any text of its own behind its message. So it is with the messages and
on every console. -/
theorem diagnostics_unambiguous :
    (∀ (hidden : Char → Bool) (f g : Fault), f.messageBy hidden = g.messageBy hidden ↔ f = g) ∧
      (∀ (hidden : Char → Bool) (behind : Diagnostic → String) (d e : Diagnostic),
        d.announced hidden (behind d) = e.announced hidden (behind e) ↔ d = e) ∧
      (∀ d e : Diagnostic, d.fault.message = e.fault.message ↔ d.fault = e.fault) ∧
      ∀ (c : Console) (d e : Diagnostic), c.render d = c.render e ↔ d = e := by
  have hmessage : ∀ (hidden : Char → Bool) (f g : Fault), f.messageBy hidden = g.messageBy hidden ↔ f = g := by
    refine fun hidden f g => ⟨fun h => ?_, fun h => congrArg _ h⟩
    exact Fault.messageBy_append_inj (r := []) (s := []) (by rw [h])
  refine ⟨hmessage, fun hidden behind d e => ⟨Diagnostic.announced_inj, ?_⟩, fun d e => ?_, fun c d e => ?_⟩
  · rintro rfl
    rfl
  · rw [← Fault.messageBy_isHidden, ← Fault.messageBy_isHidden, hmessage]
  · rw [Console.render_eq, Console.render_eq]
    refine ⟨Diagnostic.announced_inj, ?_⟩
    rintro rfl
    rfl

end Loxeme
