/-!
# Lines of a text

A line feed ends a line, so a text has one line more than it has line feeds, and the last line may be empty. Lines are
numbered from one. The text of a line comes without its line feed and without one carriage return before it.
-/

namespace Loxeme

/-- The number of line feeds in a text. -/
def newlines (t : List Char) : Nat := t.count '\n'

/-- The text after its first `n` line feeds, or nothing when it has fewer. -/
def dropLines : Nat → List Char → Option (List Char)
  | 0, t => some t
  | _ + 1, [] => none
  | n + 1, c :: t => if c = '\n' then dropLines n t else dropLines (n + 1) t

/-- The text up to its first line feed. -/
def firstLine (t : List Char) : List Char := t.takeWhile (· ≠ '\n')

/-- The text without the carriage return at its end, if it ends in one. -/
def dropReturn (t : List Char) : List Char := if t.getLast? = some '\r' then t.dropLast else t

/-- The line of number `n`, counted from one, without its line end; nothing when `n` is zero or beyond the last line. -/
def lineAt? (source : String) (n : Nat) : Option String :=
  match n with
  | 0 => none
  | n + 1 => (dropLines n source.toList).map fun t => String.ofList (dropReturn (firstLine t))

@[simp] theorem newlines_nil : newlines [] = 0 := rfl

@[simp] theorem newlines_append (s t : List Char) : newlines (s ++ t) = newlines s + newlines t :=
  List.count_append

theorem newlines_cons (c : Char) (t : List Char) : newlines (c :: t) = newlines t + if c = '\n' then 1 else 0 := by
  simp [newlines, List.count_cons]

/-- A line exists for every count of line feeds the text has, and for no more. -/
theorem dropLines_isSome_iff (n : Nat) (t : List Char) : (dropLines n t).isSome ↔ n ≤ newlines t := by
  induction t generalizing n with
  | nil => cases n <;> simp [dropLines]
  | cons c t ih =>
    cases n with
    | zero => simp [dropLines]
    | succ n =>
      simp only [dropLines, newlines_cons]
      split
      · rw [ih]; omega
      · rw [ih]; omega

example : lineAt? "a\r\nb\n" 1 = some "a" := by decide +kernel

example : lineAt? "a\r\nb\n" 3 = some "" ∧ lineAt? "a\r\nb\n" 4 = none := by decide +kernel

end Loxeme
