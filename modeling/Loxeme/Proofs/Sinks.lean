import Loxeme.Collector
import Loxeme.Console
import Loxeme.Proofs.Reading
import Mathlib.Data.List.Induction

/-!
# Sinks of a scan

A console and a collector as sinks, which are handed one diagnostic at a time. As a scan gives the same tokens and reports the
same diagnostics to every sink (`scanInto_eq`), what a command does with a sink follows from what the sink does with each of
them, and a sequence of commands does what its commands do (`Session.perform_eq`, `Collector.perform_eq`).
-/

namespace Loxeme

/-! ## A console that writes -/

/-- A console and what it has written. -/
structure Session where
  /-- The console. -/
  console : Console
  /-- The text that it has written. -/
  written : String := ""

namespace Session

/-- Shows a diagnostic. -/
def report (s : Session) (d : Diagnostic) : Session :=
  ⟨{ s.console with hadError := true }, s.written ++ (s.console.render d ++ "\n")⟩

/-- The answer to a command, and the session after it. -/
def perform (s : Session) : Console.Command → Option (Console.Reply × Session)
  | .scan source => do
    let (tokens, s) ← scanInto report source s
    return (.tokens tokens, s)
  | .report d => some (.nothing, s.report d)
  | .render d => some (.text (s.console.render d), s)
  | .reset => some (.nothing, { s with console := { s.console with hadError := false } })

/-- The session after commands given one after the other. -/
def performAll (s : Session) : List Console.Command → Option Session
  | [] => some s
  | command :: rest => do
    let (_, s) ← s.perform command
    s.performAll rest

/-- Diagnostics reported one by one are written one behind the other. -/
theorem foldl_report (s : Session) (ds : List Diagnostic) :
    ds.foldl report s = ⟨s.console.shown ds, s.written ++ s.console.written ds⟩ := by
  induction ds generalizing s with
  | nil => simp [Console.shown, Console.written]
  | cons d ds ih =>
    rw [List.foldl_cons, ih]
    simp [report, Console.shown, Console.written, Console.render, Console.lineOf?, String.append_assoc]

/-- A command is answered, written for and remembered as the console does it. -/
theorem perform_eq (s : Session) (command : Console.Command) :
    s.perform command =
      some (s.console.reply command, ⟨s.console.after command, s.written ++ s.console.written command.diagnostics⟩) := by
  cases command with
  | scan source =>
    rw [perform, scanInto_eq, foldl_report]
    rfl
  | report d =>
    have h := foldl_report s [d]
    rw [List.foldl_cons, List.foldl_nil] at h
    rw [perform, h]
    rfl
  | render d => simp [perform, Console.reply, Console.after, Console.shown, Console.Command.diagnostics, Console.written]
  | reset => simp [perform, Console.reply, Console.after, Console.Command.diagnostics, Console.written]

/-- After commands there is the console that they leave, and all that they show has been written. -/
theorem performAll_eq (s : Session) (commands : List Console.Command) :
    s.performAll commands = some ⟨commands.foldl Console.after s.console,
      s.written ++ s.console.written (commands.flatMap Console.Command.diagnostics)⟩ := by
  induction commands generalizing s with
  | nil => simp [performAll, Console.written]
  | cons command rest ih =>
    rw [performAll, perform_eq]
    refine (ih _).trans ?_
    rw [Console.written_after, String.append_assoc, ← Console.written_append]
    rfl

end Session

namespace Console

/-- Whether something has been shown in the course of commands and the console has not been reset since. -/
def ShownSinceReset (commands : List Command) : Prop :=
  ∃ before command after, commands = before ++ command :: after ∧ command.diagnostics ≠ [] ∧ Command.reset ∉ after

theorem shownSinceReset_concat (commands : List Command) (command : Command) :
    ShownSinceReset (commands ++ [command]) ↔
      command.diagnostics ≠ [] ∨ command ≠ .reset ∧ ShownSinceReset commands := by
  constructor
  · rintro ⟨before, x, after, heq, hx, hreset⟩
    rcases List.eq_nil_or_concat after with rfl | ⟨after, last, rfl⟩
    · obtain ⟨-, hlast⟩ := List.append_inj' heq rfl
      obtain rfl := (List.cons.inj hlast).1
      exact Or.inl hx
    · rw [List.concat_eq_append, ← List.cons_append, ← List.append_assoc] at heq
      obtain ⟨rfl, hlast⟩ := List.append_inj' heq rfl
      obtain rfl := (List.cons.inj hlast).1
      simp only [List.concat_eq_append, List.mem_append, List.mem_singleton, not_or] at hreset
      exact Or.inr ⟨Ne.symm hreset.2, before, x, after, rfl, hx, hreset.1⟩
  · rintro (h | ⟨hne, before, x, after, rfl, hx, hreset⟩)
    · exact ⟨commands, command, [], rfl, h, by simp⟩
    · exact ⟨before, x, after ++ [command], by simp, hx, by simpa [hreset] using hne.symm⟩

/-- A console that was made without anything shown remembers exactly what has been shown since the last reset. -/
theorem hadError_foldl_after (origin : Option String) (commands : List Command) :
    (commands.foldl after { source := origin }).hadError = true ↔ ShownSinceReset commands := by
  induction commands using List.reverseRecOn with
  | nil => simp [ShownSinceReset]
  | append_singleton commands command ih =>
    rw [shownSinceReset_concat, ← ih, List.foldl_append, List.foldl_cons, List.foldl_nil]
    cases command <;> simp [after, shown, Command.diagnostics, or_comm]

theorem source_foldl_after (c : Console) (commands : List Command) : (commands.foldl after c).source = c.source := by
  induction commands generalizing c with
  | nil => rfl
  | cons command rest ih => rw [List.foldl_cons, ih, source_after]

/-- What comes last of commands is what comes of the last one after the others. -/
theorem getLast?_run (c : Console) (commands : List Command) (command : Command) :
    (c.run (commands ++ [command])).getLast? = some ((commands.foldl after c).outcome command) := by
  induction commands generalizing c with
  | nil => rfl
  | cons x rest ih =>
    rw [List.cons_append, run, List.getLast?_cons, ih]
    rfl

end Console

/-! ## A collector -/

namespace Collector

/-- Keeps a diagnostic. -/
def report (c : Collector) (d : Diagnostic) : Collector := ⟨c.diagnostics ++ [d]⟩

/-- The tokens that a command answers with, if it answers, and the collector after it. -/
def perform (c : Collector) : Command → Option (Option (List Token) × Collector)
  | .scan source => do
    let (tokens, c) ← scanInto report source c
    return (some tokens, c)
  | .report d => some (none, c.report d)

/-- The collector after commands given one after the other. -/
def performAll (c : Collector) : List Command → Option Collector
  | [] => some c
  | command :: rest => do
    let (_, c) ← c.perform command
    c.performAll rest

theorem foldl_report (c : Collector) (ds : List Diagnostic) : ds.foldl report c = ⟨c.diagnostics ++ ds⟩ := by
  induction ds generalizing c with
  | nil => simp
  | cons d ds ih => simp [ih, report]

theorem perform_eq (c : Collector) (command : Command) : c.perform command = some (command.tokens?, c.after command) := by
  cases command with
  | scan source =>
    rw [perform, scanInto_eq, foldl_report]
    rfl
  | report d => rfl

theorem performAll_eq (c : Collector) (commands : List Command) : c.performAll commands = some (c.afterAll commands) := by
  induction commands generalizing c with
  | nil => rfl
  | cons command rest ih =>
    rw [performAll, perform_eq]
    exact ih _

/-- The last of the collectors after each of the commands is what the last command leaves after the others. -/
theorem getLast?_run (c : Collector) (commands : List Command) (command : Command) :
    (c.run (commands ++ [command])).getLast? = some ((c.afterAll commands).after command) := by
  induction commands generalizing c with
  | nil => rfl
  | cons x rest ih =>
    rw [List.cons_append, run, List.getLast?_cons, ih]
    rfl

end Collector

/-! ## Every sequence of commands -/

/-- What a console that was given `origin` answers to a command and writes for it, whatever came before: a scan answers with the
tokens that a scan into any sink gives, and writes the diagnostics that an empty collector holds after it. -/
inductive Console.Answers (origin : Option String) : Console.Command → Console.Reply → String → Prop where
  | scan {source : String} {tokens : List Token} {collected : Collector} :
      (∀ (σ : Type) (report : σ → Diagnostic → σ) (sink : σ),
        scanInto report source sink = some (tokens, collected.diagnostics.foldl report sink)) →
      scanInto Collector.report source {} = some (tokens, collected) →
      Answers origin (.scan source) (.tokens tokens)
        (String.join (collected.diagnostics.map fun d => ({ source := origin } : Console).render d ++ "\n"))
  | report (d : Diagnostic) : Answers origin (.report d) .nothing (({ source := origin } : Console).render d ++ "\n")
  | render (d : Diagnostic) : Answers origin (.render d) (.text (({ source := origin } : Console).render d)) ""
  | reset : Answers origin .reset .nothing ""

/-- A collector that was empty holds what a scan reports. -/
theorem scanInto_collector (source : String) :
    scanInto Collector.report source {} = some (tokens source, ⟨diagnostics source⟩) := by
  rw [scanInto_eq, Collector.foldl_report]
  rfl

/-- A console answers as its source demands, whether or not it has shown anything. -/
theorem Console.answers (c : Console) (command : Console.Command) :
    Console.Answers c.source command (c.reply command) (c.written command.diagnostics) := by
  cases command with
  | scan source => exact Console.Answers.scan (fun _ report sink => scanInto_eq report source sink) (scanInto_collector source)
  | report d =>
    have h : c.written [d] = c.render d ++ "\n" := by simp [Console.written]
    rw [Console.Command.diagnostics, h]
    exact Console.Answers.report d
  | render d => exact Console.Answers.render d
  | reset => exact Console.Answers.reset

/-- After any commands a console answers the next one and writes for it as if it were the first, and it remembers exactly
whether something has been shown since the last reset. A collector holds after any commands what each of them gave, in their
order, and answers the next one as if it were the first. -/
theorem sinks_agree :
    (∀ (origin : Option String) (commands : List Console.Command) (command : Console.Command),
      ∃ (s s' : Session) (reply : Console.Reply) (text : String),
        Session.performAll { console := { source := origin } } commands = some s ∧
        s.perform command = some (reply, s') ∧
        Console.Answers origin command reply text ∧ s'.written = s.written ++ text ∧
        (s'.console.hadError = true ↔ Console.ShownSinceReset (commands ++ [command])) ∧
        (Console.run { source := origin } (commands ++ [command])).getLast? =
          some ⟨reply, text, s'.console.hadError⟩) ∧
      (∀ commands : List Collector.Command,
        ∃ c : Collector, Collector.performAll {} commands = some c ∧ c = Collector.afterAll {} commands ∧
          c.diagnostics = commands.flatMap Collector.Command.diagnostics ∧ (c.hadError = true ↔ c.diagnostics ≠ [])) ∧
      (∀ (commands : List Collector.Command) (command : Collector.Command), ∃ c c' : Collector,
        Collector.performAll {} commands = some c ∧ c.perform command = some (command.tokens?, c') ∧
          Collector.performAll {} (commands ++ [command]) = some c' ∧
          (Collector.run {} (commands ++ [command])).getLast? = some c') := by
  refine ⟨?_, ?_, ?_⟩
  · intro origin commands command
    have hanswers := Console.answers (commands.foldl Console.after { source := origin }) command
    have hflag := Console.hadError_foldl_after origin (commands ++ [command])
    rw [Console.source_foldl_after] at hanswers
    rw [List.foldl_append] at hflag
    exact ⟨_, _, _, _, Session.performAll_eq _ commands, Session.perform_eq _ command, hanswers, rfl, hflag,
      Console.getLast?_run _ commands command⟩
  · intro commands
    refine ⟨_, Collector.performAll_eq {} commands, rfl, Collector.diagnostics_afterAll {} commands, ?_⟩
    simp [Collector.hadError]
  · intro commands command
    refine ⟨_, _, Collector.performAll_eq {} commands, Collector.perform_eq _ command, ?_, Collector.getLast?_run {} commands command⟩
    rw [Collector.performAll_eq, Collector.afterAll, Collector.afterAll, List.foldl_append]
    rfl

end Loxeme
