import Loxeme.Proofs.Located
import Loxeme.Proofs.Reading
import Mathlib.Tactic.Choose

/-!
# A scan that is followed

A cursor has three outputs, and nothing ties them together but the order in which it appends to each: the tokens, the sink that is
handed the diagnostics, and the notes, of which only those are written that the level of detail asks for. Every token and every
fault is noted down as it is appended or reported, and the end of the input is not (`Cursor.told_eq`), so after a whole scan the
notes are what the scan tells of, in its order (`Cursor.run_followed`). The level decides on the notes alone.
-/

namespace Loxeme

namespace Cursor

variable {σ : Type} (report : σ → Diagnostic → σ) (source : String) (sink : σ) (level : Level)

/-- A run at a level of detail gives the tokens of the source, reports its diagnostics and writes the notes of the scanning. -/
theorem run_followed : ∃ s, run source report { sink := sink, level := level } = some s ∧ s.tokens = Loxeme.tokens source ∧
    s.sink = (diagnostics source).foldl report sink ∧ s.notes = notesUpTo level (scanNotes source) := by
  obtain ⟨start, h⟩ := run_initial report source sink level []
  exact ⟨_, h, rfl, rfl, rfl⟩

/-- A whole task at a level of detail gives and reports the same, and notes down its beginning and its end as well. -/
theorem task_followed : ∃ s, task source report { sink := sink, level := level } = some s ∧ s.tokens = Loxeme.tokens source ∧
    s.sink = (diagnostics source).foldl report sink ∧ s.notes = notesUpTo level (taskNotes source) := by
  obtain ⟨start, h⟩ :=
    run_initial report source sink level (notesUpTo level [.opened source.utf8ByteSize] ++ notesUpTo level [.entered])
  have hnotes : taskNotes source = [.opened source.utf8ByteSize] ++ [.entered] ++ scanNotes source ++
      [.completed (Loxeme.tokens source).length] ++ [.exited] := by
    simp [taskNotes, utf8ByteSize_eq]
  have hbegin : (({ sink := sink, level := level } : Cursor σ).note (.opened source.utf8ByteSize)).note .entered =
      { sink := sink, level := level, notes := notesUpTo level [.opened source.utf8ByteSize] ++ notesUpTo level [.entered] } := by
    rw [note_eq, note_eq]
    rfl
  rw [task, hbegin, h]
  refine ⟨_, rfl, ?_⟩
  rw [note_eq, note_eq, hnotes, notesUpTo_append, notesUpTo_append, notesUpTo_append, notesUpTo_append]
  exact ⟨rfl, rfl, rfl⟩

end Cursor

/-! ## What the notes say -/

namespace Note

/-- The token that a note is about, if it is about one. -/
def token? : Note → Option Token
  | token t => some t
  | _ => none

/-- The diagnostic that a note is about, if it is about one. -/
def diagnostic? : Note → Option Diagnostic
  | fault d => some d
  | _ => none

end Note

/-- Notes that say exactly what a scan of a source did. -/
structure Tells (source : String) (notes : List Note) : Prop where
  /-- They are about the tokens but the one for the end of the input, one by one. -/
  tokens_eq : notes.filterMap Note.token? = (tokens source).dropLast
  /-- They are about the diagnostics, one by one. -/
  diagnostics_eq : notes.filterMap Note.diagnostic? = diagnostics source
  /-- They are about nothing else, and come in the order of the texts in the source that the tokens and the diagnostics are for. -/
  inOrder : ∃ places, Locates source places ∧ notes = places.map (fun a => Note.ofEvent a.event)

theorem token?_ofEvent (e : Event) : (Note.ofEvent e).token? = e.token? := by
  cases e <;> rfl

theorem diagnostic?_ofEvent (e : Event) : (Note.ofEvent e).diagnostic? = e.diagnostic? := by
  cases e <;> rfl

theorem tells_scanNotes (source : String) : Tells source (scanNotes source) where
  tokens_eq := by
    rw [scanNotes, List.filterMap_map, tokens, List.dropLast_concat]
    exact congrArg (fun f => (events source).filterMap f) (funext token?_ofEvent)
  diagnostics_eq := by
    rw [scanNotes, List.filterMap_map, diagnostics]
    exact congrArg (fun f => (events source).filterMap f) (funext diagnostic?_ofEvent)
  inOrder := by
    refine ⟨located source, locates_located source, ?_⟩
    rw [scanNotes, ← event_located, List.map_map]
    rfl

/-- There is one token more than there are notes about tokens. -/
theorem length_tokens_eq_count (source : String) :
    (tokens source).length = (scanNotes source).countP (fun n => n.token?.isSome) + 1 := by
  have h := congrArg List.length (tells_scanNotes source).tokens_eq
  rw [List.length_filterMap_eq_countP] at h
  rw [h, tokens]
  simp

/-- With one level less of detail the notes about tokens are missing. -/
theorem notesUpTo_debug (notes : List Note) : notesUpTo .debug notes = notes.filter fun n => n.token?.isNone := by
  refine List.filter_congr ?_
  intro n _
  cases n <;> rfl

/-- No note is as coarse as the coarser levels. -/
theorem notesUpTo_coarse {level : Level} (h : level.rank < Level.debug.rank) (notes : List Note) : notesUpTo level notes = [] := by
  refine List.filter_eq_nil_iff.2 ?_
  intro n _
  have hn : Level.debug.rank ≤ n.level.rank := by cases n <;> simp [Note.level, Level.rank]
  simp only [decide_eq_true_eq]
  omega

/-- What scans that are followed and whole tasks that are followed, one of each for every level of detail, give, report to a sink
and note down. -/
structure Recorded {σ : Type} (report : σ → Diagnostic → σ) (source : String) (sink : σ) (scan task : Level → Cursor σ) :
    Prop where
  /-- They give the tokens of the source. -/
  tokens_eq : ∀ level, (scan level).tokens = tokens source ∧ (task level).tokens = tokens source
  /-- They report its diagnostics. -/
  sink_eq : ∀ level, (scan level).sink = (diagnostics source).foldl report sink ∧
    (task level).sink = (diagnostics source).foldl report sink
  /-- They write the notes that the level asks for. -/
  notes_eq : ∀ level, (scan level).notes = notesUpTo level (scanNotes source) ∧
    (task level).notes = notesUpTo level (taskNotes source)
  /-- At the finest level the notes of a scan say exactly what it did. -/
  tells : Tells source (scan .trace).notes
  /-- There is one token more than they tell of. -/
  length_tokens : (tokens source).length = (scan .trace).notes.countP (fun n => n.token?.isSome) + 1
  /-- A task notes down the number of bytes and that it begins, then what a scan notes down, then the number of tokens and that it
  ends. -/
  task_trace : (task .trace).notes = [.opened source.utf8ByteSize, .entered] ++ (scan .trace).notes ++
    [.completed ((scan .trace).notes.countP (fun n => n.token?.isSome) + 1), .exited]
  /-- One level coarser the notes about tokens are missing. -/
  debug : (scan .debug).notes = (scan .trace).notes.filter (fun n => n.token?.isNone) ∧
    (task .debug).notes = (task .trace).notes.filter (fun n => n.token?.isNone)
  /-- At the coarser levels there are no notes. -/
  coarse : ∀ level ∈ [Level.info, .warn, .error], (scan level).notes = [] ∧ (task level).notes = []

/-- A scan that is followed has a result at every level of detail, as scanning alone and as a whole task. It gives the same tokens
and reports the same diagnostics at each of them, and its notes are those of the scan as far as the level asks for them. -/
theorem scan_recorded {σ : Type} (report : σ → Diagnostic → σ) (source : String) (sink : σ) :
    ∃ scan task : Level → Cursor σ,
      (∀ level, Cursor.run source report { sink := sink, level := level } = some (scan level)) ∧
      (∀ level, Cursor.task source report { sink := sink, level := level } = some (task level)) ∧
      Recorded report source sink scan task := by
  choose scan hscan tokens_scan sink_scan notes_scan using Cursor.run_followed report source sink
  choose task htask tokens_task sink_task notes_task using Cursor.task_followed report source sink
  have htrace : (scan .trace).notes = scanNotes source := by rw [notes_scan, notesUpTo_trace]
  refine ⟨scan, task, hscan, htask, ?_⟩
  constructor
  case tokens_eq => exact fun level => ⟨tokens_scan level, tokens_task level⟩
  case sink_eq => exact fun level => ⟨sink_scan level, sink_task level⟩
  case notes_eq => exact fun level => ⟨notes_scan level, notes_task level⟩
  case tells =>
    rw [htrace]
    exact tells_scanNotes source
  case length_tokens =>
    rw [htrace]
    exact length_tokens_eq_count source
  case task_trace =>
    rw [htrace, notes_task, notesUpTo_trace, taskNotes, length_tokens_eq_count, utf8ByteSize_eq]
  case debug =>
    rw [notes_scan, notes_scan, notes_task, notes_task, notesUpTo_trace, notesUpTo_trace]
    exact ⟨notesUpTo_debug _, notesUpTo_debug _⟩
  case coarse =>
    intro level hlevel
    have hrank : level.rank < Level.debug.rank := by
      simp only [List.mem_cons, List.not_mem_nil, or_false] at hlevel
      rcases hlevel with rfl | rfl | rfl <;> decide
    rw [notes_scan, notes_task]
    exact ⟨notesUpTo_coarse hrank _, notesUpTo_coarse hrank _⟩

end Loxeme
