import NodeForms.CommandLine.Dump
import NodeForms.Proofs.Batch.Writable

/-!
# Reports and results

The tree of a dump goes to the screen for results or to a file, never to both. Whatever is reported
after that does not touch it, whether the report can be shown or not; but a text that cannot be put
out or a notice that cannot be shown changes the status.
-/

namespace NodeForms

namespace Exit

/-- A run that delivers nothing and ends with a status that tells of it. -/
structure Fails (left : Exit) : Prop where
  code : left.code ≠ 0
  stdout : left.stdout = ""
  written : left.written = none

section

variable {left : Exit}

theorem Fails.noting (fails : left.Fails) (records : List LogRecord) :
    (left.noting records).Fails := ⟨fails.code, fails.stdout, fails.written⟩

theorem Fails.recordedFrom (fails : left.Fails) (level : LogLevel) :
    (left.recordedFrom level).Fails := ⟨fails.code, fails.stdout, fails.written⟩

end

/-- The results of another run are the same: what is on the screen for them and in the file. -/
structure Keeps (left other : Exit) : Prop where
  stdout : other.stdout = left.stdout
  written : other.written = left.written

variable {left middle right : Exit}

theorem Keeps.refl : left.Keeps left := ⟨rfl, rfl⟩

theorem Keeps.trans (first : left.Keeps middle) (second : middle.Keeps right) : left.Keeps right :=
  ⟨second.stdout.trans first.stdout, second.written.trans first.written⟩

theorem reporting_keeps (text : Except OutputFault String) : left.Keeps (left.reporting text) := by
  unfold reporting adding
  split <;> exact ⟨rfl, rfl⟩

theorem reporting_code (shown : String) : (left.reporting (.ok shown)).code = left.code := by
  unfold reporting adding
  cases left.crash <;> rfl

theorem fails_crashed (crash : Crash) : (crashed crash).Fails := ⟨Nat.one_ne_zero, rfl, rfl⟩

theorem fails_failed (message : Except OutputFault String) : (failed message).Fails where
  code := by
    unfold failed reporting adding
    cases message <;> exact Nat.one_ne_zero
  stdout := (reporting_keeps _).stdout
  written := (reporting_keeps _).written

/-- Nothing is delivered: no result is on the screen, and a file that is written is left empty. -/
structure Withholds (left : Exit) : Prop where
  stdout : left.stdout = ""
  written : ∀ path text, left.written = some (path, text) → text = ""

theorem Fails.withholds (fails : left.Fails) : left.Withholds where
  stdout := fails.stdout
  written path text isWritten := by
    rw [fails.written] at isWritten
    cases isWritten

theorem Withholds.of_keeps {other : Exit} (withholds : left.Withholds) (keeps : left.Keeps other) :
    other.Withholds := by
  constructor
  · rw [keeps.stdout, withholds.stdout]
  · rw [keeps.written]
    exact withholds.written

end Exit

namespace DumpRequest

section

variable (request : DumpRequest) (surroundings : Surroundings)

/-- The notice about the file for the tree can be shown, if there is such a file. -/
def IsAnnounced : Prop :=
  ∀ path, request.outputFile = some path →
    ∃ shown, surroundings.print (writtenNotice path) = .ok shown

/-- A text can be put out: no surrogate is named in it, and the screen shows it if it goes there. -/
structure CanDeliver (text : String) (namesSurrogate : Bool) : Prop where
  encoded : namesSurrogate = false
  shown : request.outputFile = none → ∃ shown, surroundings.echo text = .ok shown

/-- A text and a line end are on the screen, as the screen shows them, or they are in the file and
nothing but the notice is on the screen. -/
def Delivers (left : Exit) (text : String) : Prop :=
  match request.outputFile with
  | none => surroundings.echo text = .ok left.stdout ∧ left.written = none
  | some path => left.written = some (path, text ++ "\n") ∧
      left.stdout = (surroundings.print (writtenNotice path)).toOption.getD ""

def CanWrite (files : Files) : Prop :=
  ∀ path, request.outputFile = some path → ∃ place, files.target path = .ok place

/-- The table of the diagnostics can be shown, if there are any. -/
def CanShow (findings : List Diagnostic) : Prop :=
  findings = [] ∨
    ∃ shown, surroundings.printTable (diagnosticTable request.file findings) = .ok shown

end

variable {request : DumpRequest} {surroundings : Surroundings} {files : Files}

theorem Delivers.of_keeps {left other : Exit} {text : String}
    (delivers : request.Delivers surroundings left text) (keeps : left.Keeps other) :
    request.Delivers surroundings other text := by
  unfold Delivers at delivers ⊢
  rw [keeps.stdout, keeps.written]
  exact delivers

section

variable {text : String} {namesSurrogate : Bool}

theorem deliver_of_none (unnamed : request.outputFile = none) :
    request.deliver surroundings files text namesSurrogate =
      if namesSurrogate then Exit.crashed (.output .encoding)
      else { : Exit }.showing (surroundings.echo text) := by
  rw [deliver, unnamed]

theorem deliver_of_some {path : String} (named : request.outputFile = some path)
    {place : List String} (isPlace : files.target path = .ok place) :
    request.deliver surroundings files text namesSurrogate =
      if namesSurrogate then { Exit.crashed (.output .encoding) with written := some (path, "") }
      else { written := some (path, text ++ "\n") : Exit }.showing
        (surroundings.print (writtenNotice path)) := by
  simp only [deliver, named, isPlace]

variable (writable : request.CanWrite files)

include writable

theorem delivers_deliver (can : request.CanDeliver surroundings text namesSurrogate) :
    request.Delivers surroundings (request.deliver surroundings files text namesSurrogate)
      text := by
  obtain ⟨rfl, shown⟩ := can
  unfold Delivers
  cases named : request.outputFile with
  | none =>
      obtain ⟨shown, isShown⟩ := shown named
      rw [deliver_of_none named, isShown]
      exact ⟨congrArg Except.ok String.empty_append.symm, rfl⟩
  | some path =>
      obtain ⟨place, isPlace⟩ := writable path named
      rw [deliver_of_some named isPlace]
      dsimp only
      cases surroundings.print (writtenNotice path) with
      | error fault => exact ⟨rfl, rfl⟩
      | ok shown => exact ⟨rfl, String.empty_append⟩

theorem withholds_deliver (cannot : ¬request.CanDeliver surroundings text namesSurrogate) :
    (request.deliver surroundings files text namesSurrogate).Withholds := by
  cases named : request.outputFile with
  | none =>
      rw [deliver_of_none named]
      cases surrogate : namesSurrogate with
      | true => exact (Exit.fails_crashed _).withholds
      | false =>
          cases echoed : surroundings.echo text with
          | ok shown => exact absurd ⟨surrogate, fun _ => ⟨shown, echoed⟩⟩ cannot
          | error fault => exact ⟨rfl, fun _ _ isWritten => by cases isWritten⟩
  | some path =>
      obtain ⟨place, isPlace⟩ := writable path named
      rw [deliver_of_some named isPlace]
      cases surrogate : namesSurrogate with
      | true =>
          refine ⟨rfl, fun other content isWritten => ?_⟩
          exact (Prod.mk.inj (Option.some.inj isWritten)).2.symm
      | false =>
          refine absurd ⟨surrogate, fun unnamed => ?_⟩ cannot
          rw [named] at unnamed
          cases unnamed

theorem deliver_code_eq_zero_iff :
    (request.deliver surroundings files text namesSurrogate).code = 0 ↔
      request.CanDeliver surroundings text namesSurrogate ∧ request.IsAnnounced surroundings := by
  have can : request.CanDeliver surroundings text namesSurrogate ↔ namesSurrogate = false ∧
      (request.outputFile = none → ∃ shown, surroundings.echo text = .ok shown) :=
    ⟨fun ⟨encoded, shown⟩ => ⟨encoded, shown⟩, fun ⟨encoded, shown⟩ => ⟨encoded, shown⟩⟩
  unfold IsAnnounced
  rw [can]
  cases named : request.outputFile with
  | none =>
      rw [deliver_of_none named]
      cases namesSurrogate <;> cases surroundings.echo text <;>
        simp [Exit.crashed, Exit.showing, Exit.adding]
  | some path =>
      obtain ⟨place, isPlace⟩ := writable path named
      rw [deliver_of_some named isPlace]
      cases namesSurrogate <;> cases shown : surroundings.print (writtenNotice path) <;>
        simp [shown, Exit.crashed, Exit.showing, Exit.adding]

end

section

variable {left : Exit}

theorem reportFindings_keeps (findings : List Diagnostic) :
    left.Keeps (request.reportFindings surroundings findings left) := by
  unfold reportFindings
  split
  · exact .refl
  · apply Exit.reporting_keeps

theorem reportFindings_code {findings : List Diagnostic}
    (shows : request.CanShow surroundings findings) :
    (request.reportFindings surroundings findings left).code = left.code := by
  unfold reportFindings
  rcases shows with rfl | ⟨shown, isShown⟩
  · rfl
  · rw [isShown]
    split
    · rfl
    · apply Exit.reporting_code

theorem foldl_reporting_keeps (texts : List (Except OutputFault String)) :
    left.Keeps (texts.foldl Exit.reporting left) := by
  induction texts generalizing left with
  | nil => exact .refl
  | cons text texts inductionHypothesis =>
      rw [List.foldl_cons]
      exact (Exit.reporting_keeps text).trans inductionHypothesis

theorem reportFailures_keeps (failures : List SerializationError) :
    left.Keeps (request.reportFailures surroundings failures left) := by
  unfold reportFailures
  split
  · exact .refl
  · rw [← List.foldl_map]
    have listed : left.Keeps ((failures.map fun error =>
        surroundings.print (request.failureMessage error)).foldl Exit.reporting left) :=
      foldl_reporting_keeps _
    have summed := listed.trans (Exit.reporting_keeps (surroundings.print (summary failures)))
    exact ⟨summed.stdout, summed.written⟩

theorem reportFailures_code_eq_zero_iff (failures : List SerializationError) :
    (request.reportFailures surroundings failures left).code = 0 ↔
      failures = [] ∧ left.code = 0 := by
  unfold reportFailures
  cases failures <;> simp

end

section

variable {run : Run Product} {product : Product}

theorem fails_finish {reason : Failure} (failed : run.result = .error reason) :
    (request.finish surroundings files run).Fails := by
  unfold finish
  rw [failed]
  cases reason with
  | error error => apply Exit.fails_failed
  | _ => apply Exit.fails_crashed

variable (ok : run.result = .ok product)

include ok

theorem fails_finish_of_unwritten {fault : Sexp.WriteFault}
    (unwritten : product.tree.writeWithin surroundings.digitLimit request.layout = .error fault) :
    (request.finish surroundings files run).Fails := by
  simp only [finish, ok, unwritten]
  apply Exit.fails_crashed

variable {text : String}
  (isText : product.tree.writeWithin surroundings.digitLimit request.layout = .ok text)

include isText

theorem deliver_keeps_finish :
    (request.deliver surroundings files text product.namesSurrogate).Keeps
      (request.finish surroundings files run) := by
  simp only [finish, ok, isText]
  exact (reportFindings_keeps run.findings).trans (reportFailures_keeps product.failures)

theorem finish_code_eq_zero_iff (writable : request.CanWrite files)
    (shows : request.CanShow surroundings run.findings) :
    (request.finish surroundings files run).code = 0 ↔ product.failures = [] ∧
      request.CanDeliver surroundings text product.namesSurrogate ∧
        request.IsAnnounced surroundings := by
  simp only [finish, ok, isText]
  rw [reportFailures_code_eq_zero_iff, reportFindings_code shows, deliver_code_eq_zero_iff writable]

end

end DumpRequest

end NodeForms
