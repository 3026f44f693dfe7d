import NodeForms.Serialize.Log

/-!
# Runs over several trees

Work on several trees leaves log records and diagnostics and ends in a value or in the
reason why it stopped. Runs are put one after the other: what the later ones leave comes
after what the earlier ones left, and nothing follows a failure.
-/

namespace NodeForms

/-- What a piece of work leaves and what it comes to. -/
structure Run (α : Type) where
  records : List LogRecord := []
  findings : List Diagnostic := []
  result : Except Failure α

namespace Run

variable {α β : Type}

def done (value : α) : Run α := { result := .ok value }

def noting (record : LogRecord) (run : Run α) : Run α :=
  { run with records := record :: run.records }

def map (change : α → β) (run : Run α) : Run β :=
  ⟨run.records, run.findings, run.result.map change⟩

/-- Put what one run leaves in front of another. -/
def after (first : Run α) (second : Run β) : Run β :=
  ⟨first.records ++ second.records, first.findings ++ second.findings, second.result⟩

def andThen (first : Run α) (next : α → Run β) : Run β :=
  match first.result with
  | .error reason => ⟨first.records, first.findings, .error reason⟩
  | .ok value => first.after (next value)

def each (work : α → Run β) : List α → Run (List β)
  | [] => done []
  | item :: items =>
      (work item).andThen fun value => (each work items).map fun values => value :: values

end Run

end NodeForms
