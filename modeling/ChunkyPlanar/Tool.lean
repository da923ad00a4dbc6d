import ChunkyPlanar.Tool.Plan

/-! Whole runs of the tool, from the arguments to the journal and the exit status. -/

namespace ChunkyPlanar.Tool

open CommandLine

variable {m : Type → Type} [Monad m]

inductive ExitStatus where
  | success
  | failure
  | misuse
  deriving DecidableEq, Repr

def ExitStatus.code : ExitStatus → UInt8
  | .success => 0
  | .failure => 1
  | .misuse => 2

structure Conclusion where
  journal : List Entry
  status : ExitStatus
  deriving DecidableEq, Repr

/-- An error is reported with its causes, after everything else. -/
def Conclusion.ofResult (result : Logged ToolError Unit) : Conclusion :=
  match result.outcome with
  | .ok () => ⟨result.journal, .success⟩
  | .error error => ⟨result.journal ++ error.report, .failure⟩

def carryOut (readers : Readers) (contents : Contents) (performer : Performer m)
    (command : Command) : m (Logged ToolError Unit) := do
  let planned := command.plan readers contents
  match planned.outcome with
  | .error error => return ⟨planned.journal, .error error⟩
  | .ok deeds =>
      let result ← Deed.performAll performer deeds
      return { result with journal := planned.journal ++ result.journal }

section Line

variable {ω : Type} (parse : List ω → Except Dismissal Invocation)

/-- The files that a run reads. -/
def inputs (line : List ω) : List FilePath :=
  match parse line with
  | .ok invocation => invocation.command.inputs
  | .error _ => []

def run (readers : Readers) (contents : Contents) (performer : Performer m)
    (line : List ω) : m Conclusion := do
  match parse line with
  | .ok invocation =>
      return .ofResult (← carryOut readers contents performer invocation.command)
  | .error (.answer text) =>
      let _ ← performer.print text
      return ⟨[], .success⟩
  | .error .refusal => return ⟨[], .misuse⟩

end Line

end ChunkyPlanar.Tool
