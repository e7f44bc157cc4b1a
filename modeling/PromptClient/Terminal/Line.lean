/-! # Terminal lines

What a run of the program leaves on the terminal, line by line, and the status with
which it ends.
-/

namespace PromptClient

/-- A line on the terminal. Its text may have line breaks of its own. -/
inductive Line
  /-- For whoever uses the output. -/
  | out (text : String)
  /-- For the one at the terminal. -/
  | err (text : String)
deriving DecidableEq, Repr

namespace Line

def outText? : Line → Option String
  | .out text => some text
  | .err _ => none

/-- The text of any other line. -/
def errText? : Line → Option String
  | .out _ => none
  | .err text => some text

def joined (texts : List String) : String :=
  String.join (texts.map (· ++ "\n"))

def output (lines : List Line) : String :=
  joined (lines.filterMap outText?)

def diagnostics (lines : List Line) : String :=
  joined (lines.filterMap errText?)

theorem joined_append (first second : List String) :
    joined (first ++ second) = joined first ++ joined second := by
  simp [joined]

theorem output_append (first second : List Line) :
    output (first ++ second) = output first ++ output second := by
  simp [output, joined_append]

theorem diagnostics_append (first second : List Line) :
    diagnostics (first ++ second) = diagnostics first ++ diagnostics second := by
  simp [diagnostics, joined_append]

end Line

/-- How a run ends. -/
inductive ExitStatus
  | success
  | failure
  /-- The arguments made no sense. -/
  | misuse
  | interrupted
deriving DecidableEq, Repr

def ExitStatus.code : ExitStatus → Nat
  | .success => 0
  | .failure => 1
  | .misuse => 2
  | .interrupted => 130

end PromptClient
