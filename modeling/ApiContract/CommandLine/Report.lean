/-
How a failed task is reported: one line on what failed, then its causes, each
resting on the next. A single cause is only indented, several are numbered.
-/

namespace ApiContract.CommandLine

/-- A failed task: what failed, and why. -/
structure Report where
  context : String
  causes : List String
  deriving DecidableEq, Repr

namespace Report

/-- A text with each line but the first behind a margin. -/
def hang (margin : String) (s : String) : String :=
  String.ofList (s.toList.flatMap fun c =>
    if c = '\n' then c :: margin.toList else [c])

/-- A text at the right of so many columns. -/
def padLeft (width : Nat) (s : String) : String :=
  String.ofList (List.replicate (width - s.length) ' ') ++ s

/-- Causes with their numbers from one on. -/
def numbered (first : Nat) : List String → List String
  | [] => []
  | cause :: causes =>
    (padLeft 5 (toString first) ++ ": " ++ hang "       " cause)
      :: numbered (first + 1) causes

/-- The lines on the causes. -/
def causeLines : List String → List String
  | [] => []
  | [cause] => ["", "Caused by:", "    " ++ hang "    " cause]
  | causes => ["", "Caused by:"] ++ numbered 0 causes

/-- The report as it is printed. -/
def text (r : Report) : String :=
  String.join ((("Error: " ++ r.context) :: causeLines r.causes).map
    (· ++ "\n"))

end Report

end ApiContract.CommandLine
