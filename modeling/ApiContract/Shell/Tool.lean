/-
The tools that the shell finds: programs of their own, each by its name where
a directory that is searched has it, or by its path.
-/
import ApiContract.Shell.Tool.Cat
import ApiContract.Shell.Tool.Count
import ApiContract.Shell.Tool.Edit
import ApiContract.Shell.Tool.Exchange
import ApiContract.Shell.Tool.Slice

namespace ApiContract.Shell.Tool

/-- The tool of a name. -/
def ofName? (name : Stream) : Option Tool :=
  match String.ofList name with
  | "cat" => some cat
  | "head" => some head
  | "tail" => some tail
  | "wc" => some wc
  | "tr" => some tr
  | "sed" => some edit
  | _ => none

/-- The directories that have the tools. -/
def directories : List Stream := ["/usr/bin".toList, "/bin".toList]

/-- The parts of a text between colons. -/
def betweenColons : Stream → List Stream
  | [] => [[]]
  | c :: cs =>
    if c = ':' then [] :: betweenColons cs
    else
      match betweenColons cs with
      | s :: ss => (c :: s) :: ss
      | [] => [[c]]

/-- What a name is found as. -/
inductive Found where
  | tool (path : Stream) (t : Tool)
  | denied
  | nowhere

/-- Looks for a tool in the directories that are searched. -/
def search (path name : Stream) : Found :=
  let places := (betweenColons path).filter directories.contains
  match places, ofName? name with
  | place :: _, some t => .tool (place ++ '/' :: name) t
  | _ :: _, none =>
    if name.isEmpty || name = ['.', '.'] then .denied else .nowhere
  | [], _ => .nowhere

/-- What a path leads to. Files that were written cannot be run. -/
def atPath (path : Stream) : Action Found := do
  let name := (path.reverse.takeWhile (· ≠ '/')).reverse
  let directory := path.take (path.length - name.length - 1)
  match directories.contains directory, ofName? name with
  | true, some t => return .tool path t
  | _, _ => return if ← Action.isThere path then .denied else .nowhere

/-- Looks for a tool by its name or its path. -/
def find (name : Stream) : Action Found := do
  if name.contains '/' then atPath name
  else return search ((← Action.valueOf? "PATH".toList).getD []) name

end ApiContract.Shell.Tool
