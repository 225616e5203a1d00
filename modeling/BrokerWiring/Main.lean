import BrokerWiring.CommandLine.Program
import BrokerWiring.Source.Variables

/-!
# The command line

The outer layer of the program: it looks up what a run needs to know, calls
`BrokerWiring.CommandLine.run` and prints the report. It opens no sockets, so to a check a broker
is one that never answers.
-/

namespace BrokerWiring.CommandLine

/-- What stands at a place of the disk; nothing if there is no telling. -/
def nodeAt? (place : List String) : IO (Option FileNode) := do
  try
    return some (.file (← IO.FS.readBinFile ("/" ++ "/".intercalate place)).toList)
  catch
    | .inappropriateType _ 21 _ => return some .folder
    | .permissionDenied .. => return some (.unreadable "Permission denied (os error 13)")
    | _ => return none

/-- The nodes at those places where something stands. -/
def nodesAt (places : List (List String)) : IO (List (List String × FileNode)) :=
  places.eraseDups.filterMapM fun place => do
    return (← nodeAt? place).map fun node => (place, node)

/-- The world in which the program runs. Which stores a run opens is known only once its properties
are, so these are looked up last. -/
def lookAround (arguments : List String) : IO Source.World := do
  let environment := Source.environmentOf (← IO.FS.readBinFile "/proc/self/environ").toList
  let current := (Files.steps (← IO.currentDir).toString).filter (· ≠ "")
  let home := environment.lookup "HOME"
  let nodes ← nodesAt (Source.places home current)
  let world : Source.World := ⟨⟨nodes, current⟩, home, environment⟩
  let stores ← nodesAt ((storePaths world arguments).flatMap (Files.placesOf current))
  return { world with files := ⟨nodes ++ stores, current⟩ }

end BrokerWiring.CommandLine

open BrokerWiring CommandLine in
/-- Runs the program and ends with the status of its report. -/
def main (arguments : List String) : IO UInt32 := do
  let world ← lookAround arguments
  let report := run ⟨world, .standard, fun _ => .timedOut⟩ arguments
  for line in report.output do
    IO.println line
  for line in report.errors do
    IO.eprintln line
  return report.status.toUInt32
