namespace ProfileDrift

/-- What was measured and how. Two profiles may be compared only if all of this
is equal, the order of postprocessors included. -/
structure Configuration where
  collector : String
  command : String
  arguments : String
  workload : String
  postprocessors : List String
  deriving DecidableEq, Repr

namespace Configuration

/-- The command line as it was run; empty parts leave no blank behind. -/
def commandLine (configuration : Configuration) : String :=
  " ".intercalate
    ([configuration.command, configuration.arguments, configuration.workload].filter
      (fun part => !part.isEmpty))

/-- The collector, each postprocessor after a plus sign, and the command line. -/
def display (configuration : Configuration) : String :=
  configuration.collector ++
    String.join (configuration.postprocessors.map ("+" ++ ·)) ++
    " for cmd: '$ " ++ configuration.commandLine ++ "'"

end Configuration

end ProfileDrift
