import SignatureBridge.Command.Run

/-!
# What a run can reach

Before a run the program does not know which files the run will look at, since the settings decide
that. `Run.reach` settles the settings on a host that knows the environment file alone, and lists
the paths that a run with these settings can look at or change.
-/

namespace SignatureBridge

/-- The locations that lead from a start to a path, the path's own among them, with two dots worked
off name by name. -/
def FilePath.locations (workingDirectory : Location) (p : FilePath) : List Location :=
  (List.range (p.names.length + 1)).map fun count ↦
    ({ p with names := p.names.take count } : FilePath).absolute workingDirectory |>.names

namespace Run

/-- The paths that a run with given settings can look at or change. -/
def reachOf (moment : Journal.Moment) (t : Tuning) (later : Environment) (c : Config) :
    List FilePath :=
  let output (directory : FilePath) : List FilePath :=
    [directory, (Tuning.ofEnvironment later).outputFile c.signatureFile directory]
  let log (directory : FilePath) : List FilePath :=
    let options : Host.LogOptions := { directory, verbose := c.verbose, name := t.logName, moment }
    [directory, options.logFile]
  c.signatureFile :: c.outputDir.path?.toList.flatMap output ++ c.logDir.path?.toList.flatMap log

/-- The paths that a run can look at or change. -/
def reach (words : List Text) (host : Host) : List FilePath :=
  match Arguments.read words with
  | .error _ => []
  | .ok arguments =>
    match host.loadConfigWith arguments.overrides with
    | (.ok c, after) =>
      reachOf host.clock (Tuning.ofEnvironment host.environment) after.environment c
    | (.error _, _) => []

end Run

end SignatureBridge
