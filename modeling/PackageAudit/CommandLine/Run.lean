import PackageAudit.CommandLine.Command
import PackageAudit.CommandLine.Views
import PackageAudit.Project.Discovery
import PackageAudit.Project.Manifest
import PackageAudit.Project.Settings
import PackageAudit.Results.Document

namespace PackageAudit.CommandLine

open Json (Value)
open Project
open Session

def version : String := "0.1.0"

structure Timing where
  moment : Results.Moment
  milliseconds : Int

def resolve (p : Path) : Session Path := do
  return (Path.join ⟨[Path.slash], (← tree).current⟩ p).straighten

def failWith {α : Type} (message : Text) : Session α := fail ("[red]Error:[/] " ++ message)

def settled {α : Type} : Except Settings.Error α → Session α
  | .ok a => return a
  | .error (.broken b) => throw (.broken b)
  | .error e => failWith e.message

def dependencies (manifest : Path) : Session (Keyed Text) := do
  match Manifest.load (← tree) manifest with
  | .ok ds => return ds
  | .error (.broken b) => throw (.broken b)
  | .error e => failWith e.message

def projectSources (project : Path) (settings : Value) (includeIgnored : Bool) :
    Session (List Source) := do
  let includes ← settled (Settings.includes settings)
  let excludes ← settled (Settings.excludes settings)
  let t ← tree
  let files ← attempt (Project.findSources t project includes excludes includeIgnored)
  return Project.loadSources t project files

def makeDirectory (project : Path) : Session Unit :=
  change (·.addDirectory (Project.directory project))

def writeText (path : Path) (t : Text) : Session Unit :=
  change (·.write path (Encoding.encode (t.filterMap CodePoint.char?)))

def runInit (project : Path) (force : Bool) : Session Unit := do
  let project ← resolve project
  let path := Project.configPath project
  if (← tree).has path && !force then
    print ("[yellow]Config already exists:[/] " ++ path.toText)
    fail "Use [bold]--force[/] to overwrite it."
  makeDirectory project
  writeText path (Settings.write Settings.default)
  print ("[green]Configuration saved to:[/] " ++ path.toText)

structure Plan where
  settings : Value
  dependencies : Keyed Text
  config : Risk.Config Float

def plan (project manifest : Path) (sources : Sources) : Session Plan := do
  let settings ← settled (Settings.choose (← tree) project sources.settings)
  let dependencies ← dependencies manifest
  return ⟨settings, dependencies, ← settled (Settings.risk settings)⟩

def runAnalyze (timing : Timing) (project : Path) (sources : Sources) (output : Option Path)
    (workers : Option Int) (verbose quick : Bool) : Session Unit := do
  let project ← resolve project
  let manifest := sources.manifest.getD (Project.manifestPath project)
  if output.isNone then makeDirectory project
  let output := output.getD (Project.resultsPath project)
  let p ← plan project manifest sources
  let (_, cap) ← settled (Settings.exampleCap p.settings)
  if workers.isNone then discard (settled (Settings.workers p.settings))
  let declared := p.dependencies.keys
  printLines (Display.Frame.fitting (← width) "depusage - Dependency Usage Analysis")
  print ("\n[dim]Scanning:[/] " ++ project.toText)
  print ("[dim]Manifest:[/] " ++ manifest.toText ++ " (" ++ Text.ofNat declared.length ++
    " dependencies)\n")
  let files ← projectSources project p.settings sources.includeIgnored
  print ("[dim]Found " ++ Text.ofNat files.length ++ " source files to analyze[/]\n")
  -- The screen shows the progress of the analysis when it is complete.
  let report ← Usage.analyzeShowing (fun _ ↦ pure ()) p.config cap declared files
  printLines ["Parsing source files... 100%"]
  if quick then printLines ["Running quick scan... 100%"]
  let results : Results :=
    { metadata := some ⟨project.name, timing.moment, version, report.filesAnalyzed,
        report.rejections.length, declared.length, timing.milliseconds⟩
      report := some report
      scan := if quick then some (Scan.scan declared files) else none }
  writeText output results.write
  print ("\n[green]Results saved to:[/] " ++ output.toText)
  printOverview .low results.document
  printSkipped report.document
  if verbose then printUsage .low exampleCount report.document

def runScan (project : Path) (sources : Sources) : Session Unit := do
  let project ← resolve project
  let p ← plan project (sources.manifest.getD (Project.manifestPath project)) sources
  let files ← projectSources project p.settings sources.includeIgnored
  printScan p.config (Scan.scan p.dependencies.keys files)

def readResults (path : Path) : Session Value := do
  let content ← attempt ((← tree).readText path)
  match Json.readDocument (Text.ofChars content) with
  | .ok v => return v
  | .error (.malformed ..) => throw (.broken .malformedDocument)
  | .error (.broken b) => throw (.broken b)

def runReview (results : Option Path) (verbose : Bool) (minRisk : Text) : Session Unit := do
  let path ← match results with
    | some p => pure p
    | none => pure (Project.resultsPath (← resolve (Path.ofText ".")))
  if !(← tree).has path then fail ("[red]Results file not found:[/] " ++ path.toText)
  match Risk.Level.ofName? minRisk with
  | none => fail ("[red]Unknown risk level:[/] " ++ minRisk)
  | some least =>
    let data ← readResults path
    printOverview least data
    if verbose then
      match data.member? "report" with
      | some report => printUsage least exampleCount report
      | none => return

def printHelp : Session Unit := printLines ["Usage: depusage [OPTIONS] COMMAND [ARGS]..."]

def runCommand (timing : Timing) : Command → Session Unit
  | .init project force => runInit project force
  | .analyze project sources output workers verbose quick =>
    runAnalyze timing project sources output workers verbose quick
  | .scan project sources => runScan project sources
  | .review results verbose minRisk => runReview results verbose minRisk
  | .help => printHelp

def misuse {α : Type} (e : UsageError) : Session α := throw (.misused e)

def accepted {α : Type} : Except UsageError α → Session α
  | .ok a => return a
  | .error e => misuse e

def logLevels : List String := ["debug", "info", "warning", "error", "critical"]

def runGlobals (a : Arguments) : Session Unit := do
  match a.given.find? fun s ↦ s.1 = "version" || s.1 = "help" with
  | some ("version", _) =>
    print ("depusage version " ++ Text.ofString version)
    throw .done
  | some _ =>
    printHelp
    throw .done
  | none => return

def checkLogLevel (a : Arguments) : Session Unit := do
  let level := (a.value? "log-level").getD "warning"
  if !((logLevels.map Text.ofString).contains (Text.lower level)) then
    fail ("[red]Unknown log level:[/] " ++ level)

/-- Runs the command that the arguments name. -/
def run (timing : Timing) (arguments : List Text) : Session Unit := do
  if arguments.isEmpty then misuse .noArguments
  let a ← accepted (Grammar.read ⟨Command.globals, true⟩ arguments)
  runGlobals a
  match a.operands with
  | [] => misuse .missingCommand
  | name :: rest =>
    match Command.switches? name with
    | none => misuse (.unknownCommand name)
    | some switches =>
      checkLogLevel a
      let own ← accepted (Grammar.read ⟨switches, false⟩ rest)
      runCommand timing (← accepted (Command.ofArguments name own))

end PackageAudit.CommandLine
