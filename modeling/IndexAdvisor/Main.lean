import IndexAdvisor.Command.Analyse
import Std.Time

/-! # The program

Runs the analysis command. What it reads is read beforehand, and what it leaves is written
afterwards; no driver for a database is linked, so every connection is refused.
-/

namespace IndexAdvisor.Command

/-- The variables of the environment that settings may come from. -/
def settingVariables : List String :=
  ["DB_HOST", "DB_PORT", "DB_NAME", "DB_USER", "DB_PASSWORD", "DB_URL", "DB_SCHEMA", "ENVIRONMENT",
    "CLOUDWATCH_NAMESPACE", "AWS_REGION"]

def readEnvironment : IO Environment :=
  settingVariables.filterMapM fun name => return (← IO.getEnv name).map (name, ·)

def readNow : IO DateTime := do
  let now ← Std.Time.PlainDateTime.now
  let date : Date := ⟨now.year.toInt.toNat, now.month.toInt.toNat, now.day.toInt.toNat⟩
  return ⟨date, ⟨now.hour.toInt.toNat, now.minute.toInt.toNat, now.second.toInt.toNat,
    now.nanosecond.toInt.toNat / 1000, none⟩⟩

/-- The files at paths, by their places; paths to anything else are passed over. -/
def readFiles (paths : List String) : IO (Entries String) :=
  paths.filterMapM fun text => do
    let path := Path.ofText text
    match path.place? with
    | none => return none
    | some place =>
      try return some (Folder.placeText place, ← IO.FS.readFile path.text)
      catch _ => return none

/-- Writes the files that are new or changed, with the folders they are in. -/
def writeFiles (before after : Entries String) : IO Unit :=
  for (name, content) in after do
    if before.find? name ≠ some content then
      IO.FS.createDirAll (Path.ofText name).parent.text
      IO.FS.writeFile name content

/-- Refuses every connection. -/
def refuseConnection (_ : ConnectionConfig) : Except Fault Database :=
  .error ⟨.connection, "Failed to connect to database: no driver is linked"⟩

end IndexAdvisor.Command

open IndexAdvisor IndexAdvisor.Command

def main (words : List String) : IO UInt32 := do
  let surroundings : Surroundings := ⟨← readEnvironment, refuseConnection, ← readNow, 0.0⟩
  let options := (readArguments Analyse.flags words).toOption.map Analyse.Options.ofGiven
  let files ← readFiles ((options.map (·.paths)).getD [])
  let (ending, terminal) := Analyse.run "analyse" surroundings words (Folder.ofFiles files)
  IO.print terminal.printed
  writeFiles files terminal.folder.files
  match ending with
  | .exit code => return code.toUInt32
  | .crash crash =>
    IO.eprintln crash.message
    return 1
