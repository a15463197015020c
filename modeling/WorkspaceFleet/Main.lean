import Std.Time.DateTime.Timestamp
import WorkspaceFleet.CommandLine
import WorkspaceFleet.Store.Text

/-!
# WorkspaceFleet.Main

The program. It finds out what the disk holds under the paths that a command speaks of, carries the command
out, puts on the disk what the command left there, and prints what it says.

There is no network: to the service every daemon is one that nobody can reach, and it ends after its first
round of checks.
-/

namespace WorkspaceFleet
namespace Terminal

/-! ## Finding out what is there -/

/-- What stands under a path, as far as it can be read. -/
def look (path : String) : IO (Option FileEntry) := do
  try
    return some (.file (← IO.FS.readBinFile path).toList)
  catch
    | .inappropriateType _ 21 _ => return some .directory
    | _ => return none

def pathText (steps : List String) : String :=
  if steps = [""] then "/" else String.intercalate "/" steps

/-- The files, with everything that stands on the way to a path and at its end. -/
def observe (files : Files) (path : String) : IO Files := do
  let steps := Files.steps path
  (List.range steps.length).foldlM (fun files n => do
    let path := pathText (steps.take (n + 1))
    match ← look path with
    | some entry => return ⟨files.entries ++ [(Files.place path, entry)]⟩
    | none => return files) files

def observeCertificates (files : Files) (transports : List Transport) : IO Files :=
  (transports.filterMap Transport.files?).foldlM (fun files certificates =>
    [certificates.authorityPath, certificates.certificatePath, certificates.keyPath].foldlM
      observe files) files

def observeStore (disk : Disk) (dataDir : String) : IO Disk := do
  let path := joinPath dataDir Service.storeName
  let disk := { disk with files := ← observe disk.files path }
  match (disk.files.readText path).toOption.bind Store.ofText? with
  | some store => return disk.saveStore path store
  | none => return disk

def persistedTransports (disk : Disk) : List Transport :=
  disk.stores.flatMap (fun e => (e.2.listServers.toOption.getD []).map (·.transport))

def observeFor (command : Command) : IO Disk := do
  let withConfig (path : String) : IO (Option (FleetConfig Float) × Disk) := do
    let files ← observe .empty path
    match FleetConfig.load files path with
    | .ok c => return (some c, ⟨← observeCertificates files (c.servers.map (·.transport)), []⟩)
    | .error _ => return (none, ⟨files, []⟩)
  match command with
  | .help _ => return ⟨.empty, []⟩
  | .checkConfig path => return (← withConfig path).2
  | .status dataDir => observeStore ⟨.empty, []⟩ dataDir
  | .run path dataDir =>
    let (config, disk) ← withConfig path
    match config with
    | none => return disk
    | some c =>
      let dataDir := (dataDir.or c.dataDir).getD Service.defaultDataDir
      let disk ← observeStore disk dataDir
      return { disk with files := ← observeCertificates disk.files (persistedTransports disk) }

/-! ## Leaving something behind -/

/-- Makes the directories that were made, and writes the stores. -/
def leave (before after : Disk) : IO Unit := do
  for (place, entry) in after.files.entries do
    if entry = .directory ∧ before.files.entry? place = none then
      IO.FS.createDirAll (pathText place)
  for (place, store) in after.stores do
    IO.FS.writeFile (pathText place) store.text

def recordLine (r : LogRecord) : String :=
  r.level.word ++ " " ++ Json.compact Text.Real.text r.encode

def print (r : ProcessResult) : IO Unit := do
  match r.output with
  | .nothing => pure ()
  | .text s => IO.print s
  | .document d => IO.println (Json.pretty Text.Real.text 0 (Json.sortFields d))
  match r.error with
  | some e => IO.eprintln (String.intercalate "\n" e.lines)
  | none => if r.code = 0 then pure () else IO.eprint Command.overview

/-- The seconds since the beginning of 1970. -/
def seconds : IO Nat := do
  return (← Std.Time.Timestamp.now).toSecondsSinceUnixEpoch.val.toNat

def run (args : List String) : IO Nat := do
  let env ← IO.getEnv "DESKGRID_CONFIG"
  let before ← (Command.parse env args).elim (pure ⟨.empty, []⟩) observeFor
  let (result, session) := Command.process env args (← seconds) before
  leave before session.disk
  session.log.forM (fun r => IO.eprintln (recordLine r))
  print result
  return result.code

end Terminal
end WorkspaceFleet

def main (args : List String) : IO UInt32 := do
  return (← WorkspaceFleet.Terminal.run args).toUInt32
