import CloudBalance.Files.Path
import CloudBalance.Local
import CloudBalance.Settings.Document

/-!
# Finding the settings

The file of the settings is the one that a variable of the environment points to, or else the first
one that exists in the working directory, in the directory `.nimbus` there, or in the user's own
configuration.
-/

namespace CloudBalance.Settings

/-- The variable that points to the file. -/
def pathVariable : String := "NIMBUS_CONFIG_PATH"

/-- The names of the file in a project, in the order in which they are tried. -/
def fileNames : List String :=
  ["nimbus.local.kdl", ".nimbus.local.kdl", "nimbus.kdl", ".nimbus.kdl"]

/-- The directory of the user's configuration. -/
def userDirectory? : Program Local (Option String) := do
  match (← Local.environment "XDG_CONFIG_HOME").filter Path.isAbsolute with
  | some path => return some path
  | none =>
    return ((← Local.environment "HOME").filter (!·.isEmpty)).map (Path.join · ".config")

/-- The first of the paths at which there is something. -/
def firstExisting? : List String → Program Local (Option String)
  | [] => return none
  | path :: rest => do
    if ← Local.exists? path then return some path else firstExisting? rest

/-- The path that the variable gives, if there is something. -/
def givenFile? : Program Local (Option String) := do
  match ← Local.environment pathVariable with
  | none => return none
  | some path =>
    if ← Local.exists? path then return some path
    Local.note .warn .settingsSearch (pathVariable ++ " points to a missing file: " ++ path)
    return none

/-- The file in the project's own directory. -/
def projectFile? (directory : String) : Program Local (Option String) := do
  let hidden := Path.join directory ".nimbus"
  if ← Local.isDirectory hidden then firstExisting? (fileNames.map (Path.join hidden))
  else return none

/-- The file in the user's configuration. -/
def userFile? : Program Local (Option String) := do
  match ← userDirectory? with
  | some directory => firstExisting? [Path.join (Path.join directory "nimbus") "nimbus.kdl"]
  | none => return none

/-- The path of the file of the settings. -/
def findFile : Attempt Local SettingsError String := do
  if let some path ← givenFile? then return path
  let directory ← Local.workingDirectory.attempt .files
  if let some path ← firstExisting? (fileNames.map (Path.join directory)) then return path
  if let some path ← projectFile? directory then return path
  if let some path ← userFile? then return path
  throw .fileNotFound

/-- Reads the file of the settings at a path. -/
def ofFile (path : String) : Attempt Local SettingsError Settings := do
  let text ← (Local.readText path).attempt (.unreadable path)
  Local.note .debug .settings ("Loading config from " ++ path)
  ofText text

/-- Finds and reads the settings. -/
def load : Attempt Local SettingsError (String × Settings) := do
  let path ← findFile
  return (path, ← ofFile path)

/-- The directory of the user's own settings, which is made if it is missing. -/
def directory : Attempt Local SettingsError String := do
  let some parent ← userDirectory? | throw .directoryNotFound
  let path := Path.join parent "nimbus"
  if !(← Local.exists? path) then
    (Local.makeDirectories path).attempt .files
  return path

end CloudBalance.Settings
