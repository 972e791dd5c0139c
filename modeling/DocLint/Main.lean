import DocLint.CommandLine

/-!
# The program

Reads the arguments, looks into the files that the command may need, and writes what the command
answers. The exit status is 0 if all is well, 1 if a check found errors or the command failed, and 2
if the arguments make no command.
-/

namespace DocLint.Main

/-- What is found under a path. -/
inductive Found
  | absent
  | unreadable
  | text (content : String)

/-- The bytes of a file or stream as text. -/
def textOf (bytes : ByteArray) : Found :=
  match String.fromUTF8? bytes with
  | some s => .text s
  | none => .unreadable

/-- Looks for a text under a path. -/
def look (path : String) : IO Found := do
  try
    return textOf (← IO.FS.readBinFile path)
  catch
    | .noFileOrDirectory .. => return .absent
    | _ => return .unreadable

/-- The text that was found, if any. -/
def Found.text? : Found → Option String
  | text s => some s
  | _ => none

/-- The path of the user's configuration file, whether or not there is one. -/
def userConfigPath : IO (Option String) := do
  let home := (← IO.getEnv "HOME").map (· ++ "/.config/" ++ userConfigFile)
  match ← IO.getEnv "XDG_CONFIG_HOME" with
  | some dir => return if dir.startsWith "/" then some (dir ++ "/" ++ userConfigFile) else home
  | none => return home

/-- The user's configuration file, if there is one, with what was found in it. -/
def userConfig : IO (List (String × Found)) := do
  match ← userConfigPath with
  | none => return []
  | some path =>
    match ← look path with
    | .absent => return []
    | found => return [(path, found)]

/-- What `check` finds in its surroundings. -/
def surroundings (o : CheckOptions) : IO Surroundings := do
  let user ← userConfig
  let fromInput := Command.isStandardInput o.input
  let paths := o.config.toList ++ (if fromInput then [] else [o.input])
  let named ← paths.mapM fun p => return (p, ← look p)
  let input ← if fromInput then textOf <$> (← IO.getStdin).readBinToEnd else pure .absent
  return {
    read := fun path => ((named ++ user).lookup path).bind Found.text?
    standardInput := input.text?
    userConfig := user.head?.map Prod.fst }

/-- Runs a command and tells the exit status. -/
def runCommand (c : Command) : IO UInt32 := do
  let s ← match c with
    | .check o => surroundings o
    | .keys _ => pure ⟨fun _ => none, none, none⟩
  match c.run s with
  | .ok output =>
    (← IO.getStdout).putStr output.text
    return if output.clean then 0 else 1
  | .error failure =>
    (← IO.getStderr).putStrLn ("Error: " ++ failure.message)
    return 1

/-- How the program is called. -/
def usage : String :=
  "usage: [-v] check INPUT [-c CONFIG] [-f text|json] [--strict]\n" ++
    "       [-v] keys [--category CATEGORY]"

end DocLint.Main

def main (args : List String) : IO UInt32 := do
  match DocLint.Invocation.parse args with
  | .ok i => DocLint.Main.runCommand i.command
  | .error refusal =>
    match refusal with
    | .help => (← IO.getStdout).putStrLn DocLint.Main.usage
    | .misuse => (← IO.getStderr).putStrLn DocLint.Main.usage
    return refusal.exitCode.toUInt32
