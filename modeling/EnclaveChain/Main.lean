import EnclaveChain.CommandLine.Program
import EnclaveChain.Terminal.Palette

/-!
# The executable

Reads the files that a command line names and the environment, runs the program on them, and
prints what it came to. This build has no network of its own, so no node is within reach.
-/

section

open EnclaveChain CommandLine Terminal

/-- Reads a file as text. -/
def readFile (name : String) : IO (Except FileFault String) := do
  try
    let bytes ← IO.FS.readBinFile name
    return utf8Text bytes.toList
  catch
    | .inappropriateType _ code _ => return .error (if code = 21 then .directory else .notDirectory)
    | .invalidArgument _ code _ => return .error (if code = 22 then .badName else .nameTooLong)
    | .permissionDenied .. => return .error .denied
    | _ => return .error .notFound

/-- Reads files by their names. -/
def readFiles (names : List String) : IO Files := do
  let found ← names.mapM fun name => return (name, ← readFile name)
  return fun name => ((found.find? fun entry => entry.1 = name).map (·.2)).getD (.error .notFound)

/-- The names of the files that the arguments lead to, the configuration before the registry. -/
def namedFiles (url? : Option String) (arguments : List String) : IO (List String) := do
  match Invocation.ofArguments url? arguments with
  | .error _ => return []
  | .ok invocation =>
    let direct := invocation.settings.config?.toList ++ invocation.settings.registry?.toList
    let files ← readFiles direct
    let config := loadConfig ⟨files, url?, Network.offline⟩ invocation.settings
    return direct ++ (config.toOption.bind (·.registryFile)).toList

/-- What the environment says about colours. -/
def readPalette : IO Palette :=
  return ⟨← IO.getEnv "NO_COLOR", ← IO.getEnv "CLICOLOR_FORCE", ← IO.getEnv "CLICOLOR"⟩

/-- Runs the program. -/
def main (arguments : List String) : IO UInt32 := do
  let url? ← IO.getEnv "WETEE_WS_URL"
  let palette ← readPalette
  let files ← readFiles (← namedFiles url? arguments)
  let coloured := palette.inOutput (← (← IO.getStdout).isTty)
  let outcome := run ⟨files, url?, Network.offline⟩ coloured arguments
  IO.print outcome.output
  IO.eprint (outcome.ending.text (palette.inMessages (← (← IO.getStderr).isTty)))
  return outcome.ending.code

end
