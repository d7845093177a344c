import EnclaveChain.CommandLine.Invocation
import EnclaveChain.Error
import EnclaveChain.Terminal.Emphasis

/-!
# Reports of failures

A run that fails says what it could not do and then the causes, from the nearest to the deepest.
One cause stands by itself, several are numbered, and further lines of a cause are indented like
its first.
-/
namespace EnclaveChain.CommandLine

open Terminal

/-- Why a run failed. -/
inductive Failure where
  /-- The configuration could not be loaded. -/
  | config (name : String) (error : Error)
  /-- The registry could not be loaded. -/
  | registry (error : Error)
  /-- A value is not what it should be. -/
  | value (reason : String)
  /-- The node could not be reached. -/
  | connect (url : String) (error : Error)
  /-- The command itself failed. -/
  | command (error : Error)
deriving DecidableEq, Repr

namespace Failure

/-- What could not be done. -/
def summary : Failure → String
  | config name _ => "Failed to load configuration " ++ name
  | registry _ => "Failed to load metadata registry"
  | value reason => reason
  | connect url error => "Failed to connect to " ++ url ++ ": " ++ error.message
  | command error => error.message

/-- The causes, the nearest first. -/
def causes : Failure → List String
  | config _ error | registry error => error.message :: error.causes
  | command error => error.causes
  | value _ | connect _ _ => []

/-- A text whose first line follows a mark and whose other lines are indented. -/
def indented (mark indent text : String) : String :=
  mark ++ String.intercalate ("\n" ++ indent) (text.splitOn "\n")

/-- Numbered causes, each on a line of its own. -/
def numbered (number : Nat) : List String → String
  | [] => ""
  | cause :: causes =>
    let digits := toString number
    let mark := "".pushn ' ' (5 - digits.length) ++ digits ++ ": "
    "\n" ++ indented mark "       " cause ++ numbered (number + 1) causes

/-- A summary and its causes. -/
def layOut (summary : String) (causes : List String) : String :=
  "Error: " ++ summary ++
    (match causes with
      | [] => ""
      | [cause] => "\n\nCaused by:\n" ++ indented "    " "    " cause
      | _ => "\n\nCaused by:" ++ numbered 0 causes) ++
    "\n"

/-- The text of a failure. -/
def text (failure : Failure) : String := layOut failure.summary failure.causes

end Failure

/-- What the program is for. -/
def purpose : String := "Wetee CLI - Confidential computing parachain"

/-- How the program is used. -/
def usage : String :=
  purpose ++ "\n\nUsage: wetee [OPTIONS] <COMMAND>\n\nCommands:\n" ++
    "  pallets       List pallets, calls and storage items of the metadata registry\n" ++
    "  key           Derive a storage key without connecting to a node\n" ++
    "  get           Fetch the raw value of a storage item\n" ++
    "  parachain-id  Show the parachain id\n" ++
    "  authorities   Show the Aura block authorities\n"

/-- The name and version of the program. -/
def version : String := "wetee 0.1.0\n"

/-- What is wrong with a command line, in a sentence; nothing is said of one that is empty. -/
def Misuse.fault : Misuse → String
  | nothing => ""
  | missingSubcommand =>
    Emphasis.invalid.quote "wetee" ++ " requires a subcommand but one was not provided"
  | unknownSubcommand name => "unrecognized subcommand " ++ Emphasis.invalid.quote name
  | unexpected argument => "unexpected argument " ++ Emphasis.invalid.quote argument ++ " found"
  | missingValue option =>
    "a value is required for " ++ Emphasis.invalid.quote option ++ " but none was supplied"
  | repeated option =>
    "the argument " ++ Emphasis.invalid.quote option ++ " cannot be used multiple times"
  | invalidValue option value reason =>
    "invalid value " ++ Emphasis.invalid.quote value ++ " for " ++ Emphasis.literal.quote option ++
      ": " ++ reason
  | needlessValue option value =>
    "unexpected value " ++ Emphasis.invalid.quote value ++ " for " ++
      Emphasis.literal.quote option ++ " found; no more were expected"
  | missingWords => "the following required arguments were not provided:"

/-- The text of a misuse: how the program is used, if nothing was asked of it, and else the fault
and where to learn more. -/
def Misuse.message (misuse : Misuse) : String :=
  if misuse = .nothing then usage
  else
    Emphasis.alarm.mark "error:" ++ " " ++ misuse.fault ++ "\n\nFor more information, try " ++
      Emphasis.literal.quote "--help" ++ ".\n"

end EnclaveChain.CommandLine
