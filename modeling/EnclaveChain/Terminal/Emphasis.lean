import EnclaveChain.Terminal.Control
import EnclaveChain.Terminal.Style

/-!
# Emphasis in messages

A message is written once, with the codes of its emphasis in it. Where colours are wanted it is
sent as it is; elsewhere everything that steers a terminal is taken out, the codes of the message
as well as those in the names and values that it quotes.
-/
namespace EnclaveChain.Terminal

/-- What a part of a message stands out as. -/
inductive Emphasis where
  /-- The word that announces an error. -/
  | alarm
  /-- What is wrong. -/
  | invalid
  /-- What can be written as it stands. -/
  | literal
deriving DecidableEq, Repr

namespace Emphasis

/-- The codes that begin an emphasis. -/
def opening : Emphasis → String
  | alarm => "\x1b[1m\x1b[31m"
  | invalid => "\x1b[33m"
  | literal => "\x1b[1m"

/-- A part with its emphasis. -/
def mark (emphasis : Emphasis) (text : String) : String := emphasis.opening ++ text ++ Span.reset

/-- A part with its emphasis, between quotation marks. -/
def quote (emphasis : Emphasis) (text : String) : String := "'" ++ emphasis.mark text ++ "'"

end Emphasis

/-- A message as it is sent. -/
def renderMessage (colours : Bool) (message : String) : String :=
  if colours then message else Control.strip message

end EnclaveChain.Terminal
