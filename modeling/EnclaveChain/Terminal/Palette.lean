/-!
# When colours are used

Three variables of the environment decide about colours, and where they leave it open, colours are
for terminals. The output and the messages about a misused command line read the variables in ways
of their own: the output asks first whether colours are forced, the messages whether they are
refused, and only the output takes an empty value for a statement.
-/
namespace EnclaveChain.Terminal

/-- What the environment says about colours. -/
structure Palette where
  /-- `NO_COLOR`: colours are refused. -/
  refused? : Option String
  /-- `CLICOLOR_FORCE`: colours are forced. -/
  forced? : Option String
  /-- `CLICOLOR`: colours are allowed, unless it is `0`. -/
  allowed? : Option String
deriving DecidableEq, Repr

namespace Palette

/-- Whether the output is coloured. -/
def inOutput (palette : Palette) (terminal : Bool) : Bool :=
  if palette.forced?.any (· ≠ "0") then true
  else palette.refused? = none && palette.allowed? ≠ some "0" && terminal

/-- Whether messages about a misused command line are coloured. -/
def inMessages (palette : Palette) (terminal : Bool) : Bool :=
  if palette.refused?.any (· ≠ "") then false
  else if palette.forced?.any (· ≠ "") then true
  else palette.allowed? ≠ some "0" && terminal

end Palette

end EnclaveChain.Terminal
