import Devirt.Sandbox.Exchange
import Devirt.Realm.Outcome

/-
  The worker program: it reads one job from standard input, runs it in a fresh realm and
  writes the outcome to standard output.

  Key definitions include:
    * `main`
-/

namespace Devirt

namespace Worker

def usage : String :=
  "Usage: js-vmp-sandbox < request.json > outcome.json"

/-
  What the program writes to its two outputs, and the code it ends with.
-/
structure Ending where
  output : String := ""
  complaint : String := ""
  code : UInt32 := 0
  deriving DecidableEq, Repr

def asksForHelp (arguments : List String) : Bool :=
  arguments.any fun a => a == "--help" || a == "-h"

def Ending.ofService : Service → Ending
  | .answered reply => { output := reply }
  | .refused => { complaint := "decoding sandbox request\n", code := 1 }
  | .silent => { complaint := "no answer\n", code := 1 }

end Worker

end Devirt

open Devirt in
def main (arguments : List String) : IO UInt32 := do
  let ending : Worker.Ending ←
    if Worker.asksForHelp arguments then
      pure { output := Worker.usage ++ "\n" }
    else
      pure (.ofService (serve Realm.run (← (← IO.getStdin).readToEnd)))
  IO.print ending.output
  IO.eprint ending.complaint
  pure ending.code
