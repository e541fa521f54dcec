import FluentBuilder.Class.Error
import FluentBuilder.Files.Tree
import FluentBuilder.Library.Basic
import FluentBuilder.Text.Encode

/-!
How a run ends, and what it prints. A text is printed as a whole, or it is refused and the run ends
there.
-/

namespace FluentBuilder

/-- A failure that is not reported but ends the run. -/
inductive Crash
  | fault (fault : Fault)
  | raised (error : ForeignError)
  | path (fault : PathFault)
  | noPath

def Crash.message : Crash → String
  | .fault f => f.message
  | .raised e => e.message
  | .path f => f.message
  | .noPath => "expected str, bytes or os.PathLike object, not list"

inductive Exit
  | code (n : Nat)
  | crash (crash : Crash)

/-- Where texts are printed: it takes a text, or refuses it with an error. -/
structure Printer where
  refusal? : String → Option ForeignError

namespace Printer

def memory : Printer where
  refusal? _ := none

def utf8 : Printer where
  refusal? text := (Text.encodeFault? (fun _ => false) text.toList).map fun fault =>
    { kind := "UnicodeEncodeError", message := fault.message }

/-- Prints texts one after another; the run ends as it would, or at the first text that is
refused. -/
def print (printer : Printer) (ending : Exit) : List String → Exit × String
  | [] => (ending, "")
  | text :: rest =>
    match printer.refusal? text with
    | some error => (.crash (.raised error), "")
    | none =>
      let (exit, printed) := printer.print ending rest
      (exit, text ++ printed)

end Printer

end FluentBuilder
