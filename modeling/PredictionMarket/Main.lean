import PredictionMarket.Demo.CommandLine

/-!
# The program

Runs the demonstration that the command line asks for, under the shipped configuration or one that
is read from a document.
-/

namespace PredictionMarket

/-- A text as a string, to be written out. A surrogate is shown as a question mark. -/
def Text.toString (t : Text) : String :=
  String.ofList (t.map fun c => if c.isSurrogate then '?' else Char.ofNat c.val)

/-- What is found at the path that the options name. -/
def lookUp (cl : Demo.CommandLine) : IO (Text → Demo.Found) := do
  match cl with
  | .run { config := some (.text path), .. } =>
    try
      let document ← IO.FS.readFile path.toString
      return fun _ => .document (Text.ofString document)
    catch _ => return fun _ => .nothing
  | _ => return fun _ => .nothing

/-- Writes out what the program answers. -/
def writeOut (cl : Demo.CommandLine) (printed : Demo.Printed) : IO UInt32 := do
  IO.print printed.output.toString
  if let .misuse := cl then IO.eprint Demo.synopsis.toString
  return printed.code.toUInt32

end PredictionMarket

open PredictionMarket in
/-- Runs the demonstration. -/
def main (arguments : List String) : IO UInt32 := do
  let cl := Demo.CommandLine.read (arguments.map Text.ofString)
  match cl.respond (← lookUp cl) with
  | .ok printed => writeOut cl printed
  | .error e =>
    IO.eprintln ((e.message.getD "the demonstration failed").toString)
    return 1
