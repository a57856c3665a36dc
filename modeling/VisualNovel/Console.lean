namespace VisualNovel

/-- The exit code, the text on standard output and the lines on standard error. -/
structure Outcome where
  code : UInt8
  output : String
  errors : List String
deriving DecidableEq, Repr

namespace Outcome

def success (output : String) (warnings : List String) : Outcome :=
  ⟨0, output, warnings⟩

def failure (output : String) (errors : List String) : Outcome :=
  ⟨1, output, errors⟩

end Outcome

/-- Lines of text, each with a line break behind it. -/
def unlines (lines : List String) : String :=
  String.join (lines.map (· ++ "\n"))

/-- Whether no arguments are given or the first one asks for help. -/
def asksForHelp : List String → Bool
  | [] => true
  | first :: _ => first == "--help" || first == "-h"

end VisualNovel
