import Bursar.Console.Arguments

/-!
# Help

What is printed when help or the version is asked for: the commands, and the
options that stand before them.
-/

namespace Bursar.Console

/-- The name of the program. -/
def programName : String := "subsidy"

/-- The spellings of an option. -/
def optionText (o : CommandOption) : String :=
  (match o.short with | some letter => "-" ++ String.ofList [letter] ++ ", " | none => "    ") ++ "--" ++
    o.long ++ (match o.kind with | .takesValue => " <VALUE>" | _ => "")

/-- A command with the commands below it. -/
def commandText (name : String) (g : Grammar) : String :=
  match g.commands with
  | [] => name
  | below => name ++ " <" ++ " | ".intercalate (below.map (·.1)) ++ ">"

/-- What is printed when help is asked for. -/
def helpText (g : Grammar) : String :=
  "\n".intercalate
    (["Usage: " ++ programName ++ " [OPTIONS] <COMMAND>", "", "Commands:"] ++
      g.commands.map (fun (name, below) => "  " ++ commandText name below) ++ ["", "Options:"] ++
      g.options.map fun o => "  " ++ optionText o)

/-- What is printed when the version is asked for. -/
def versionText : String := programName ++ " " ++ version

end Bursar.Console
