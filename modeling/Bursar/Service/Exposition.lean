import Bursar.Service.Counters

/-!
# Publishing the counters

The counters as text for a monitor that asks for them from time to time: what
kind of number follows, then one line for each series of a name.
-/

namespace Bursar

/-- A label's value between quotes. -/
def labelValueText (value : String) : String :=
  String.ofList (value.toList.flatMap fun c =>
    if c = '\\' then ['\\', '\\']
    else if c = '"' then ['\\', '"']
    else if c = '\n' then ['\\', 'n']
    else [c])

/-- The labels of a series in braces. -/
def labelsText (labels : List (String × String)) : String :=
  "\x7b" ++
    ",".intercalate (labels.map fun (label, value) => label ++ "=\"" ++ labelValueText value ++ "\"") ++
    "\x7d"

namespace Counters

/-- The names that are counted under, each once. -/
def names (c : Counters) : List String := (c.entries.map fun (s, _) => s.name).eraseDups

/-- The series of a name. -/
def familyText (c : Counters) (name : String) : String :=
  let lines := (c.entries.filter fun (s, _) => s.name = name).map fun (s, n) =>
    name ++ labelsText s.labels ++ " " ++ Text.ofNat n ++ "\n"
  "# TYPE " ++ name ++ " counter\n" ++ String.join lines ++ "\n"

/-- Everything that was counted. -/
def exposition (c : Counters) : String := String.join (c.names.map c.familyText)

end Counters
end Bursar
