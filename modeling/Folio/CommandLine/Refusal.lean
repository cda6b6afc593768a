import Folio.CommandLine.Parameter

/-!
# Refused arguments

Arguments are refused when they make no sense, and set aside when they ask for help
or for the version instead of a run.
-/

namespace Folio
namespace CommandLine

/-- Why there is no run.  The lists are of the parameters that the usage shows. -/
inductive Refusal where
  | helpWanted
  | versionWanted
  | unknownArgument (written : Text) (tip : Option Parameter) (used : List Parameter)
  | conflict (former latter : Parameter) (used : List Parameter)
  | repeated (p : Parameter)
  | missingValue (p : Parameter)
  | unwantedValue (value : Text) (p : Parameter) (used : List Parameter)
  deriving DecidableEq

namespace Refusal

def quoted (s : Text) : Text :=
  '\'' :: s ++ ['\'']

def closing : Text :=
  "For more information, try '--help'.\n"

def layout (reason : Text) (paragraphs : List Text) : Text :=
  Text.join "\n\n" (("error: " ++ reason) :: paragraphs ++ [closing])

def tipText (p : Parameter) : Text :=
  "  tip: a similar argument exists: " ++ quoted p.option

def message : Refusal -> Text
  | helpWanted => helpText
  | versionWanted => versionText
  | unknownArgument written tip used =>
      layout ("unexpected argument " ++ quoted written ++ " found")
        ((tip.map tipText).toList ++ [usage used])
  | conflict former latter used =>
      layout
        ("the argument " ++ quoted former.shown ++ " cannot be used with " ++
          quoted latter.shown)
        [usage used]
  | repeated p =>
      layout ("the argument " ++ quoted p.shown ++ " cannot be used multiple times")
        [usage []]
  | missingValue p =>
      layout ("a value is required for " ++ quoted p.shown ++ " but none was supplied") []
  | unwantedValue value p used =>
      layout
        ("unexpected value " ++ quoted value ++ " for " ++ quoted p.shown ++
          " found; no more were expected")
        [usage used]

def isWanted : Refusal -> Bool
  | helpWanted => true
  | versionWanted => true
  | _ => false

end Refusal
end CommandLine
end Folio
