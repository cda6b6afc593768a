import Folio.Text

/-!
# Parameters of the command line

A parameter has a name after two dashes and most have a letter after one dash.  Some
take a value; one that names a file takes no empty one.
-/

namespace Folio
namespace CommandLine

def programName : Text :=
  "syntaxdoc"

def versionNumber : Text :=
  "0.1.0"

def about : Text :=
  "Builds the GridWorld syntax page from Markdown"

inductive Parameter where
  | config
  | source
  | template
  | output
  | title
  | trace
  | debug
  | quiet
  | help
  | version
  deriving DecidableEq

namespace Parameter

def all : List Parameter :=
  [config, source, template, output, title, trace, debug, quiet, help, version]

def name : Parameter -> Text
  | config => "config"
  | source => "source"
  | template => "template"
  | output => "output"
  | title => "title"
  | trace => "trace"
  | debug => "debug"
  | quiet => "quiet"
  | help => "help"
  | version => "version"

def letter? : Parameter -> Option Char
  | config => some 'c'
  | source => some 's'
  | template => some 't'
  | output => some 'o'
  | debug => some 'g'
  | quiet => some 'q'
  | help => some 'h'
  | version => some 'V'
  | title => none
  | trace => none

def valueName? : Parameter -> Option Text
  | config => some "CONFIG_FILE"
  | source => some "FILE"
  | template => some "FILE"
  | output => some "FILE"
  | title => some "TEXT"
  | trace => none
  | debug => none
  | quiet => none
  | help => none
  | version => none

def takesValue (p : Parameter) : Bool :=
  p.valueName?.isSome

def allowsEmpty (p : Parameter) : Bool :=
  p = title

def purpose : Parameter -> Text
  | config => "Configuration file (.toml, .yml or .yaml)"
  | source => "Markdown source (defaults to ./syntax.md)"
  | template => "HTML template (defaults to ./syntax_template.html)"
  | output => "Output file (defaults to ./syntax.html)"
  | title => "Page title"
  | trace => "Show the full backtrace when an error occurs"
  | debug => "Enable verbose debugging"
  | quiet => "Silence output"
  | help => "Print help"
  | version => "Print version"

def ofName? (s : Text) : Option Parameter :=
  all.find? fun p => p.name = s

def ofLetter? (c : Char) : Option Parameter :=
  all.find? fun p => p.letter? = some c

def rival? : Parameter -> Option Parameter
  | debug => some quiet
  | quiet => some debug
  | _ => none

def option (p : Parameter) : Text :=
  "--" ++ p.name

def shown (p : Parameter) : Text :=
  match p.valueName? with
  | some value => p.option ++ " <" ++ value ++ ">"
  | none => p.option

/-!
# Help
-/

def entry (p : Parameter) : Text :=
  let short : Text :=
    match p.letter? with
    | some c => ['-', c, ',', ' ']
    | none => "    "
  "  " ++ short ++ p.shown

def entryWidth : Nat :=
  (all.map fun p => p.entry.length).foldl max 0

def helpLine (p : Parameter) : Text :=
  p.entry ++ List.replicate (entryWidth - p.entry.length) ' ' ++ "  " ++ p.purpose ++ ['\n']

end Parameter

/-!
# Usage
-/

/-- How the program is used, with the parameters that matter or, without any, in
general. -/
def usage (parameters : List Parameter) : Text :=
  let shown : Text :=
    match parameters with
    | [] => "[OPTIONS]"
    | parameters => Text.join " " (parameters.eraseDups.map Parameter.shown)
  "Usage: " ++ programName ++ " " ++ shown

def helpText : Text :=
  about ++ "\n\n" ++ usage [] ++ "\n\nOptions:\n" ++
    (Parameter.all.map Parameter.helpLine).flatten

def versionText : Text :=
  programName ++ " " ++ versionNumber ++ ['\n']

end CommandLine
end Folio
