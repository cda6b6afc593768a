import Folio.Text

/-!
# Log

A run leaves records.  Each has a level, the part of the program it comes from and
a text.  A threshold decides which records are shown; it never decides which are
made.
-/

namespace Folio
namespace Log

inductive Level where
  | debug
  | info
  | error
  deriving DecidableEq

namespace Level

def name : Level -> Text
  | debug => "DEBUG"
  | info => "INFO"
  | error => "ERROR"

def weight : Level -> Nat
  | debug => 0
  | info => 1
  | error => 2

def threshold (debugging quiet : Bool) : Level :=
  if debugging then
    debug
  else if quiet then
    error
  else
    info

end Level

structure Record where
  level : Level
  origin : Text
  text : Text
  deriving DecidableEq

namespace Record

def isShown (threshold : Level) (record : Record) : Bool :=
  threshold.weight ≤ record.level.weight

def levelWidth : Nat :=
  5

def line (record : Record) : Text :=
  let level := record.level.name
  level ++ List.replicate (levelWidth - level.length) ' ' ++
    " [" ++ record.origin ++ "] " ++ record.text ++ ['\n']

end Record

def shown (threshold : Level) (records : List Record) : Text :=
  ((records.filter (Record.isShown threshold)).map Record.line).flatten

end Log
end Folio
