import Folio.CommandLine.Refusal
import Folio.Log
import Folio.Settings
import Folio.Text.Similarity

/-!
# Command line

Arguments are read one after the other.  A parameter whose value is the next argument
stays open until the argument after that one: only then is it taken, and only then
can it be refused.
-/

namespace Folio
namespace CommandLine

/-!
# Given parameters
-/

structure Given where
  parameter : Parameter
  value : Option Text
  deriving DecidableEq

/-- The parameters taken so far and the one that is open. -/
structure Reading where
  taken : List Given
  waiting : Option Given
  deriving DecidableEq

namespace Reading

def start : Reading where
  taken := []
  waiting := none

def has (reading : Reading) (p : Parameter) : Bool :=
  reading.taken.any fun given => given.parameter = p

def take (reading : Reading) (given : Given) : Except Refusal Reading :=
  let p := given.parameter
  if p.takesValue ∧ given.value = none then
    Except.error (Refusal.missingValue p)
  else if p = Parameter.help then
    Except.error Refusal.helpWanted
  else if p = Parameter.version then
    Except.error Refusal.versionWanted
  else if reading.has p then
    Except.error (Refusal.repeated p)
  else if given.value = some [] ∧ !p.allowsEmpty then
    Except.error (Refusal.missingValue p)
  else
    Except.ok { reading with taken := reading.taken ++ [given] }

def settle (reading : Reading) : Except Refusal Reading :=
  match reading.waiting with
  | none => Except.ok reading
  | some given => { reading with waiting := none }.take given

def settleAndTake (reading : Reading) (given : Given) : Except Refusal Reading :=
  match reading.settle with
  | Except.error refusal => Except.error refusal
  | Except.ok reading => reading.take given

def await (reading : Reading) (p : Parameter) : Except Refusal Reading :=
  match reading.settle with
  | Except.error refusal => Except.error refusal
  | Except.ok reading =>
      Except.ok { reading with waiting := some { parameter := p, value := none } }

def takenParameters (reading : Reading) : List Parameter :=
  reading.taken.map Given.parameter

/-- The parameters that count as used once the open one is looked at, whether or not
it can be taken. -/
def usedParameters (reading : Reading) : List Parameter :=
  let taken := reading.takenParameters
  match reading.waiting with
  | some { parameter := p, value := some _ } =>
      if reading.has p then taken.erase p else taken ++ [p]
  | _ => taken

/-!
# Long options
-/

/-- Names no closer than this to a known one are not taken for a slip. -/
def tipBound : Binary :=
  Binary.ratio 7 10

def unknownLong (reading : Reading) (name : Text) : Refusal :=
  let tip := Text.mostSimilar? tipBound name Parameter.name Parameter.all
  Refusal.unknownArgument ("--" ++ name) tip (reading.usedParameters ++ tip.toList)

def splitValue (body : Text) : Text × Option Text :=
  match body.dropWhile fun c => c ≠ '=' with
  | [] => (body, none)
  | _ :: value => (body.takeWhile fun c => c ≠ '=', some value)

def readLong (reading : Reading) (body : Text) : Except Refusal Reading :=
  let (name, value) := splitValue body
  match Parameter.ofName? name with
  | none => Except.error (reading.unknownLong name)
  | some p =>
      match p.takesValue, value with
      | true, none => reading.await p
      | false, some value =>
          Except.error (Refusal.unwantedValue value p (reading.takenParameters ++ [p]))
      | _, value => reading.settleAndTake { parameter := p, value := value }

/-!
# Short options
-/

def unknownArgument (written : Text) : Refusal :=
  Refusal.unknownArgument written none []

/-- Reads letters from behind a dash.  The letter of a parameter that takes a value is
followed by that value, with or without an equals sign. -/
def readShort (reading : Reading) : Text -> Except Refusal Reading
  | [] => Except.ok reading
  | c :: rest =>
      match Parameter.ofLetter? c with
      | none => Except.error (unknownArgument ['-', c])
      | some p =>
          if p.takesValue then
            match rest with
            | [] => reading.await p
            | '=' :: value => reading.settleAndTake { parameter := p, value := some value }
            | value => reading.settleAndTake { parameter := p, value := some value }
          else
            match reading.settleAndTake { parameter := p, value := none } with
            | Except.error refusal => Except.error refusal
            | Except.ok reading => reading.readShort rest

/-!
# Arguments
-/

def readValue (reading : Reading) (argument : Text) : Except Refusal Reading :=
  match reading.waiting with
  | some { parameter := p, value := none } =>
      Except.ok
        { reading with waiting := some { parameter := p, value := some argument } }
  | _ => Except.error (unknownArgument argument)

def readArgument (reading : Reading) (argument : Text) : Except Refusal Reading :=
  match argument with
  | '-' :: '-' :: body => reading.readLong body
  | ['-'] => reading.readValue argument
  | '-' :: letters => reading.readShort letters
  | _ => reading.readValue argument

def rivals? (reading : Reading) : Option Refusal :=
  reading.taken.findSome? fun given =>
    match given.parameter.rival? with
    | none => none
    | some rival =>
        if reading.has rival then
          some
            (Refusal.conflict given.parameter rival (reading.takenParameters.erase rival))
        else
          none

def finish (reading : Reading) : Except Refusal Reading :=
  match reading.settle with
  | Except.error refusal => Except.error refusal
  | Except.ok reading =>
      match reading.rivals? with
      | some refusal => Except.error refusal
      | none => Except.ok reading

def value? (reading : Reading) (p : Parameter) : Option Text :=
  (reading.taken.find? fun given => given.parameter = p).bind Given.value

end Reading

def endOfOptions : Text :=
  "--"

def readAll (arguments : List Text) : Except Refusal Reading :=
  let options := arguments.takeWhile fun argument => argument ≠ endOfOptions
  match options.foldlM Reading.readArgument Reading.start with
  | Except.error refusal => Except.error refusal
  | Except.ok reading =>
      match arguments.drop (options.length + 1) with
      | extra :: _ => Except.error (Reading.unknownArgument extra)
      | [] => reading.finish

/-!
# Arguments of a run
-/

structure Arguments where
  config : Option Text
  overrides : Overrides
  trace : Bool
  debug : Bool
  quiet : Bool
  deriving DecidableEq

namespace Arguments

def ofReading (reading : Reading) : Arguments where
  config := reading.value? Parameter.config
  overrides :=
    { source := reading.value? Parameter.source
      template := reading.value? Parameter.template
      output := reading.value? Parameter.output
      title := reading.value? Parameter.title }
  trace := reading.has Parameter.trace
  debug := reading.has Parameter.debug
  quiet := reading.has Parameter.quiet

def parse (arguments : List Text) : Except Refusal Arguments :=
  (readAll arguments).map ofReading

def threshold (arguments : Arguments) : Log.Level :=
  Log.Level.threshold arguments.debug arguments.quiet

end Arguments

def backtrace (trace : Bool) : Option Text :=
  if trace then some "1" else none

end CommandLine
end Folio
