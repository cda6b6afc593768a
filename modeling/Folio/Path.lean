import Folio.Text

/-!
# Paths

A path is a way through directories, one step after the other.  It starts at the
root when it starts with a slash and in the working directory otherwise.  Between
two slashes in a row is an empty step, which stays where it is.
-/

namespace Folio

/-- A way through directories, and the number of slashes behind it. -/
structure Path where
  isAbsolute : Bool
  steps : List Text
  slashes : Nat
  deriving DecidableEq

namespace Path

def here : Text :=
  "."

def up : Text :=
  ".."

def ofBody (isAbsolute : Bool) (body : Text) : Path :=
  let named := Text.dropEndWhile (fun c => c = '/') body
  { isAbsolute := isAbsolute
    steps := if named = [] then [] else Text.splitAt '/' named
    slashes := body.length - named.length }

def ofText : Text -> Path
  | '/' :: s => ofBody true s
  | s => ofBody false s

def asksDirectory (path : Path) : Bool :=
  0 < path.slashes

def isEmpty (path : Path) : Bool :=
  !path.isAbsolute && path.steps.isEmpty

def toText (path : Path) : Text :=
  let lead : Text := if path.isAbsolute then ['/'] else []
  lead ++ Text.join "/" path.steps ++ List.replicate path.slashes '/'

def length (path : Path) : Nat :=
  Text.utf8Length path.toText

/-!
# Steps that count

A step that stays where it is counts only at the start of a relative path.  Steps
are taken off a path at its end, so that they are gone through innermost first.
-/

def stays (step : Text) : Bool :=
  step = [] || step = here

/-- Whether a step with the given steps around it does not count. -/
def isIdle (isAbsolute : Bool) (step : Text) (outer : List Text) : Bool :=
  stays step && (isAbsolute || !outer.isEmpty)

def counted (isAbsolute : Bool) : List Text -> List Text
  | [] => []
  | step :: outer =>
      if isIdle isAbsolute step outer then
        counted isAbsolute outer
      else
        step :: counted isAbsolute outer

def plainSteps (path : Path) : List Text :=
  (counted path.isAbsolute path.steps.reverse).reverse

def trimmed (isAbsolute : Bool) : List Text -> List Text
  | [] => []
  | step :: outer =>
      if isIdle isAbsolute step outer then trimmed isAbsolute outer else step :: outer

def parent? (path : Path) : Option Path :=
  match trimmed path.isAbsolute path.steps.reverse with
  | [] => none
  | _ :: outer =>
      some
        { isAbsolute := path.isAbsolute
          steps := (trimmed path.isAbsolute outer).reverse
          slashes := 0 }

/-!
# File names

The extension of a file name is what follows its last dot, unless the name starts
there.
-/

def fileName? (path : Path) : Option Text :=
  match path.plainSteps.getLast? with
  | some step => if step = here ∨ step = up then none else some step
  | none => none

def extension? (path : Path) : Option Text :=
  match path.fileName? with
  | none => none
  | some name =>
      let ending := (name.reverse.takeWhile fun c => c ≠ '.').reverse
      if name.length ≤ ending.length + 1 then none else some ending

end Path
end Folio
