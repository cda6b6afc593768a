import Folio.Yaml.Plain
import Folio.Yaml.Scalar

/-!
# Nodes

A document is a tree of nodes.  An alias stands for the node whose anchor has its
number.  Where reading ended early, the tree is broken.
-/

namespace Folio
namespace Yaml

inductive Node where
  | scalar (mark : Mark) (tag : Option Text) (style : Style) (content : Text)
  | list (mark : Mark) (tag : Option Text) (elements : List Node)
  | table (mark : Mark) (tag : Option Text) (entries : List (Node × Node))
  | reference (number : Nat)
  | broken
  deriving Inhabited

/-- The nodes with anchors by their numbers, those that ended later first. -/
abbrev Anchored := List (Nat × Node)

def Anchored.find (anchored : Anchored) (number : Nat) : Node :=
  match List.find? (fun entry => entry.1 = number) anchored with
  | some (_, node) => node
  | none => Node.broken

namespace Node

def mark? : Node -> Option Mark
  | scalar mark _ _ _ => some mark
  | list mark _ _ => some mark
  | table mark _ _ => some mark
  | _ => none

/-!
# Values

Settings go no deeper than three nodes, so that more aliases inside one another
than that need not be followed.
-/

def label (tag : Option Text) (v : Value) : Value :=
  match tag with
  | some ('!' :: name) => Value.labelled ('!' :: name) v
  | _ => v

def scalarValue (tag : Option Text) (style : Style) (s : Text) : Value :=
  let declared := declaredMeaning tag (style = Style.plain) s
  if style = Style.plain then
    Value.plain s (some (meaning s)) declared
  else
    match style, tag, meaning s with
    | Style.literal, some tag, Scalar.int n =>
        if tag = intTag then
          Value.plain s (some (Scalar.int n)) declared
        else
          Value.plain s none declared
    | _, _, _ => Value.plain s none declared

def hollowValue : Node -> Value
  | scalar _ tag style s => label tag (scalarValue tag style s)
  | list _ tag _ => label tag (Value.list [])
  | table _ tag _ => label tag (Value.table [])
  | _ => Value.broken

mutual

/-- The value of a node; `depth` is how many aliases inside one another are followed. -/
def value (anchored : Anchored) (depth : Nat) : Node -> Value
  | scalar _ tag style s => label tag (scalarValue tag style s)
  | list _ tag elements => label tag (Value.list (values anchored depth elements))
  | table _ tag entries => label tag (Value.table (entryValues anchored depth entries))
  | reference number =>
      match depth with
      | 0 => hollowValue (anchored.find number)
      | depth + 1 => value anchored depth (anchored.find number)
  | broken => Value.broken
termination_by node => (depth, sizeOf node)

def values (anchored : Anchored) (depth : Nat) : List Node -> List Value
  | [] => []
  | node :: rest => value anchored depth node :: values anchored depth rest
termination_by nodes => (depth, sizeOf nodes)

def entryValues (anchored : Anchored) (depth : Nat) :
    List (Node × Node) -> List (Value × Value)
  | [] => []
  | (key, node) :: rest =>
      (value anchored depth key, value anchored depth node) :: entryValues anchored depth rest
termination_by entries => (depth, sizeOf entries)

end

def aliasDepth : Nat :=
  3

/-!
# Places of faults
-/

def target (anchored : Anchored) : Node -> Node
  | reference number => anchored.find number
  | node => node

def fieldName : Node -> Text
  | scalar _ _ _ s => s
  | _ => ['?']

def keyText (anchored : Anchored) (key : Node) : Option Text :=
  match key.target anchored with
  | scalar _ _ _ s => some s
  | _ => none

def extendPath (path name : Text) : Text :=
  if path = [] then name else path ++ '.' :: name

def locate (anchored : Anchored) (path : Text) (node : Node) : List Step -> Text × Option Mark
  | [] => (path, (node.target anchored).mark?)
  | Step.index n :: steps =>
      match steps, node.target anchored with
      | [Step.holder], node => (path, node.mark?)
      | steps, list _ _ elements =>
          let element := (elements[n]?).getD broken
          locate anchored (path ++ '[' :: Text.ofNat n ++ [']']) element steps
      | _, node => (path, node.mark?)
  | Step.field name :: steps =>
      match node.target anchored with
      | table _ _ entries =>
          match entries.find? fun entry => keyText anchored entry.1 = some name with
          | some (key, node) => locate anchored (extendPath path key.fieldName) node steps
          | none => (path, node.mark?)
      | node => (path, node.mark?)
  | Step.key n :: _ =>
      match node.target anchored with
      | table _ _ entries =>
          match entries[n]? with
          | some (key, _) => (path, (key.target anchored).mark?)
          | none => (path, node.mark?)
      | node => (path, node.mark?)
  | Step.holder :: _ => (path, (node.target anchored).mark?)

end Node
end Yaml
end Folio
