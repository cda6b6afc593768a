import Folio.Markdown.BlockStart
import Folio.Markdown.Reference

/-!
# Growing block trees

While lines are read, the blocks that may still grow form a branch of the
document tree, the innermost first; all other blocks are closed nodes.  A node
keeps the lines of its text unread.  It also remembers whether its last line was
blank, because blank lines between items make a list loose.
-/

namespace Folio
namespace Markdown

/-- What kind of block a node is, with what later lines need to know of it: how
far an item's text is indented and on which line it began, whether a paragraph
was tried as a table header, and how a fence looked. -/
inductive Kind where
  | document
  | quote
  | list (marker : Marker) (tight : Option Bool)
  | item (width line : Nat)
  | definitions
  | definition (width : Nat) (tight : Bool)
  | term
  | details
  | note (name : Text)
  | paragraph (tried : Bool)
  | heading (level : Nat) (underlined : Bool)
  | fenced (mark : Char) (length offset : Nat)
  | indented
  | html (kind : HtmlKind)
  | rule
  | table (columns : List Alignment)
  | row
  | cell
  deriving DecidableEq

namespace Kind

def isParagraph : Kind -> Bool
  | paragraph _ => true
  | _ => false

def acceptsLines : Kind -> Bool
  | paragraph _ => true
  | heading _ _ => true
  | fenced _ _ _ => true
  | indented => true
  | _ => false

def isLiteral : Kind -> Bool
  | fenced _ _ _ => true
  | indented => true
  | html _ => true
  | _ => false

def isPart : Kind -> Bool
  | document => true
  | item _ _ => true
  | definition _ _ => true
  | term => true
  | details => true
  | row => true
  | cell => true
  | _ => false

def canContain : Kind -> Kind -> Bool
  | document, child => !child.isPart
  | quote, child => !child.isPart
  | note _, child => !child.isPart
  | term, child => !child.isPart
  | details, child => !child.isPart
  | item _ _, child => !child.isPart
  | list _ _, item _ _ => true
  | definitions, definition _ _ => true
  | definition _ _, term => true
  | definition _ _, details => true
  | table _, row => true
  | row, cell => true
  | _, _ => false

end Kind

inductive Node where
  | node (kind : Kind) (text : Text) (blank : Bool) (children : List Node)

namespace Node

def text : Node -> Text
  | node _ s _ _ => s

def blank : Node -> Bool
  | node _ _ b _ => b

def children : Node -> List Node
  | node _ _ _ nodes => nodes

def markBlank : Node -> Node
  | node k s _ nodes => node k s true nodes

/-- Whether the last line of a node is blank; for lists and items it is the last
line of what stands in them. -/
def endsBlank : Node -> Bool
  | node k _ b nodes =>
      b ||
        match k with
        | Kind.list _ _ => lastEndsBlank nodes
        | Kind.item _ _ => lastEndsBlank nodes
        | _ => false
where
  lastEndsBlank : List Node -> Bool
    | [] => false
    | [last] => endsBlank last
    | _ :: second :: rest => lastEndsBlank (second :: rest)

/-- Whether a blank line follows one of the blocks of an item, where the last of
them counts only if another item follows. -/
def separates (followed : Bool) : List Node -> Bool
  | [] => false
  | [last] => followed && last.endsBlank
  | first :: second :: rest => first.endsBlank || separates followed (second :: rest)

def tightItems : List Node -> Bool
  | [] => true
  | [last] => !separates false last.children
  | first :: second :: rest =>
      !first.blank && !separates true first.children && tightItems (second :: rest)

end Node

structure Frame where
  kind : Kind
  lines : List Text
  blank : Bool
  children : List Node

namespace Frame

def ofKind (kind : Kind) : Frame where
  kind := kind
  lines := []
  blank := false
  children := []

def text (frame : Frame) : Text :=
  frame.lines.reverse.flatten

def addLine (line : Text) (frame : Frame) : Frame :=
  { frame with lines := line :: frame.lines }

def addChild (child : Node) (frame : Frame) : Frame :=
  { frame with children := child :: frame.children }

def toNode (frame : Frame) : Node :=
  Node.node frame.kind frame.text frame.blank frame.children.reverse

def decideTight (frame : Frame) : Frame :=
  match frame.kind with
  | Kind.list marker none =>
      { frame with kind := Kind.list marker (some (Node.tightItems frame.children.reverse)) }
  | _ => frame

/-- Closes a block.  A paragraph gives its definitions to the references, and is
no block when nothing else is in it. -/
def close (references : References) (frame : Frame) : References × Option Node :=
  match frame.kind with
  | Kind.paragraph _ =>
      let (references, s) := takeDefinitions frame.text.length references frame.text
      if startsBlank s then
        (references, none)
      else
        (references, some { frame with lines := [s] }.toNode)
  | _ => (references, some frame.decideTight.toNode)

end Frame

/-- The open blocks, the innermost first, and the references defined so far. -/
structure Branch where
  frames : List Frame
  references : References

namespace Branch

def kind? (branch : Branch) : Option Kind :=
  branch.frames.head?.map fun frame => frame.kind

def modify (f : Frame -> Frame) (branch : Branch) : Branch :=
  match branch.frames with
  | [] => branch
  | frame :: rest => { branch with frames := f frame :: rest }

def push (kind : Kind) (branch : Branch) : Branch :=
  { branch with frames := Frame.ofKind kind :: branch.frames }

def closeTop (branch : Branch) : Branch :=
  match branch.frames with
  | [] => branch
  | frame :: rest =>
      let (references, node?) := frame.close branch.references
      match node?, rest with
      | some node, parent :: others =>
          { frames := parent.addChild node :: others, references := references }
      | _, _ => { frames := rest, references := references }

def closeMany : Nat -> Branch -> Branch
  | 0, branch => branch
  | count + 1, branch => closeMany count branch.closeTop

def closeFor (kind : Kind) : Nat -> Branch -> Branch
  | 0, branch => branch
  | fuel + 1, branch =>
      match branch.frames with
      | frame :: _ :: _ =>
          if frame.kind.canContain kind then branch else closeFor kind fuel branch.closeTop
      | _ => branch

def addChild (kind : Kind) (branch : Branch) : Branch :=
  (closeFor kind branch.frames.length branch).push kind

end Branch

end Markdown
end Folio
