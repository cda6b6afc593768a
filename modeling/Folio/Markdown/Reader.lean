import Folio.Markdown.BlockReader
import Folio.Markdown.InlineReader
import Folio.Markdown.Notes

/-!
# Reading documents

Once every line of a source is in the block tree, all references are known, and
the texts of the blocks are read as running text.
-/

namespace Folio
namespace Markdown

def infoOf (line : Text) : Text :=
  Text.unescape (Text.trimAscii (Text.resolveReferences line))

def dropBlankEnd (s : Text) : Text :=
  let lines := (Text.linesInclusive s).reverse.dropWhile startsBlank
  lines.reverse.flatten

def indentedLiteral (s : Text) : Text :=
  Text.dropEndWhile (fun c => c = '\n') (dropBlankEnd s) ++ ['\n']

namespace Node

def row (context : InlineContext) (cells : List Node) : List (List Inline) :=
  cells.map fun cell => readInlines context cell.text

mutual

def toBlock (context : InlineContext) : Node -> Block
  | node kind s _ children =>
      match kind with
      | Kind.paragraph _ => Block.paragraph (readInlines context s)
      | Kind.heading level _ => Block.heading level (readInlines context s)
      | Kind.fenced _ _ _ =>
          let info := s.takeWhile fun c => c ≠ '\n'
          Block.code (infoOf info) (s.drop (info.length + 1))
      | Kind.indented => Block.code [] (indentedLiteral s)
      | Kind.html _ => Block.html s
      | Kind.rule => Block.rule
      | Kind.list marker tight =>
          Block.list marker.style (tight.getD true) (toBlocks context children)
      | Kind.item _ _ => Block.item (toBlocks context children)
      | Kind.definitions => Block.definitions (toDefinitions context children)
      | Kind.note name => Block.note name 0 (toBlocks context children)
      | Kind.table columns =>
          Block.table columns (children.map fun child => row context child.children)
      | Kind.term => Block.term (readInlines context (children.flatMap text))
      | _ => Block.quote (toBlocks context children)

def toBlocks (context : InlineContext) : List Node -> List Block
  | [] => []
  | child :: rest => toBlock context child :: toBlocks context rest

def toDefinitions (context : InlineContext) : List Node -> List Block
  | [] => []
  | node (Kind.definition _ tight) _ _ halves :: rest =>
      toHalves context tight halves ++ toDefinitions context rest
  | _ :: rest => toDefinitions context rest

def toHalves (context : InlineContext) (tight : Bool) : List Node -> List Block
  | [] => []
  | node Kind.details _ _ children :: rest =>
      Block.details tight (toBlocks context children) :: toHalves context tight rest
  | half :: rest => toBlock context half :: toHalves context tight rest

end

end Node

def read (dialect : Dialect) (source : Text) : Document :=
  let (nodes, references) := readBlocks dialect source
  let document := Node.toBlocks { references := references, notes := dialect.notes } nodes
  if dialect.notes then resolveNotes document else document

end Markdown
end Folio
