import Folio.Yaml.Node
import Folio.Yaml.Token

/-!
# The nodes of a document

Nodes are read from tokens.  When the tokens do not fit or come to an end too early,
what was read so far is kept, and the tree is broken where it would have gone on.
-/

namespace Folio
namespace Yaml

/-- The tokens still to be read, with the problem that ends them; the anchors seen so
far and the nodes that have them; the rules for tags; and the problem that ended
reading. -/
structure NodeReader where
  tokens : List Token
  ending : Option Problem
  names : List (Text × Nat)
  anchored : Anchored
  tagRules : List (Text × Text)
  failed : Option Problem

namespace NodeReader

def ofTokens (tokens : List Token) (ending : Option Problem) : NodeReader where
  tokens := tokens
  ending := ending
  names := []
  anchored := []
  tagRules := []
  failed := none

def head? (reader : NodeReader) : Option Token :=
  reader.tokens.head?

def skip (reader : NodeReader) : NodeReader :=
  { reader with tokens := reader.tokens.drop 1 }

def fail (reader : NodeReader) (problem : Problem) : NodeReader :=
  { reader with failed := some problem }

def exhausted (reader : NodeReader) : NodeReader :=
  { reader with failed := reader.ending.or (some (Problem.plain [] Mark.origin)) }

def declare (reader : NodeReader) (name : Text) : Nat × NodeReader :=
  let number := reader.names.length
  let others := reader.names.filter fun entry => entry.1 != name
  (number, { reader with names := (name, number) :: others })

def bind (reader : NodeReader) (number : Option Nat) (node : Node) : NodeReader :=
  match number with
  | some number => { reader with anchored := (number, node) :: reader.anchored }
  | none => reader

end NodeReader

abbrev NodeRead := Node × NodeReader

def emptyNode (mark : Mark) : Node :=
  Node.scalar mark none Style.plain []

/-!
# Properties
-/

/-- The anchor and the tag in front of a node, the mark where the node begins, and
the mark of its tag. -/
structure Properties where
  anchor : Option Text
  tag : Option (Text × Text)
  start : Mark
  tagMark : Mark

def Properties.none (mark : Mark) : Properties where
  anchor := Option.none
  tag := Option.none
  start := mark
  tagMark := mark

def Properties.take (properties : Properties) (token : Token) : Option Properties :=
  match token.kind, properties.anchor, properties.tag with
  | TokenKind.anchor name, Option.none, _ => some { properties with anchor := some name }
  | TokenKind.tag handle suffix, _, Option.none =>
      some { properties with tag := some (handle, suffix), tagMark := token.start }
  | _, _, _ => Option.none

def readProperties : Nat -> Properties -> NodeReader -> Properties × NodeReader
  | 0, properties, reader => (properties, reader)
  | n + 1, properties, reader =>
      match reader.head? with
      | some token =>
          match properties.take token with
          | some properties => readProperties n properties reader.skip
          | none => (properties, reader)
      | none => (properties, reader)

def expandTag (rules : List (Text × Text)) : Text × Text -> Option Text
  | ([], suffix) => some suffix
  | (handle, suffix) =>
      match rules.find? fun rule => rule.1 == handle with
      | some (_, expansion) => some (expansion ++ suffix)
      | none => none

def scalarTag (tag : Option Text) : Option Text :=
  if tag = some ['!'] then none else tag

/-!
# Nodes
-/

def missingContent (isBlock : Bool) (start mark : Mark) : Problem :=
  Problem.within
    (if isBlock then "while parsing a block node" else "while parsing a flow node")
    start "did not find expected node content" mark

def endsTablePart : TokenKind -> Bool
  | TokenKind.key => true
  | TokenKind.value => true
  | TokenKind.blockEnd => true
  | _ => false

mutual

/-- Reads a node.  `isBlock` says whether it may be a block, and `inTable` whether its
entries may stand without indentation of their own. -/
def readNode (isBlock inTable : Bool) : Nat -> NodeReader -> NodeRead
  | 0, reader => (Node.broken, reader.exhausted)
  | fuel + 1, reader =>
      match reader.head? with
      | none => (Node.broken, reader.exhausted)
      | some token =>
          match token.kind with
          | TokenKind.reference name =>
              match reader.names.find? fun entry => entry.1 == name with
              | some (_, number) => (Node.reference number, reader.skip)
              | none => (Node.broken, reader.fail (Problem.plain "unknown anchor" token.start))
          | _ =>
              let (properties, reader) := readProperties 2 (Properties.none token.start) reader
              readContent isBlock inTable properties fuel reader

def readContent (isBlock inTable : Bool) (properties : Properties) :
    Nat -> NodeReader -> NodeRead
  | 0, reader => (Node.broken, reader.exhausted)
  | fuel + 1, reader =>
      let start := properties.start
      match reader.head?, properties.tag.map (expandTag reader.tagRules) with
      | none, _ => (Node.broken, reader.exhausted)
      | some _, some none =>
          (Node.broken,
            reader.fail
              (Problem.within "while parsing a node" start "found undefined tag handle"
                properties.tagMark))
      | some token, tag =>
          let tag := tag.join
          let (number, named) : Option Nat × NodeReader :=
            match properties.anchor with
            | some name =>
                let (number, reader) := reader.declare name
                (some number, reader)
            | none => (none, reader)
          let finish (result : NodeRead) : NodeRead :=
            (result.1, result.2.bind number result.1)
          match token.kind with
          | TokenKind.scalar style s =>
              finish (Node.scalar start (scalarTag tag) style s, named.skip)
          | TokenKind.flowListStart =>
              let (elements, reader) := readFlowList token.start true fuel named.skip
              finish (Node.list start tag elements, reader)
          | TokenKind.flowTableStart =>
              let (entries, reader) := readFlowTable token.start true fuel named.skip
              finish (Node.table start tag entries, reader)
          | kind =>
              if inTable && kind = TokenKind.entry then
                let (elements, reader) := readFlatList fuel named
                finish (Node.list start tag elements, reader)
              else if isBlock && kind = TokenKind.blockListStart then
                let (elements, reader) := readBlockList token.start fuel named.skip
                finish (Node.list start tag elements, reader)
              else if isBlock && kind = TokenKind.blockTableStart then
                let (entries, reader) := readBlockTable token.start fuel named.skip
                finish (Node.table start tag entries, reader)
              else if properties.anchor.isSome || tag.isSome then
                finish (Node.scalar start tag Style.plain [], named)
              else
                (Node.broken, reader.fail (missingContent isBlock start token.start))

def readBlockList (start : Mark) : Nat -> NodeReader -> List Node × NodeReader
  | 0, reader => ([Node.broken], reader.exhausted)
  | fuel + 1, reader =>
      match reader.head? with
      | none => ([Node.broken], reader.exhausted)
      | some token =>
          match token.kind with
          | TokenKind.entry =>
              let (node, reader) := readEntry token.stop
                (fun kind => kind = TokenKind.entry || kind = TokenKind.blockEnd) fuel reader.skip
              if reader.failed.isSome then
                ([node], reader)
              else
                let (others, reader) := readBlockList start fuel reader
                (node :: others, reader)
          | TokenKind.blockEnd => ([], reader.skip)
          | _ =>
              ([Node.broken],
                reader.fail
                  (Problem.within "while parsing a block collection" start
                    "did not find expected '-' indicator" token.start))

def readFlatList : Nat -> NodeReader -> List Node × NodeReader
  | 0, reader => ([Node.broken], reader.exhausted)
  | fuel + 1, reader =>
      match reader.head? with
      | none => ([Node.broken], reader.exhausted)
      | some token =>
          if token.kind = TokenKind.entry then
            let (node, reader) := readEntry token.stop
              (fun kind => kind = TokenKind.entry || endsTablePart kind) fuel reader.skip
            if reader.failed.isSome then
              ([node], reader)
            else
              let (others, reader) := readFlatList fuel reader
              (node :: others, reader)
          else
            ([], reader)

def readEntry (mark : Mark) (isEmpty : TokenKind -> Bool) : Nat -> NodeReader -> NodeRead
  | 0, reader => (Node.broken, reader.exhausted)
  | fuel + 1, reader =>
      match reader.head? with
      | none => (Node.broken, reader.exhausted)
      | some token =>
          if isEmpty token.kind then
            (emptyNode mark, reader)
          else
            readNode true false fuel reader

def readBlockTable (start : Mark) : Nat -> NodeReader -> List (Node × Node) × NodeReader
  | 0, reader => ([(Node.broken, Node.broken)], reader.exhausted)
  | fuel + 1, reader =>
      match reader.head? with
      | none => ([(Node.broken, Node.broken)], reader.exhausted)
      | some token =>
          match token.kind with
          | TokenKind.key =>
              let (key, reader) := readTablePart token.stop fuel reader.skip
              if reader.failed.isSome then
                ([(key, Node.broken)], reader)
              else
                let (node, reader) := readTableValue fuel reader
                if reader.failed.isSome then
                  ([(key, node)], reader)
                else
                  let (others, reader) := readBlockTable start fuel reader
                  ((key, node) :: others, reader)
          | TokenKind.blockEnd => ([], reader.skip)
          | _ =>
              ([(Node.broken, Node.broken)],
                reader.fail
                  (Problem.within "while parsing a block mapping" start
                    "did not find expected key" token.start))

def readTablePart (mark : Mark) : Nat -> NodeReader -> NodeRead
  | 0, reader => (Node.broken, reader.exhausted)
  | fuel + 1, reader =>
      match reader.head? with
      | none => (Node.broken, reader.exhausted)
      | some token =>
          if endsTablePart token.kind then
            (emptyNode mark, reader)
          else
            readNode true true fuel reader

def readTableValue : Nat -> NodeReader -> NodeRead
  | 0, reader => (Node.broken, reader.exhausted)
  | fuel + 1, reader =>
      match reader.head? with
      | none => (Node.broken, reader.exhausted)
      | some token =>
          if token.kind = TokenKind.value then
            readTablePart token.stop fuel reader.skip
          else
            (emptyNode token.start, reader)

def readFlowList (start : Mark) (isFirst : Bool) : Nat -> NodeReader -> List Node × NodeReader
  | 0, reader => ([Node.broken], reader.exhausted)
  | fuel + 1, reader =>
      match reader.head? with
      | none => ([Node.broken], reader.exhausted)
      | some token =>
          if token.kind = TokenKind.flowListEnd then
            ([], reader.skip)
          else if isFirst then
            readFlowElement start fuel reader
          else if token.kind = TokenKind.flowEntry then
            readFlowElement start fuel reader.skip
          else
            ([Node.broken],
              reader.fail
                (Problem.within "while parsing a flow sequence" start
                  "did not find expected ',' or ']'" token.start))

def readFlowElement (start : Mark) : Nat -> NodeReader -> List Node × NodeReader
  | 0, reader => ([Node.broken], reader.exhausted)
  | fuel + 1, reader =>
      match reader.head? with
      | none => ([Node.broken], reader.exhausted)
      | some token =>
          if token.kind = TokenKind.flowListEnd then
            ([], reader.skip)
          else
            let (node, reader) :=
              if token.kind = TokenKind.key then
                readPair token.start fuel reader.skip
              else
                readNode false false fuel reader
            if reader.failed.isSome then
              ([node], reader)
            else
              let (others, reader) := readFlowList start false fuel reader
              (node :: others, reader)

def readPair (start : Mark) : Nat -> NodeReader -> NodeRead
  | 0, reader => (Node.table start none [(Node.broken, Node.broken)], reader.exhausted)
  | fuel + 1, reader =>
      match reader.head? with
      | none => (Node.table start none [(Node.broken, Node.broken)], reader.exhausted)
      | some token =>
          let endsPair (kind : TokenKind) : Bool :=
            kind = TokenKind.flowEntry || kind = TokenKind.flowListEnd
          let (key, reader) :=
            if token.kind = TokenKind.value || endsPair token.kind then
              (emptyNode token.stop, reader.skip)
            else
              readNode false false fuel reader
          if reader.failed.isSome then
            (Node.table start none [(key, Node.broken)], reader)
          else
            let (node, reader) := readFlowValue endsPair fuel reader
            if reader.failed.isNone && reader.head?.isNone then
              (Node.table start none [(key, node), (Node.broken, Node.broken)], reader.exhausted)
            else
              (Node.table start none [(key, node)], reader)

def readFlowValue (isEmpty : TokenKind -> Bool) : Nat -> NodeReader -> NodeRead
  | 0, reader => (Node.broken, reader.exhausted)
  | fuel + 1, reader =>
      match reader.head? with
      | none => (Node.broken, reader.exhausted)
      | some token =>
          if token.kind = TokenKind.value then
            match reader.skip.head? with
            | none => (Node.broken, reader.skip.exhausted)
            | some next =>
                if isEmpty next.kind then
                  (emptyNode next.start, reader.skip)
                else
                  readNode false false fuel reader.skip
          else
            (emptyNode token.start, reader)

def readFlowTable (start : Mark) (isFirst : Bool) :
    Nat -> NodeReader -> List (Node × Node) × NodeReader
  | 0, reader => ([(Node.broken, Node.broken)], reader.exhausted)
  | fuel + 1, reader =>
      match reader.head? with
      | none => ([(Node.broken, Node.broken)], reader.exhausted)
      | some token =>
          if token.kind = TokenKind.flowTableEnd then
            ([], reader.skip)
          else if isFirst then
            readFlowPair start fuel reader
          else if token.kind = TokenKind.flowEntry then
            readFlowPair start fuel reader.skip
          else
            ([(Node.broken, Node.broken)],
              reader.fail
                (Problem.within "while parsing a flow mapping" start
                  "did not find expected ',' or '\x7d'" token.start))

def readFlowPair (start : Mark) : Nat -> NodeReader -> List (Node × Node) × NodeReader
  | 0, reader => ([(Node.broken, Node.broken)], reader.exhausted)
  | fuel + 1, reader =>
      match reader.head? with
      | none => ([(Node.broken, Node.broken)], reader.exhausted)
      | some token =>
          if token.kind = TokenKind.flowTableEnd then
            ([], reader.skip)
          else
            let hasMark : Bool := token.kind = TokenKind.key
            let (key, reader) :=
              if hasMark then
                readFlowKey fuel reader.skip
              else
                readNode false false fuel reader
            if reader.failed.isSome then
              ([(key, Node.broken)], reader)
            else
              let (node, reader) := readPairValue hasMark fuel reader
              if reader.failed.isSome then
                ([(key, node)], reader)
              else
                let (others, reader) := readFlowTable start false fuel reader
                ((key, node) :: others, reader)

def readFlowKey : Nat -> NodeReader -> NodeRead
  | 0, reader => (Node.broken, reader.exhausted)
  | fuel + 1, reader =>
      match reader.head? with
      | none => (Node.broken, reader.exhausted)
      | some token =>
          if token.kind = TokenKind.value || token.kind = TokenKind.flowEntry ||
              token.kind = TokenKind.flowTableEnd then
            (emptyNode token.start, reader)
          else
            readNode false false fuel reader

def readPairValue (hasMark : Bool) : Nat -> NodeReader -> NodeRead
  | 0, reader => (Node.broken, reader.exhausted)
  | fuel + 1, reader =>
      match reader.head? with
      | none => (Node.broken, reader.exhausted)
      | some token =>
          if hasMark then
            readFlowValue
              (fun kind => kind = TokenKind.flowEntry || kind = TokenKind.flowTableEnd) fuel reader
          else
            (emptyNode token.start, reader)

end

end Yaml
end Folio
