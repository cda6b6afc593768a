import Folio.Markdown.Line
import Folio.Markdown.TableRow
import Folio.Markdown.Tree

/-!
# Reading blocks

Lines are read one after the other.  A line first follows the open blocks from
the outermost inwards, as far as it continues them.  Then it may open new
blocks, and what is left of it is text of the innermost one.
-/

namespace Folio
namespace Markdown

structure Dialect where
  tables : Bool
  notes : Bool
  definitions : Bool
  deriving DecidableEq

namespace Dialect

def plain : Dialect where
  tables := false
  notes := false
  definitions := false

def extra : Dialect where
  tables := true
  notes := true
  definitions := true

end Dialect

/-!
# Following open blocks
-/

/-- How a line meets an open block: it goes on behind what continues the block,
it does not continue the block, or it ends the block and nothing else. -/
inductive Meeting where
  | continues (line : Line)
  | departs
  | ends

def codeIndent : Nat :=
  4

def meetIndented (width : Nat) (hasChildren : Bool) (line : Line) : Meeting :=
  if width ≤ line.indent then
    Meeting.continues (line.advanceColumns width)
  else if line.isBlank && hasChildren then
    Meeting.continues line.skipBlanks
  else
    Meeting.departs

def skipFenceOffset : Nat -> Line -> Line
  | 0, line => line
  | count + 1, line =>
      match line.rest with
      | c :: _ => if Text.isSpaceOrTab c then skipFenceOffset count (line.advanceColumns 1) else line
      | [] => line

def meet (whole : Text) (frame : Frame) (hasChildren : Bool) (line : Line) : Meeting :=
  match frame.kind with
  | Kind.quote =>
      if line.indent < codeIndent ∧ line.content.head? = some '>' then
        Meeting.continues (line.advanceColumns (line.indent + 1)).skipOneBlank
      else
        Meeting.departs
  | Kind.item width _ => meetIndented width hasChildren line
  | Kind.definition width _ => meetIndented width hasChildren line
  | Kind.indented =>
      if codeIndent ≤ line.indent then
        Meeting.continues (line.advanceColumns codeIndent)
      else if line.isBlank then
        Meeting.continues line.skipBlanks
      else
        Meeting.departs
  | Kind.fenced mark length offset =>
      if line.indent < codeIndent && Start.closesFence mark length line.content then
        Meeting.ends
      else
        Meeting.continues (skipFenceOffset offset line)
  | Kind.html kind =>
      if kind.endsAtBlank && line.isBlank then Meeting.departs else Meeting.continues line
  | Kind.paragraph _ => if line.isBlank then Meeting.departs else Meeting.continues line
  | Kind.note _ =>
      if codeIndent ≤ line.indent then
        Meeting.continues (line.advanceColumns codeIndent)
      else if whole = ['\n'] then
        Meeting.continues line
      else
        Meeting.departs
  | Kind.table _ =>
      if (TableRow.cells? line.content).isSome then Meeting.continues line else Meeting.departs
  | Kind.heading _ _ => Meeting.departs
  | Kind.row => Meeting.departs
  | Kind.cell => Meeting.departs
  | _ => Meeting.continues line

/-- The open blocks that a line continues, the innermost first, those that it
does not, the outermost first, and the line behind what continues them; nothing
when the line only ends the innermost block. -/
def follow (whole : Text) (matched : List Frame) : List Frame -> Line ->
    Option (List Frame × List Frame × Line)
  | [], line => some (matched, [], line)
  | frame :: inner, line =>
      match meet whole frame (frame.children ≠ [] || inner ≠ []) line with
      | Meeting.continues line => follow whole (frame :: matched) inner line
      | Meeting.departs => some (matched, frame :: inner, line)
      | Meeting.ends => none

/-!
# Opening blocks
-/

/-- The state while a line opens blocks: the blocks it continues or has opened,
the open blocks it left, the outermost first, its rest, and whether the
innermost block is another one than before. -/
structure Progress where
  branch : Branch
  left : List Frame
  line : Line
  opened : Bool

namespace Progress

def closeLeft (p : Progress) : Progress :=
  { p with
    branch :=
      (Branch.mk (p.left.reverse ++ p.branch.frames) p.branch.references).closeMany p.left.length
    left := [] }

def leftNode? : List Frame -> Option Node
  | [] => none
  | frame :: inner =>
      match leftNode? inner with
      | some child => some (frame.addChild child).toNode
      | none => some frame.toNode

def settleList (kind : Kind) (p : Progress) : Progress :=
  match p.branch.frames, leftNode? p.left with
  | frame :: rest, some node =>
      if frame.kind.canContain kind then
        p
      else
        { p with
          branch :=
            { p.branch with
              frames :=
                { frame with kind := ((frame.addChild node).decideTight).kind } :: rest } }
  | _, _ => p

def openBlock (kind : Kind) (line : Line) (p : Progress) : Progress :=
  let p := (p.settleList kind).closeLeft
  { p with
    branch := p.branch.addChild kind
    line := line
    opened := true }

/-!
# Details of terms
-/

def addTerm (width : Nat) (tight : Bool) (term : Node) (branch : Branch) : Branch :=
  let inList :=
    match branch.frames with
    | frame :: rest =>
        match frame.children with
        | Node.node Kind.definitions s blank nodes :: before =>
            let reopened : Frame :=
              { kind := Kind.definitions
                lines := [s]
                blank := blank
                children := nodes.reverse }
            { branch with frames := reopened :: { frame with children := before } :: rest }
        | _ => branch.addChild Kind.definitions
    | [] => branch
  ((inList.push (Kind.definition width tight)).modify
    (Frame.addChild (Node.node Kind.term [] false [term]))).push Kind.details

/-- Opens details where the block before them is a paragraph, which becomes their
term, or a definition, of which they are another half. -/
def openDetails (width : Nat) (p : Progress) : Option Branch :=
  match p.left with
  | Frame.mk (Kind.definition _ tight) _ _ _ :: _ =>
      let p := p.closeLeft
      some ((p.branch.push (Kind.definition width tight)).push Kind.details)
  | _ :: _ => none
  | [] =>
      match p.branch.frames with
      | [] => none
      | frame :: rest =>
          match frame.children with
          | [] =>
              if frame.kind.isParagraph ∧ rest ≠ [] then
                some (addTerm width true frame.toNode { p.branch with frames := rest })
              else
                none
          | Node.node (Kind.paragraph tried) s blank nodes :: before =>
              some
                (addTerm width false (Node.node (Kind.paragraph tried) s blank nodes)
                  { p.branch with frames := { frame with children := before } :: rest })
          | Node.node (Kind.definition _ tight) _ _ _ :: _ =>
              some ((p.branch.push (Kind.definition width tight)).push Kind.details)
          | _ => none

/-!
# Tables
-/

def rowNode (cells : List Text) : Node :=
  Node.node Kind.row [] false (cells.map fun cell => Node.node Kind.cell cell false [])

def openTable (p : Progress) : Progress :=
  match p.branch.frames with
  | frame :: rest =>
      let line := p.line.content
      if frame.kind = Kind.paragraph false && TableRow.isDelimiterRow line then
        let tried : Progress :=
          { p with
            branch :=
              { p.branch with frames := { frame with kind := Kind.paragraph true } :: rest } }
        match TableRow.cells? line, TableRow.cells? frame.text with
        | some (_, delimiters), some (before, header) =>
            if delimiters.length = header.length then
              let lead : List Node :=
                if before = [] then
                  []
                else
                  [Node.node (Kind.paragraph false)
                    (Text.trimAscii (TableRow.unescapeBars before)) false []]
              let rest :=
                match rest with
                | parent :: others =>
                    { parent with children := lead ++ parent.children } :: others
                | [] => []
              let table : Frame :=
                { kind := Kind.table (delimiters.map TableRow.alignment)
                  lines := []
                  blank := false
                  children := [rowNode header] }
              { p with
                branch := { p.branch with frames := table :: rest }
                line := p.line.skipAll
                opened := true }
            else
              tried
        | _, _ => tried
      else
        p
  | [] => p

def openRow (columns : Nat) (p : Progress) : Option Progress :=
  if p.line.isBlank then
    none
  else
    match TableRow.cells? p.line.content with
    | some (_, cells) =>
        let cells := cells.take columns ++ List.replicate (columns - cells.length) []
        let p := p.openBlock Kind.row p.line.skipAll
        some
          { p with
            branch :=
              p.branch.modify fun frame =>
                { frame with children := (rowNode cells).children.reverse } }
    | none => none

/-!
# The order of attempts
-/

def maxDepth : Nat :=
  100

def skipItemBlanks (column : Nat) : Nat -> Line -> Line
  | 0, line => line
  | count + 1, line =>
      if line.column - column ≤ 5 then skipItemBlanks column count line.skipOneBlank else line

def openItem (marker : Marker) (length number : Nat) (p : Progress) : Progress :=
  let indent := p.line.indent
  let behind := p.line.skipBlanks.advance length
  let spaced := skipItemBlanks behind.column 6 behind
  let width := spaced.column - behind.column
  let endsLine := spaced.rest.head? = some '\n'
  let (padding, line) :=
    if 1 ≤ width ∧ width < 5 ∧ !endsLine then
      (length + width, spaced)
    else
      (length + 1, if 0 < width then behind.advanceColumns 1 else behind)
  let item := Kind.item (indent + padding) number
  match p.branch.kind? with
  | some (Kind.list other _) =>
      if marker.continues other then
        p.openBlock item line
      else
        (p.openBlock (Kind.list marker none) line).openBlock item line
  | _ => (p.openBlock (Kind.list marker none) line).openBlock item line

/-- Makes a heading of the paragraph that an underline follows.  When nothing is
left of the paragraph besides definitions, the underline is text. -/
def underline (level : Nat) (p : Progress) : Progress :=
  match p.branch.frames with
  | frame :: rest =>
      let (references, s) := takeDefinitions frame.text.length p.branch.references frame.text
      if startsBlank s then
        { p with
          branch :=
            { frames := { frame with lines := [s] } :: rest, references := references }
          opened := true }
      else
        { p with
          branch :=
            { frames := { frame with kind := Kind.heading level true, lines := [s] } :: rest
              references := references }
          line := p.line.skipAll
          opened := true }
  | [] => p

def openUnindented? (dialect : Dialect) (container : Kind) (depth : Nat) (p : Progress) :
    Option Progress :=
  let s := p.line.content
  let line := p.line.skipBlanks
  let underlineLevel := if container.isParagraph then Start.underline? s else none
  let details := if dialect.definitions then Start.details? s else none
  if s.head? = some '>' then
    some (p.openBlock Kind.quote (line.advance 1).skipOneBlank)
  else
    match Start.heading? s with
    | some (level, length) => some (p.openBlock (Kind.heading level false) (line.advance length))
    | none =>
        match Start.fence? s with
        | some (mark, length) =>
            let offset := p.line.rest.length - line.rest.length
            some (p.openBlock (Kind.fenced mark length offset) (line.advance length))
        | none =>
            match (Start.html? s).or (if container.isParagraph then none else Start.htmlTag? s) with
            | some kind => some (p.openBlock (Kind.html kind) p.line)
            | none =>
                match underlineLevel with
                | some level => some (p.underline level)
                | none =>
                    if Start.isRule s then
                      some (p.openBlock Kind.rule line.skipAll)
                    else
                      match if dialect.notes && depth < maxDepth then Start.note? s else none with
                      | some (name, length) =>
                          some (p.openBlock (Kind.note name) (line.advance length))
                      | none =>
                          match details with
                          | some length =>
                              (p.openDetails (p.line.indent + length)).map fun branch =>
                                { branch := branch
                                  left := []
                                  line := (line.advance length).skipOneBlank
                                  opened := true }
                          | none => none

def openNext? (dialect : Dialect) (lazyLine : Bool) (depth number : Nat) (p : Progress) :
    Option Progress :=
  match p.branch.kind? with
  | none => none
  | some container =>
      let isIndented := codeIndent ≤ p.line.indent
      match if isIndented then none else p.openUnindented? dialect container depth with
      | some opened => some opened
      | none =>
          match
            if !isIndented && depth < maxDepth then
              Start.item? container.isParagraph p.line.content
            else
              none with
          | some (marker, length) => some (p.openItem marker length number)
          | none =>
              if isIndented then
                if !lazyLine && !p.line.isBlank then
                  some (p.openBlock Kind.indented (p.line.advanceColumns codeIndent))
                else
                  none
              else if dialect.tables then
                match container with
                | Kind.paragraph _ => some p.openTable
                | Kind.table columns => p.openRow columns.length
                | _ => none
              else
                none

/-- Opens blocks as long as the innermost one can hold others; `fuel` bounds
their number. -/
def openAll (dialect : Dialect) (number : Nat) : Nat -> Bool -> Nat -> Progress -> Progress
  | 0, _, _, p => p
  | fuel + 1, lazyLine, depth, p =>
      match p.branch.kind? with
      | none => p
      | some container =>
          if container.isLiteral then
            p
          else
            match p.openNext? dialect lazyLine (depth + 1) number with
            | none => p
            | some next =>
                match next.branch.kind? with
                | none => next
                | some kind =>
                    if kind.acceptsLines then
                      next
                    else
                      openAll dialect number fuel false (depth + 1) next

/-!
# Text
-/

def takesBlank (number : Nat) (hasChildren : Bool) : Kind -> Bool
  | Kind.quote => false
  | Kind.heading _ _ => false
  | Kind.rule => false
  | Kind.fenced _ _ _ => false
  | Kind.item _ line => hasChildren || line ≠ number
  | _ => true

def markBlank (number : Nat) (p : Progress) : Progress :=
  let blank := p.line.isBlank
  match p.branch.frames with
  | [] => p
  | frame :: outer =>
      let hasChildren : Bool := p.left ≠ [] || frame.children ≠ []
      let left :=
        match p.left with
        | first :: inner => { first with blank := first.blank || blank } :: inner
        | [] => []
      let children :=
        match p.left, frame.children with
        | [], last :: before => (if blank then last.markBlank else last) :: before
        | _, children => children
      let frame :=
        { frame with
          blank := blank && takesBlank number hasChildren frame.kind
          children := children }
      { p with
        left := left
        branch :=
          { p.branch with
            frames := frame :: outer.map fun frame => { frame with blank := false } } }

/-- A line that opens nothing behind an open paragraph goes on with it, even when
it does not continue the blocks around it. -/
def isLazy (p : Progress) : Bool :=
  !p.opened && !p.line.isBlank &&
    match p.left.getLast? with
    | some frame => frame.kind.isParagraph
    | none => false

def addText (p : Progress) : Branch :=
  if p.isLazy then
    { p.branch with
      frames :=
        match p.left.reverse ++ p.branch.frames with
        | frame :: outer => frame.addLine p.line.text :: outer
        | [] => [] }
  else
    let branch := p.closeLeft.branch
    let line := p.line.skipBlanks
    match branch.kind? with
    | none => branch
    | some (Kind.html kind) =>
        let branch := branch.modify (Frame.addLine p.line.text)
        if kind.endsOn p.line.content then branch.closeTop else branch
    | some kind =>
        if kind.isLiteral then
          branch.modify (Frame.addLine p.line.text)
        else if p.line.isBlank then
          branch
        else
          match kind with
          | Kind.heading _ false => branch.modify (Frame.addLine (Start.headingText line.rest))
          | Kind.heading _ true => branch.modify (Frame.addLine line.rest)
          | Kind.paragraph _ => branch.modify (Frame.addLine line.rest)
          | _ =>
              (branch.addChild (Kind.paragraph false)).modify (Frame.addLine line.rest)

end Progress

/-!
# Documents
-/

def Branch.readLine (dialect : Dialect) (branch : Branch) (number : Nat) (whole : Text)
    (start : Line) : Branch :=
  match follow whole [] branch.frames.reverse start with
  | none => branch.closeTop
  | some (matched, left, line) =>
      let lazyLine :=
        match branch.kind? with
        | some kind => kind.isParagraph
        | none => false
      let progress : Progress :=
        { branch := { branch with frames := matched }
          left := left
          line := line
          opened := false }
      let progress :=
        progress.openAll dialect number (line.rest.length + 2) lazyLine 0
      (progress.markBlank number).addText

/-- The lines of a source, each ending with a line feed.  Carriage returns end
lines as well, and the character with number zero is replaced. -/
def sourceLines (current : Text) : Text -> List Text
  | [] => if current = [] then [] else [('\n' :: current).reverse]
  | '\r' :: '\n' :: s => ('\n' :: current).reverse :: sourceLines [] s
  | '\r' :: s => ('\n' :: current).reverse :: sourceLines [] s
  | '\n' :: s => ('\n' :: current).reverse :: sourceLines [] s
  | c :: s => sourceLines ((if c = '\x00' then Text.replacementChar else c) :: current) s

def firstLine (s : Text) : Line :=
  match s with
  | '\uFEFF' :: rest => Line.start rest
  | s => Line.start s

def readLines (dialect : Dialect) : Nat -> List Text -> Branch -> Branch
  | _, [], branch => branch
  | number, line :: lines, branch =>
      let start := if number = 1 then firstLine line else Line.start line
      readLines dialect (number + 1) lines (branch.readLine dialect number line start)

def readBlocks (dialect : Dialect) (source : Text) : List Node × References :=
  let start : Branch := { frames := [Frame.ofKind Kind.document], references := [] }
  let branch := readLines dialect 1 (sourceLines [] source) start
  let closed := branch.closeMany (branch.frames.length - 1)
  match closed.frames with
  | document :: _ => (document.children.reverse, closed.references)
  | [] => ([], closed.references)

end Markdown
end Folio
