import Folio.Markdown.Emphasis
import Folio.Markdown.Reference

/-!
# Reading running text

Running text is read from left to right.  What has been read waits as a row of
pieces, the latest first; a closing bracket looks for its opener among them and
a link takes what stands between.
-/

namespace Folio
namespace Markdown

structure InlineContext where
  references : References
  notes : Bool

/-- Kinds of raw markup that are known not to close any more. -/
structure Unclosed where
  comment : Bool
  section_ : Bool
  instruction : Bool
  declaration : Bool

/-- The state of reading: the characters read and those still ahead, the pieces,
whether every open bracket stands before a link already, and what need not be
sought again. -/
structure InlineState where
  behind : Text
  ahead : Text
  pieces : List Piece
  noLink : Bool
  unclosed : Unclosed

namespace InlineState

def start (s : Text) : InlineState where
  behind := []
  ahead := s
  pieces := []
  noLink := true
  unclosed :=
    { comment := false, section_ := false, instruction := false, declaration := false }

def skip : Nat -> InlineState -> InlineState
  | 0, st => st
  | n + 1, st =>
      match st.ahead with
      | [] => st
      | c :: s => skip n { st with behind := c :: st.behind, ahead := s }

def moveTo (st : InlineState) (rest : Text) : InlineState :=
  st.skip (st.ahead.length - rest.length)

def push (st : InlineState) (piece : Piece) : InlineState :=
  { st with pieces := piece :: st.pieces }

def pushNode (st : InlineState) (inline : Inline) : InlineState :=
  st.push (Piece.node inline)

def pushText (st : InlineState) (s : Text) : InlineState :=
  if s = [] then st else st.pushNode (Inline.text s)

/-!
# Breaks and literal text
-/

def newline (st : InlineState) (rest : Text) : InlineState :=
  let inline :=
    match st.behind with
    | ' ' :: ' ' :: _ => Inline.hardBreak
    | _ => Inline.softBreak
  (st.skip (1 + (rest.takeWhile Text.isSpaceOrTab).length)).pushNode inline

def backslash (st : InlineState) (rest : Text) : InlineState :=
  match rest with
  | '\n' :: _ => (st.skip 2).pushNode Inline.hardBreak
  | c :: _ =>
      if Text.isAsciiPunct c then (st.skip 2).pushText [c] else (st.skip 1).pushText ['\\']
  | [] => (st.skip 1).pushText ['\\']

def ampersand (st : InlineState) (rest : Text) : InlineState :=
  match Text.documentReference? rest with
  | some (chars, s) => (st.moveTo s).pushText chars
  | none => (st.skip 1).pushText ['&']

def isSpecial (c : Char) : Bool :=
  c = '\n' || c = '`' || c = '\\' || c = '&' || c = '<' || c = '*' || c = '_' || c = '[' ||
    c = ']' || c = '!'

def afterHardBreak (st : InlineState) : Bool :=
  match st.pieces with
  | Piece.node Inline.hardBreak :: _ => true
  | _ => false

/-- Plain characters up to the next special one.  White space at a line's end,
and at the start of a line behind a hard break, is dropped. -/
def plain (st : InlineState) : InlineState :=
  let chars := st.ahead.takeWhile fun c => !isSpecial c
  let behind := st.skip chars.length
  let s :=
    match behind.ahead with
    | '\n' :: _ => Text.trimAsciiEnd chars
    | _ => chars
  behind.pushText (if st.afterHardBreak then s.dropWhile Text.isAsciiSpace else s)

/-!
# Code
-/

/-- The code before the next run of exactly `count` backticks and the text behind
that run.  The third argument is the length of the run of backticks just read. -/
def closeCode (count : Nat) (taken : Text) (run : Nat) : Text -> Option (Text × Text)
  | [] => if run = count then some ((taken.drop run).reverse, []) else none
  | c :: s =>
      if c = '`' then
        closeCode count (c :: taken) (run + 1) s
      else if run = count ∧ run ≠ 0 then
        some ((taken.drop run).reverse, c :: s)
      else
        closeCode count (c :: taken) 0 s

/-- Code with its line ends made spaces and, unless it is all spaces, without one
space at each end when both are there. -/
def normalCode (s : Text) : Text :=
  let s := s.map fun c => if c = '\n' then ' ' else c
  if s.any (fun c => c ≠ ' ') ∧ s.head? = some ' ' ∧ s.getLast? = some ' ' then
    (s.drop 1).dropLast
  else
    s

def maxBackticks : Nat :=
  80

def backticks (st : InlineState) : InlineState :=
  let ticks := st.ahead.takeWhile fun c => c = '`'
  let rest := st.ahead.drop ticks.length
  match if ticks.length ≤ maxBackticks then closeCode ticks.length [] 0 rest else none with
  | some (code, s) => (st.moveTo s).pushNode (Inline.code (normalCode code))
  | none => (st.skip ticks.length).pushText ticks

/-!
# Raw markup
-/

def html (st : InlineState) (rest : Text) : InlineState :=
  (st.moveTo rest).pushNode (Inline.html (Scan.taken st.ahead rest))

def autolink (st : InlineState) (scheme : Text) (inside rest : Text) : InlineState :=
  let address := Scan.taken inside rest |>.dropLast
  (st.moveTo rest).pushNode
    (Inline.link (scheme ++ Text.resolveReferences (Text.trimAscii address)) []
      [Inline.text (Text.resolveReferences address)])

def giveUp (st : InlineState) (unclosed : Unclosed) : InlineState :=
  { (st.skip 1).pushText ['<'] with unclosed := unclosed }

def declaration (st : InlineState) (s : Text) : InlineState :=
  let asText := (st.skip 1).pushText ['<']
  if st.unclosed.comment then
    asText
  else
    match s with
    | '-' :: '-' :: '>' :: rest => st.html rest
    | '-' :: '-' :: '-' :: '>' :: rest => st.html rest
    | '-' :: '-' :: body =>
        match Scan.commentBody body with
        | some rest => st.html rest
        | none => st.giveUp { st.unclosed with comment := true }
    | '[' :: body =>
        if st.unclosed.section_ then
          asText
        else
          match Text.after? "CDATA[" body with
          | none => asText
          | some body =>
              match Text.after? "]]>" (Scan.sectionBody body) with
              | some rest => st.html rest
              | none => st.giveUp { st.unclosed with section_ := true }
    | s =>
        if st.unclosed.declaration then
          asText
        else
          match Scan.many1 Text.isAsciiAlpha s with
          | none => asText
          | some body =>
              match Scan.char '>' (body.dropWhile fun c => c ≠ '>') with
              | some rest => st.html rest
              | none => st.giveUp { st.unclosed with declaration := true }

def instruction (st : InlineState) (body : Text) : InlineState :=
  if st.unclosed.instruction then
    (st.skip 1).pushText ['<']
  else
    match Text.after? "?>" (Scan.instructionBody body) with
    | some rest => st.html rest
    | none => st.giveUp { st.unclosed with instruction := true }

def angleBracket (st : InlineState) (inside : Text) : InlineState :=
  match Scan.addressLink inside with
  | some rest => st.autolink [] inside rest
  | none =>
      match Scan.mailLink inside with
      | some rest => st.autolink "mailto:" inside rest
      | none =>
          match inside with
          | '!' :: c :: s => st.declaration (c :: s)
          | '?' :: c :: s => st.instruction (c :: s)
          | _ =>
              match Scan.tag inside with
              | some rest => st.html rest
              | none => (st.skip 1).pushText ['<']

/-!
# Emphasis marks
-/

def emphasisRun (st : InlineState) (mark : Char) : InlineState :=
  let marks := st.ahead.takeWhile fun c => c = mark
  let rest := st.ahead.drop marks.length
  let before := st.behind.head?.getD '\n'
  let after := rest.head?.getD '\n'
  let run := Run.between mark marks.length before after
  let st := st.skip marks.length
  if run.canOpen || run.canClose then st.push (Piece.run run) else st.pushText marks

/-!
# Links, images and note calls
-/

def markFollowed : List Piece -> List Piece
  | [] => []
  | Piece.opener image _ inside :: rest => Piece.opener image true inside :: rest
  | piece :: rest => piece :: markFollowed rest

def openBracket (st : InlineState) (image : Bool) (rest : Text) : InlineState :=
  { st.skip (if image then 2 else 1) with
    pieces := Piece.opener image false rest :: markFollowed st.pieces
    noLink := st.noLink && image }

def splitBracket : List Piece -> Option (List Piece × (Bool × Bool × Text) × List Piece)
  | [] => none
  | Piece.opener image followed inside :: rest => some ([], (image, followed, inside), rest)
  | piece :: rest =>
      (splitBracket rest).map fun (inner, found, outer) => (piece :: inner, found, outer)

def inlineTarget? (s : Text) : Option (Text × Text × Text) := do
  let s <- Scan.char '(' s
  let (destination, s) <- destination? (Scan.spaces s)
  let beforeTitle := Scan.spaces s
  let (title, s) :=
    if beforeTitle.length = s.length then
      ([], s)
    else
      (title? beforeTitle).getD ([], beforeTitle)
  let rest <- Scan.char ')' (Scan.spaces s)
  some (cleanDestination destination, cleanText title, rest)

def referenceTarget? (context : InlineContext) (followed : Bool) (own rest : Text) :
    Option (Text × Text × Text) :=
  let labelled :=
    match label? rest with
    | some (label, behind) => if label = [] then (none, behind) else (some label, behind)
    | none => (none, rest)
  let label :=
    match labelled.1 with
    | some label => some label
    | none => if followed then none else some own
  match label with
  | some label =>
      (context.references.find? label).map fun reference =>
        (reference.destination, reference.title, labelled.2)
  | none => none

def nameText : Piece -> Option Text
  | Piece.node (Inline.text s) => some s
  | Piece.node (Inline.html s) => some s
  | Piece.run r => some (List.replicate r.remaining r.mark)
  | _ => none

def isTextPiece : Piece -> Bool
  | Piece.node (Inline.text _) => true
  | Piece.run _ => true
  | _ => false

def noteName? (inner : List Piece) : Option Text :=
  match inner.reverse with
  | [] => none
  | first :: rest =>
      if isTextPiece first then
        match (first :: rest).flatMap fun piece => (nameText piece).getD [] with
        | '^' :: name => some name
        | _ => none
      else
        none

def closeBracket (context : InlineContext) (st : InlineState) (rest : Text) : InlineState :=
  match splitBracket st.pieces with
  | none => (st.skip 1).pushText [']']
  | some (inner, (image, followed, inside), outer) =>
      let opener := Piece.node (Inline.text (if image then "![" else "["))
      let plain : InlineState :=
        { st.skip 1 with
          pieces := Piece.node (Inline.text [']']) :: inner ++ opener :: outer }
      if !image && st.noLink then
        plain
      else
        let own := (Scan.taken inside rest).dropLast
        let target :=
          match inlineTarget? rest with
          | some target => some target
          | none => referenceTarget? context followed own rest
        match target with
        | some (destination, title, behind) =>
            let content := Piece.emphasize inner
            let inline :=
              if image then
                Inline.image destination title content
              else
                Inline.link destination title content
            { st.moveTo behind with
              pieces := Piece.node inline :: outer
              noLink := st.noLink || !image }
        | none =>
            match if context.notes then noteName? inner else none with
            | some name =>
                { st.skip 1 with
                  pieces := inner.filter (fun piece => (nameText piece).isNone) ++
                    Piece.node (Inline.noteCall name 0 0) :: outer }
            | none => plain

/-!
# The reader
-/

def step (context : InlineContext) (st : InlineState) : InlineState :=
  match st.ahead with
  | [] => st
  | '\n' :: rest => st.newline rest
  | '`' :: _ => st.backticks
  | '\\' :: rest => st.backslash rest
  | '&' :: rest => st.ampersand rest
  | '<' :: rest => st.angleBracket rest
  | '*' :: _ => st.emphasisRun '*'
  | '_' :: _ => st.emphasisRun '_'
  | '[' :: rest => st.openBracket false rest
  | ']' :: rest => st.closeBracket context rest
  | '!' :: '[' :: '^' :: _ => (st.skip 1).pushText ['!']
  | '!' :: '[' :: rest => st.openBracket true rest
  | '!' :: _ => (st.skip 1).pushText ['!']
  | _ :: _ => st.plain

def run (context : InlineContext) : Nat -> InlineState -> InlineState
  | 0, st => st
  | fuel + 1, st => if st.ahead = [] then st else run context fuel (st.step context)

end InlineState

def readInlines (context : InlineContext) (s : Text) : List Inline :=
  let s := Text.trimAsciiEnd s
  Piece.emphasize (InlineState.run context s.length (InlineState.start s)).pieces

end Markdown
end Folio
