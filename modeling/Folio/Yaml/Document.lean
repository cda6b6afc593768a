import Folio.Yaml.NodeReader
import Folio.Yaml.Tokens

/-!
# Reading a YAML document

A document may begin with directives.  Only the first document of a text is read;
whether another one follows is noted.
-/

namespace Folio
namespace Yaml

/-- What is known of a text: the tree of its first document, the nodes with anchors,
the problem that ended reading, and whether there is more than one document. -/
structure Document where
  root : Node
  anchored : Anchored
  failed : Option Problem
  hasMore : Bool

/-!
# Directives
-/

structure Directives where
  hasVersion : Bool
  tagRules : List (Text × Text)

def Directives.none : Directives where
  hasVersion := false
  tagRules := []

def defaultTagRules : List (Text × Text) :=
  [("!", "!"), ("!!", "tag:yaml.org,2002:")]

def isKnownVersion (major minor : Nat) : Bool :=
  major = 1 && (minor = 1 || minor = 2)

def Directives.take (directives : Directives) : TokenKind -> Option (Except Text Directives)
  | TokenKind.version major minor =>
      some <|
        if directives.hasVersion then
          Except.error "found duplicate %YAML directive"
        else if isKnownVersion major minor then
          Except.ok { directives with hasVersion := true }
        else
          Except.error "found incompatible YAML document"
  | TokenKind.tagRule handle expansion =>
      some <|
        if directives.tagRules.any fun rule => rule.1 == handle then
          Except.error "found duplicate %TAG directive"
        else
          Except.ok { directives with tagRules := (handle, expansion) :: directives.tagRules }
  | _ => Option.none

def readDirectives : Nat -> Directives -> NodeReader -> NodeReader
  | 0, _, reader => reader.exhausted
  | fuel + 1, directives, reader =>
      match reader.head? with
      | none => reader.exhausted
      | some token =>
          match directives.take token.kind with
          | none => { reader with tagRules := directives.tagRules ++ defaultTagRules }
          | some (Except.error what) => reader.fail (Problem.plain what token.start)
          | some (Except.ok directives) => readDirectives fuel directives reader.skip

/-!
# The root
-/

def Document.broken (reader : NodeReader) : Document where
  root := Node.broken
  anchored := reader.anchored
  failed := reader.failed
  hasMore := false

def endsDocument : TokenKind -> Bool
  | TokenKind.version _ _ => true
  | TokenKind.tagRule _ _ => true
  | TokenKind.documentStart => true
  | TokenKind.documentEnd => true
  | TokenKind.streamEnd => true
  | _ => false

def isStreamEnd (token : Token) : Bool :=
  token.kind = TokenKind.streamEnd

def readAfter (root : Node) (reader : NodeReader) : Document :=
  match reader.head? with
  | none => { Document.broken reader.exhausted with root := root }
  | some _ =>
      let rest := reader.tokens.dropWhile fun token => token.kind = TokenKind.documentEnd
      let hasMore : Bool :=
        match rest.head? with
        | some token => !isStreamEnd token
        | none => true
      { root := root, anchored := reader.anchored, failed := none, hasMore := hasMore }

/-- The number of steps that always suffice for some tokens. -/
def stepBound (reader : NodeReader) : Nat :=
  8 * reader.tokens.length + 16

def readRoot (reader : NodeReader) : Document :=
  let (root, reader) := readNode true false (stepBound reader) reader
  if reader.failed.isSome then
    { Document.broken reader with root := root }
  else
    readAfter root reader

def readMarked (reader : NodeReader) : Document :=
  match reader.head? with
  | none => Document.broken reader.exhausted
  | some token =>
      if endsDocument token.kind then
        readAfter (emptyNode token.start) reader
      else
        readRoot reader

def readExplicit (reader : NodeReader) : Document :=
  let reader := readDirectives (stepBound reader) Directives.none reader
  match reader.failed, reader.head? with
  | none, some token =>
      if token.kind = TokenKind.documentStart then
        readMarked reader.skip
      else
        Document.broken
          (reader.fail (Problem.plain "did not find expected <document start>" token.start))
  | none, none => Document.broken reader.exhausted
  | some _, _ => Document.broken reader

def isDirective : TokenKind -> Bool
  | TokenKind.version _ _ => true
  | TokenKind.tagRule _ _ => true
  | _ => false

def readFirst (reader : NodeReader) : Document :=
  match reader.head? with
  | none => Document.broken reader.exhausted
  | some token =>
      if isStreamEnd token then
        { root := emptyNode token.start, anchored := [], failed := none, hasMore := false }
      else if isDirective token.kind || token.kind = TokenKind.documentStart then
        readExplicit reader
      else
        readRoot { reader with tagRules := defaultTagRules }

/-!
# Whole texts
-/

def forbidden? (offset : Nat) : Text -> Option Nat
  | [] => none
  | c :: s => if isAllowed c then forbidden? (offset + c.utf8Size) s else some offset

def forbiddenMessage (offset : Nat) : Text :=
  let place : Text := if offset = 0 then [] else " at position " ++ Text.ofNat offset
  "control characters are not allowed" ++ place

def Document.read (source : Text) : Document :=
  match forbidden? 0 source with
  | some offset =>
      { root := Node.broken
        anchored := []
        failed := some (Problem.plain (forbiddenMessage offset) Mark.origin)
        hasMore := false }
  | none =>
      let body :=
        match source with
        | '\uFEFF' :: body => body
        | body => body
      let (tokens, problem) := tokens body
      readFirst (NodeReader.ofTokens tokens problem)

end Yaml
end Folio
