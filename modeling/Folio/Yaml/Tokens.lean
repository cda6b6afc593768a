import Folio.Yaml.Token

/-!
# The tokens of a document

Tokens are read from left to right.  A key of one line is known as one only when
its colon comes, so that the token for it is put in afterwards; until then no token
from it on is certain.
-/

namespace Folio
namespace Yaml

/-- A place where a key of one line may have begun, with the number of tokens before
it.  A required one has to be a key, since nothing else may stand there. -/
structure PossibleKey where
  number : Nat
  required : Bool
  mark : Mark

/-- What has been read: the tokens, the last one first, and how many of them are
certain; the indentation of the open blocks; whether a key may begin; and the
possible key of each open bracket, the innermost first. -/
structure TokenReader where
  place : Place
  tokens : List Token
  count : Nat
  certain : Nat
  indent : Int
  indents : List Int
  keyAllowed : Bool
  keys : List (Option PossibleKey)

namespace TokenReader

def start (place : Place) : TokenReader where
  place := place
  tokens := []
  count := 0
  certain := 0
  indent := -1
  indents := []
  keyAllowed := true
  keys := [none]

def inFlow (reader : TokenReader) : Bool :=
  1 < reader.keys.length

def mark (reader : TokenReader) : Mark :=
  reader.place.mark

def innerIndent (reader : TokenReader) : Nat :=
  (reader.indent + 1).toNat

def problem (reader : TokenReader) (what : Text) : Except Problem α :=
  Except.error (Problem.plain what reader.mark)

/-!
# Adding tokens
-/

def push (reader : TokenReader) (token : Token) : TokenReader :=
  { reader with tokens := token :: reader.tokens, count := reader.count + 1 }

/-- Puts a token in after the first `number` ones. -/
def insert (reader : TokenReader) (number : Nat) (token : Token) : TokenReader :=
  { reader with
    tokens := reader.tokens.insertIdx (reader.count - number) token
    count := reader.count + 1 }

def pushHere (reader : TokenReader) (kind : TokenKind) : TokenReader :=
  reader.push { kind := kind, start := reader.mark, stop := reader.mark }

def take (reader : TokenReader) (kind : TokenKind) (n : Nat) : TokenReader :=
  let next := reader.place.skip n
  { reader.push { kind := kind, start := reader.mark, stop := next.mark } with place := next }

/-!
# Possible keys
-/

def missingColon (reader : TokenReader) (key : PossibleKey) : Except Problem α :=
  Except.error
    (Problem.within "while scanning a simple key" key.mark "could not find expected ':'"
      reader.mark)

/-- Keys end on their line and have at most 1024 characters. -/
def isStale (reader : TokenReader) (key : PossibleKey) : Bool :=
  key.mark.line < reader.mark.line || key.mark.index + 1024 < reader.mark.index

def dropStaleFrom (reader : TokenReader) :
    List (Option PossibleKey) -> Except Problem (List (Option PossibleKey))
  | [] => Except.ok []
  | none :: rest => (dropStaleFrom reader rest).map fun rest => none :: rest
  | some key :: rest =>
      match dropStaleFrom reader rest with
      | Except.error problem => Except.error problem
      | Except.ok rest =>
          if reader.isStale key then
            if key.required then reader.missingColon key else Except.ok (none :: rest)
          else
            Except.ok (some key :: rest)

def dropStale (reader : TokenReader) : Except Problem TokenReader :=
  (reader.dropStaleFrom reader.keys).map fun keys => { reader with keys := keys }

def dropKey (reader : TokenReader) : Except Problem TokenReader :=
  match reader.keys with
  | some key :: rest =>
      if key.required then
        reader.missingColon key
      else
        Except.ok { reader with keys := none :: rest }
  | _ => Except.ok reader

def saveKey (reader : TokenReader) : Except Problem TokenReader :=
  if reader.keyAllowed then
    match reader.dropKey with
    | Except.error problem => Except.error problem
    | Except.ok reader =>
        let key : PossibleKey :=
          { number := reader.count
            required := !reader.inFlow && reader.indent = reader.mark.column
            mark := reader.mark }
        Except.ok { reader with keys := some key :: reader.keys.drop 1 }
  else
    Except.ok reader

def allowKey (reader : TokenReader) (allowed : Bool) : TokenReader :=
  { reader with keyAllowed := allowed }

/-!
# Indentation
-/

/-- Opens a block at a column that is indented further than the open ones.  The token
for it is put in after the first `number` tokens. -/
def openBlock (reader : TokenReader) (kind : TokenKind) (number : Nat) (mark : Mark) :
    TokenReader :=
  if !reader.inFlow && reader.indent < mark.column then
    { reader.insert number { kind := kind, start := mark, stop := mark } with
      indents := reader.indent :: reader.indents
      indent := mark.column }
  else
    reader

def closeIndents (reader : TokenReader) (column indent : Int) : List Int -> TokenReader
  | [] => { reader with indent := indent, indents := [] }
  | outer :: rest =>
      if column < indent then
        closeIndents (reader.pushHere TokenKind.blockEnd) column outer rest
      else
        { reader with indent := indent, indents := outer :: rest }

def closeBlocks (reader : TokenReader) (column : Int) : TokenReader :=
  if reader.inFlow then reader else reader.closeIndents column reader.indent reader.indents

/-!
# Space between tokens
-/

def skipGap : Nat -> TokenReader -> TokenReader
  | 0, reader => reader
  | fuel + 1, reader =>
      let place :=
        if reader.mark.index = 0 && reader.place.isAt '\uFEFF' then
          reader.place.skip 1
        else
          reader.place
      let tabs := reader.inFlow || !reader.keyAllowed
      let place := (place.skipWhile fun c => c = ' ' || (tabs && c = '\t')).skipComment
      if Place.satisfies isBreak place.head? then
        skipGap fuel
          { reader with
            place := place.skipBreak
            keyAllowed := reader.keyAllowed || !reader.inFlow }
      else
        { reader with place := place }

/-!
# Reading one token
-/

def accept (reader : TokenReader) (lexed : Lexed) : Except Problem TokenReader :=
  lexed.map fun (kind, place) =>
    { reader.push { kind := kind, start := reader.mark, stop := place.mark } with place := place }

def readEnd (reader : TokenReader) : Except Problem TokenReader :=
  let mark := reader.mark
  let mark :=
    if mark.column = 0 then mark else { mark with line := mark.line + 1, column := 0 }
  let reader := { reader with place := { reader.place with mark := mark } }
  ((reader.closeBlocks (-1)).dropKey).map fun reader =>
    (reader.allowKey false).pushHere TokenKind.streamEnd

def readDirectiveLine (reader : TokenReader) : Except Problem TokenReader := do
  let reader <- (reader.closeBlocks (-1)).dropKey
  let (kind, stop, place) <- readDirective reader.place
  let token : Token := { kind := kind, start := reader.mark, stop := stop }
  return { (reader.allowKey false).push token with place := place }

def readDocumentMark (reader : TokenReader) (kind : TokenKind) : Except Problem TokenReader :=
  (reader.closeBlocks (-1)).dropKey.map fun reader => (reader.allowKey false).take kind 3

def readFlowStart (reader : TokenReader) (kind : TokenKind) : Except Problem TokenReader :=
  reader.saveKey.map fun reader =>
    { ((reader.allowKey true).take kind 1) with keys := none :: reader.keys }

def readFlowEnd (reader : TokenReader) (kind : TokenKind) : Except Problem TokenReader :=
  reader.dropKey.map fun reader =>
    let keys := if reader.inFlow then reader.keys.drop 1 else reader.keys
    { ((reader.allowKey false).take kind 1) with keys := keys }

def readFlowEntry (reader : TokenReader) : Except Problem TokenReader :=
  reader.dropKey.map fun reader => (reader.allowKey true).take TokenKind.flowEntry 1

def readBlockEntry (reader : TokenReader) : Except Problem TokenReader :=
  if !reader.inFlow && !reader.keyAllowed then
    reader.problem "block sequence entries are not allowed in this context"
  else
    (reader.openBlock TokenKind.blockListStart reader.count reader.mark).dropKey.map
      fun reader => (reader.allowKey true).take TokenKind.entry 1

def readKey (reader : TokenReader) : Except Problem TokenReader :=
  if !reader.inFlow && !reader.keyAllowed then
    reader.problem "mapping keys are not allowed in this context"
  else
    (reader.openBlock TokenKind.blockTableStart reader.count reader.mark).dropKey.map
      fun reader => (reader.allowKey !reader.inFlow).take TokenKind.key 1

def readValue (reader : TokenReader) : Except Problem TokenReader :=
  match reader.keys with
  | some key :: rest =>
      let token : Token := { kind := TokenKind.key, start := key.mark, stop := key.mark }
      let reader := (reader.insert key.number token).openBlock TokenKind.blockTableStart
        key.number key.mark
      Except.ok (({ reader with keys := none :: rest }.allowKey false).take TokenKind.value 1)
  | _ =>
      if !reader.inFlow && !reader.keyAllowed then
        reader.problem "mapping values are not allowed in this context"
      else
        let reader := reader.openBlock TokenKind.blockTableStart reader.count reader.mark
        Except.ok ((reader.allowKey !reader.inFlow).take TokenKind.value 1)

def readAlias (reader : TokenReader) : Except Problem TokenReader := do
  let reader <- reader.saveKey
  let (name, place) <- readName "while scanning an alias" reader.place
  (reader.allowKey false).accept (Except.ok (TokenKind.reference name, place))

def readAnchor (reader : TokenReader) : Except Problem TokenReader := do
  let reader <- reader.saveKey
  let (name, place) <- readName "while scanning an anchor" reader.place
  (reader.allowKey false).accept (Except.ok (TokenKind.anchor name, place))

def readTagToken (reader : TokenReader) : Except Problem TokenReader := do
  let reader <- reader.saveKey
  (reader.allowKey false).accept (readTag reader.inFlow reader.place)

def readBlockScalar (reader : TokenReader) (literal : Bool) : Except Problem TokenReader := do
  let reader <- reader.dropKey
  let (content, _, place) <- readBlock literal reader.innerIndent reader.place
  let style := if literal then Style.literal else Style.folded
  (reader.allowKey true).accept (Except.ok (TokenKind.scalar style content, place))

def readQuotedScalar (reader : TokenReader) (quote : Char) : Except Problem TokenReader := do
  let reader <- reader.saveKey
  let (content, place) <- readQuoted quote reader.place
  (reader.allowKey false).accept (Except.ok (TokenKind.scalar Style.quoted content, place))

def readPlainScalar (reader : TokenReader) : Except Problem TokenReader := do
  let reader <- reader.saveKey
  let scalar <- readPlain reader.inFlow reader.innerIndent reader.place
  let token : Token :=
    { kind := TokenKind.scalar Style.plain scalar.content
      start := reader.mark
      stop := scalar.stop }
  return { (reader.allowKey scalar.afterBreak).push token with place := scalar.place }

def isIndicator (c : Char) : Bool :=
  "-?:,[]\x7b\x7d#&*!|>'\"%@`".toList.contains c

def startsPlain (reader : TokenReader) (c : Char) : Bool :=
  let next := reader.place.ahead? 1
  !(isBlank c || isBreak c || isIndicator c) ||
    (c = '-' && !Place.satisfies isBlank next) ||
    (!reader.inFlow && (c = '?' || c = ':') && !Place.isGap next)

def readFrom (reader : TokenReader) (c : Char) : Except Problem TokenReader :=
  let beforeGap := Place.isGap (reader.place.ahead? 1)
  if reader.mark.column = 0 && c = '%' then
    reader.readDirectiveLine
  else if reader.place.isDocumentMark then
    reader.readDocumentMark (if c = '-' then TokenKind.documentStart else TokenKind.documentEnd)
  else if c = '[' then
    reader.readFlowStart TokenKind.flowListStart
  else if c = '\x7b' then
    reader.readFlowStart TokenKind.flowTableStart
  else if c = ']' then
    reader.readFlowEnd TokenKind.flowListEnd
  else if c = '\x7d' then
    reader.readFlowEnd TokenKind.flowTableEnd
  else if c = ',' then
    reader.readFlowEntry
  else if c = '-' && beforeGap then
    reader.readBlockEntry
  else if c = '?' && (reader.inFlow || beforeGap) then
    reader.readKey
  else if c = ':' && (reader.inFlow || beforeGap) then
    reader.readValue
  else if c = '*' then
    reader.readAlias
  else if c = '&' then
    reader.readAnchor
  else if c = '!' then
    reader.readTagToken
  else if c = '|' && !reader.inFlow then
    reader.readBlockScalar true
  else if c = '>' && !reader.inFlow then
    reader.readBlockScalar false
  else if c = '\'' || c = '"' then
    reader.readQuotedScalar c
  else if reader.startsPlain c then
    reader.readPlainScalar
  else
    Except.error
      (Problem.within "while scanning for the next token" reader.mark
        "found character that cannot start any token" reader.mark)

def step (reader : TokenReader) : Except Problem TokenReader := do
  let reader <- (skipGap (reader.place.rest.length + 1) reader).dropStale
  let reader := reader.closeBlocks reader.mark.column
  match reader.place.head? with
  | none => reader.readEnd
  | some c => reader.readFrom c

/-- The tokens before the first possible key are certain. -/
def settle (reader : TokenReader) : TokenReader :=
  let pending := reader.keys.filterMap fun key => key.map PossibleKey.number
  { reader with certain := pending.foldl min reader.count }

def isDone (reader : TokenReader) : Bool :=
  match reader.tokens.head? with
  | some token => token.kind = TokenKind.streamEnd
  | none => false

def run : Nat -> TokenReader -> TokenReader × Option Problem
  | 0, reader => (reader, none)
  | fuel + 1, reader =>
      match reader.step >>= dropStale with
      | Except.error problem => (reader, some problem)
      | Except.ok next => if next.isDone then (next.settle, none) else run fuel next.settle

end TokenReader

def tokens (s : Text) : List Token × Option Problem :=
  let (reader, problem) := TokenReader.run (s.length + 2) (TokenReader.start (Place.start s))
  ((reader.tokens.drop (reader.count - reader.certain)).reverse, problem)

end Yaml
end Folio
