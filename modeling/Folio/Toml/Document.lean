import Folio.Toml.Draft

/-!
# Reading a TOML document

A document is a row of lines: comments, key-value lines and headers.
-/

namespace Folio
namespace Toml

open Reader

/-!
# Values
-/

def orString (read : Reader α) : Reader α :=
  expecting "`'`" (expecting "`\"`" (naming "string" read))

def word (s : Text) (content : Scalar) : Reader Scalar :=
  orString (commit (literal s) *> pure content)

def numeric : Reader (Option Scalar) :=
  ((dateTime *> pure none).orElse (some <$> float)).orElse (some <$> integer)

def scalarItem (read : Reader Scalar) : Reader Item := do
  let (content, span) <- spanned read
  pure (Item.scalar content span)

def startsNumber (c : Char) : Bool :=
  c.isDigit || c = '+' || c = '-'

def arrayElements (value : Reader Item) : Reader (List Item) := do
  if <- ahead [']'] then
    pure []
  else
    let elements <- optional <| separated (literal [',']) do
      gap
      let item <- value
      gap
      pure item
    if elements.isSome then
      let _ <- optional (literal [','])
    gap
    pure (elements.getD [])

def array (value : Reader Item) : Reader Item := do
  let (elements, span) <- spanned do
    literal ['[']
    let elements <- commit (arrayElements value)
    expecting "`]`" (naming "array" (commit (literal [']'])))
    pure elements
  pure (Item.array elements span)

def assignment : Reader Unit :=
  expecting "`=`" (expecting "`.`" (literal ['=']))

def splitPath (path : List Key) : List Key × Key :=
  (path.dropLast, path.getLast?.getD { name := [], span := { start := 0, stop := 0 } })

def pair (value : Reader Item) : Reader (List Key × Key × Item) := do
  let path <- dottedKey
  commit do
    assignment
    blanks
    let item <- value
    blanks
    let (path, key) := splitPath path
    pure (path, key, item)

def insertAll (entries : Entries) : List (List Key × Key × Item) -> Except Clash Entries
  | [] => Except.ok entries
  | (path, key, item) :: rest =>
      match Entries.insert Origin.bracePath none path key item Origin.braces entries with
      | Except.ok entries => insertAll entries rest
      | Except.error clash => Except.error clash

def inlineEntries (value : Reader Item) : Reader Entries := do
  let start <- get
  let pairs <- optional (separated (literal [',']) (pair value))
  blanks
  match insertAll [] (pairs.getD []) with
  | Except.ok entries => pure entries
  | Except.error clash => refuse start clash.message

def inlineTable (value : Reader Item) : Reader Item := do
  let (entries, span) <- spanned do
    literal ['\x7b']
    let entries <- commit (inlineEntries value)
    expecting "`\x7d`" (naming "inline table" (commit (literal ['\x7d'])))
    pure entries
  pure (Item.table Origin.braces (some span) entries)

def valueWith (inner : Option (Reader Item)) : Reader Item := do
  let start <- get
  let nested (read : Reader Item -> Reader Item) : Reader Item :=
    match inner with
    | some value => read value
    | none => commit (refuse start tooDeep)
  match <- peek with
  | '[' => nested array
  | '\x7b' => nested inlineTable
  | '_' => expecting "leading digit" (scalarItem integer)
  | '.' => expecting "leading digit" (scalarItem float)
  | 't' => scalarItem (word "true" (Scalar.bool true))
  | 'f' => scalarItem (word "false" (Scalar.bool false))
  | 'i' => scalarItem (orString infinity)
  | 'n' => scalarItem (orString notANumber)
  | c =>
      if c = '"' ∨ c = '\'' then
        scalarItem (Scalar.text <$> string)
      else if startsNumber c then
        let (content, span) <- spanned numeric
        match content with
        | some content => pure (Item.scalar content span)
        | none => pure (Item.date span)
      else
        orString fail

def value : Nat -> Reader Item
  | 0 => valueWith none
  | depth + 1 => valueWith (some (value depth))

/-!
# Lines
-/

def orLineEnd (read : Reader α) : Reader α :=
  expecting "`#`" (expecting "newline" read)

def accept (start : Cursor) : Except Clash Draft -> Reader Draft
  | Except.ok draft => pure draft
  | Except.error clash => refuse start clash.message

def keyValueLine (draft : Draft) : Reader Draft := do
  let start <- get
  let path <- dottedKey
  let item <- commit do
    assignment
    blanks
    let item <- value depthLimit
    orLineEnd lineTrailing
    pure item
  let (path, key) := splitPath path
  accept start (draft.insert path key item)

def bracketed (opening closing : Text) : Reader (List Key × Span) :=
  spanned do
    literal opening
    let path <- commit dottedKey
    expecting ('`' :: closing ++ ['`']) (expecting "`.`" (commit (literal closing)))
    pure path

def headerLine (draft : Draft) : Reader Draft :=
  naming "table header" do
    let start <- get
    let lead <- takeSome 2 2 fun _ => true
    set start
    let isRow := lead = ['[', '[']
    let (path, span) <- if isRow then bracketed "[[" "]]" else bracketed ['['] [']']
    commit (orLineEnd lineTrailing)
    let (path, key) := splitPath path
    accept start (if isRow then draft.openRow path key span else draft.openTable path key span)

def line (draft : Draft) (c : Char) : Reader Draft :=
  if c = '#' then
    commit (comment *> lineEnd) *> pure draft
  else if c = '[' then
    commit (headerLine draft)
  else if c = '\n' ∨ c = '\r' then
    newline *> pure draft
  else
    commit (keyValueLine draft)

/-- The lines of a document; every one of them takes a character at least, so that
`fuel` may be the number of characters. -/
def linesWithin (draft : Draft) : Nat -> Reader Draft
  | 0 => pure draft
  | fuel + 1 => do
      match <- peek? with
      | none => pure draft
      | some c =>
          match <- optional (line draft c) with
          | none => pure draft
          | some draft =>
              blanks
              linesWithin draft fuel

def document : Reader Item := do
  let _ <- optional (literal ['\uFEFF'])
  blanks
  let cursor <- get
  let draft <- linesWithin Draft.empty (cursor.rest.length + 1)
  endOfText
  let stop <- get
  match draft.finish with
  | Except.ok item => pure item
  | Except.error clash => refuse stop clash.message

end Toml
end Folio
