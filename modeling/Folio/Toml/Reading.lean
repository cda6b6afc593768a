import Folio.Text

/-!
# Reading with committed failures

A reader takes something off the front of a text or fails.  A failure that is
not committed lets another reader try from the same place; a committed one ends
the reading of the whole document.  What a failure says is collected from the
inside outwards: the construct that was being read, and what was expected there.
-/

namespace Folio
namespace Toml

structure Cursor where
  rest : Text
  offset : Nat

namespace Cursor

def start (s : Text) : Cursor where
  rest := s
  offset := 0

def advance (cursor : Cursor) (n : Nat) : Cursor where
  rest := cursor.rest.drop n
  offset := cursor.offset + n

end Cursor

structure Span where
  start : Nat
  stop : Nat
  deriving DecidableEq

structure Failure where
  offset : Nat
  construct : Option Text
  expected : List Text
  reason : Option Text
  committed : Bool

namespace Failure

def here (offset : Nat) : Failure where
  offset := offset
  construct := none
  expected := []
  reason := none
  committed := false

def message (failure : Failure) : Text :=
  let construct : List Text :=
    match failure.construct with
    | some name => ["invalid " ++ name]
    | none => []
  let expected : List Text :=
    if failure.expected = [] then [] else ["expected " ++ Text.join ", " failure.expected]
  let reason : List Text :=
    match failure.reason with
    | some reason => [reason]
    | none => []
  Text.join ['\n'] (construct ++ expected ++ reason)

end Failure

abbrev Reader := StateT Cursor (Except Failure)

namespace Reader

def fail : Reader α := fun cursor =>
  Except.error (Failure.here cursor.offset)

def failAhead (n : Nat) : Reader α := fun cursor =>
  Except.error (Failure.here (cursor.offset + n))

def refuse (start : Cursor) (reason : Text) : Reader α := fun _ =>
  Except.error { Failure.here start.offset with reason := some reason }

def onFailure (change : Failure -> Failure) (read : Reader α) : Reader α := fun cursor =>
  (read cursor).mapError change

def commit (read : Reader α) : Reader α :=
  read.onFailure fun failure => { failure with committed := true }

def naming (construct : Text) (read : Reader α) : Reader α :=
  read.onFailure fun failure =>
    { failure with construct := some (failure.construct.getD construct) }

def expecting (what : Text) (read : Reader α) : Reader α :=
  read.onFailure fun failure => { failure with expected := failure.expected ++ [what] }

/-- Reads with the second reader, from the same place, where the first one fails
without being committed. -/
def orElse (first second : Reader α) : Reader α := fun cursor =>
  match first cursor with
  | Except.error failure => if failure.committed then Except.error failure else second cursor
  | result => result

def optional (read : Reader α) : Reader (Option α) :=
  orElse (some <$> read) (pure none)

def peek? : Reader (Option Char) := fun cursor =>
  Except.ok (cursor.rest.head?, cursor)

def peek : Reader Char := do
  match <- peek? with
  | some c => pure c
  | none => fail

def ahead (lead : Text) : Reader Bool := fun cursor =>
  Except.ok (Text.startsWith lead cursor.rest, cursor)

def skip (n : Nat) : Reader Unit := fun cursor =>
  Except.ok ((), cursor.advance n)

def satisfying (p : Char -> Bool) : Reader Char := do
  let c <- peek
  if p c then
    skip 1
    pure c
  else
    fail

def literal (s : Text) : Reader Unit := do
  if <- ahead s then skip s.length else fail

def takeWhile (p : Char -> Bool) : Reader Text := fun cursor =>
  let s := cursor.rest.takeWhile p
  Except.ok (s, cursor.advance s.length)

def takeWhile1 (p : Char -> Bool) : Reader Text := do
  let s <- takeWhile p
  match s with
  | [] => fail
  | s => pure s

def takeSome (least most : Nat) (p : Char -> Bool) : Reader Text := fun cursor =>
  let s := (cursor.rest.takeWhile p).take most
  if s.length < least then fail cursor else Except.ok (s, cursor.advance s.length)

/-- Reads again and again while that succeeds and moves on; `fuel` bounds the
rounds. -/
def manyWithin (read : Reader α) : Nat -> Reader (List α)
  | 0 => pure []
  | fuel + 1 => do
      let before <- get
      match <- optional read with
      | none => pure []
      | some a =>
          let after <- get
          if after.offset = before.offset then
            pure [a]
          else
            let others <- manyWithin read fuel
            pure (a :: others)

def many (read : Reader α) : Reader (List α) := do
  let cursor <- get
  manyWithin read cursor.rest.length

def separated (separator : Reader Unit) (read : Reader α) : Reader (List α) := do
  let first <- read
  let others <- many do
    separator
    read
  pure (first :: others)

def taken (read : Reader α) : Reader Text := do
  let before <- get
  let _ <- read
  let after <- get
  pure (before.rest.take (after.offset - before.offset))

def spanned (read : Reader α) : Reader (α × Span) := do
  let before <- get
  let a <- read
  let after <- get
  pure (a, { start := before.offset, stop := after.offset })

end Reader
end Toml
end Folio
