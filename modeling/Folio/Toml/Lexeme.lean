import Folio.Decimal.Shortest
import Folio.Toml.Reading
import Folio.Value

/-!
# Words of a TOML document

White space, comments, keys, strings and plain values are read here.
-/

namespace Folio
namespace Toml

open Reader

/-!
# White space and comments
-/

def isBlank (c : Char) : Bool :=
  c = ' ' || c = '\t'

def isCommentChar (c : Char) : Bool :=
  c = '\t' || (' ' ≤ c && c ≤ '~') || '\x80' ≤ c

def blanks : Reader Unit := do
  let _ <- takeWhile isBlank

def newline : Reader Unit := do
  match <- peek with
  | '\n' => skip 1
  | '\r' => do
      skip 1
      let _ <- satisfying fun c => c = '\n'
  | _ => failAhead 1

def endOfText : Reader Unit := do
  match <- peek? with
  | none => pure ()
  | some _ => fail

def lineEnd : Reader Unit :=
  newline.orElse endOfText

def comment : Reader Unit := do
  literal ['#']
  let _ <- takeWhile isCommentChar

def lineTrailing : Reader Unit := do
  blanks
  let _ <- optional comment
  lineEnd

def gapStep : Reader Unit := do
  blanks
  match <- peek? with
  | some '#' => do
      comment
      newline
  | some '\n' => newline
  | some '\r' => newline
  | _ => pure ()

def gapWithin : Nat -> Reader Unit
  | 0 => pure ()
  | fuel + 1 => do
      let before <- get
      gapStep
      let after <- get
      match after.rest.head? with
      | none => pure ()
      | some _ => if after.offset = before.offset then pure () else gapWithin fuel

def gap : Reader Unit := do
  let cursor <- get
  gapWithin (cursor.rest.length + 1)

/-!
# Strings
-/

def isHex (c : Char) : Bool :=
  Text.isHexDigit c

def outOfRange : Text :=
  "value is out of range"

def hexEscape (n : Nat) : Reader Char := do
  let start <- get
  let digits <- takeSome 0 n isHex
  let code := Text.hexToNat digits
  if digits.length ≠ n then
    set start
    fail
  else if code < 0xD800 ∨ (0xE000 ≤ code ∧ code ≤ 0x10FFFF) then
    pure (Char.ofNat code)
  else
    refuse start outOfRange

def backquoted (c : Char) : Text :=
  ['`', c, '`']

def escapeLetters : List Char :=
  ['b', 'f', 'n', 'r', 't', 'u', 'U', '\\', '"']

def badEscape (c : Char) : Reader Char :=
  escapeLetters.foldl (fun read letter => read.expecting (backquoted letter))
    (naming "escape sequence" (commit (failAhead (if c.toNat < 128 then 1 else 0))))

def escapeLetter : Reader Char := do
  match <- peek with
  | 'b' => skip 1 *> pure '\x08'
  | 'f' => skip 1 *> pure '\x0c'
  | 'n' => skip 1 *> pure '\n'
  | 'r' => skip 1 *> pure '\r'
  | 't' => skip 1 *> pure '\t'
  | 'u' => skip 1 *> naming "unicode 4-digit hex code" (commit (hexEscape 4))
  | 'U' => skip 1 *> naming "unicode 8-digit hex code" (commit (hexEscape 8))
  | '\\' => skip 1 *> pure '\\'
  | '"' => skip 1 *> pure '"'
  | c => badEscape c

def escaped : Reader Text := do
  literal ['\\']
  let c <- escapeLetter
  pure [c]

def isBasicChar (c : Char) : Bool :=
  isCommentChar c && c ≠ '"' && c ≠ '\\'

def isLiteralChar (c : Char) : Bool :=
  isCommentChar c && c ≠ '\''

def basicString : Reader Text := do
  literal ['"']
  let parts <- many ((takeWhile1 isBasicChar).orElse escaped)
  naming "basic string" (commit (literal ['"']))
  pure parts.flatten

def literalString : Reader Text :=
  naming "literal string" do
    literal ['\'']
    let s <- takeWhile isLiteralChar
    commit (literal ['\''])
    pure s

def lineJoin : Reader Unit := do
  literal ['\\']
  blanks
  newline
  let _ <- many (newline.orElse do let _ <- takeWhile1 isBlank)

def multilineBasicPart : Reader Text :=
  (takeWhile1 isBasicChar).orElse <|
    (do
      lineJoin
      let _ <- many lineJoin
      pure []).orElse <|
    escaped.orElse (newline *> pure ['\n'])

def multilineLiteralPart : Reader Text :=
  (do
    let c <- satisfying isLiteralChar
    pure [c]).orElse (newline *> pure ['\n'])

def lookahead (read : Reader α) : Reader Unit := do
  let cursor <- get
  let _ <- read
  set cursor

def quotesBefore (quote : Char) (next : Reader α) : Reader Text :=
  (do
    literal [quote, quote]
    lookahead next
    pure [quote, quote]).orElse do
      literal [quote]
      lookahead next
      pure [quote]

/-- The body of a string of several lines: parts, with at most two quotes between
them and before the closing quotes. -/
def multilineBody (quote : Char) (part : Reader Text) : Reader Text := do
  let parts <- many part
  let more <- many do
    let quotes <- quotesBefore quote part
    let first <- part
    let others <- many part
    pure (quotes ++ first ++ others.flatten)
  let quotes <- optional (quotesBefore quote (literal [quote, quote, quote]))
  pure (parts.flatten ++ more.flatten ++ quotes.getD [])

def multilineString (quote : Char) (construct : Text) (part : Reader Text) : Reader Text :=
  naming construct do
    literal [quote, quote, quote]
    let _ <- optional newline
    let s <- commit (multilineBody quote part)
    commit (literal [quote, quote, quote])
    pure s

def multilineBasic : Reader Text :=
  multilineString '"' "multiline basic string" multilineBasicPart

def multilineLiteral : Reader Text :=
  multilineString '\'' "multiline literal string" multilineLiteralPart

def string : Reader Text :=
  multilineBasic.orElse <| basicString.orElse <| multilineLiteral.orElse literalString

/-!
# Keys
-/

structure Key where
  name : Text
  span : Span
  deriving DecidableEq

def isBareKeyChar (c : Char) : Bool :=
  Text.isAsciiAlphanum c || c = '-' || c = '_'

def simpleKey : Reader Key := do
  let (name, span) <- spanned do
    match <- peek with
    | '"' => basicString
    | '\'' => literalString
    | _ => takeWhile1 isBareKeyChar
  pure { name := name, span := span }

/-- Values inside one another, and the parts of a key, are at most this many. -/
def depthLimit : Nat :=
  80

def tooDeep : Text :=
  "recursion limit exceeded"

def dottedKey : Reader (List Key) := do
  let start <- get
  let path <- naming "key" <| separated (literal ['.']) do
    blanks
    let key <- simpleKey
    blanks
    pure key
  if depthLimit < path.length then refuse start tooDeep else pure path

/-!
# Whole numbers
-/

def withoutUnderscores (s : Text) : Text :=
  s.filter fun c => c ≠ '_'

def digit (isDigit : Char -> Bool) : Reader Unit := do
  let _ <- satisfying isDigit

def moreDigits (isDigit : Char -> Bool) : Reader Unit := do
  let _ <- many <| (digit isDigit).orElse do
    literal ['_']
    expecting "digit" (commit (digit isDigit))

def sign : Reader Unit := do
  let _ <- optional (satisfying fun c => c = '+' || c = '-')

def decimalDigits : Reader Text :=
  naming "integer" <| taken do
    sign
    Reader.orElse
      (do
        let _ <- satisfying fun c => c.isDigit && c ≠ '0'
        moreDigits Char.isDigit)
      (digit Char.isDigit)

def signedNat (s : Text) : Int :=
  match withoutUnderscores s with
  | '-' :: digits => -(Text.toNat digits : Int)
  | '+' :: digits => Text.toNat digits
  | digits => Text.toNat digits

def fitting (start : Cursor) (n : Int) : Reader Scalar :=
  if n < -Scalar.bound 63 then
    refuse start "number too small to fit in target type"
  else if Scalar.bound 63 ≤ n then
    refuse start "number too large to fit in target type"
  else
    pure (Scalar.int n)

def basedInteger (mark construct : Text) (base : Nat) (isDigit : Char -> Bool) : Reader Scalar := do
  let start <- get
  let digits <- naming construct do
    literal mark
    commit <| taken do
      digit isDigit
      moreDigits isDigit
  let n := (withoutUnderscores digits).foldl (fun n c => base * n + Text.hexValue c) 0
  fitting start n

def integer : Reader Scalar := do
  if <- ahead "0x" then
    commit (basedInteger "0x" "hexadecimal integer" 16 isHex)
  else if <- ahead "0o" then
    commit (basedInteger "0o" "octal integer" 8 fun c => '0' ≤ c && c ≤ '7')
  else if <- ahead "0b" then
    commit (basedInteger "0b" "binary integer" 2 fun c => c = '0' || c = '1')
  else
    let start <- get
    let digits <- decimalDigits
    commit (fitting start (signedNat digits))

/-!
# Numbers with a fraction or an exponent
-/

def anyDigits : Reader Text :=
  taken do
    digit Char.isDigit
    moreDigits Char.isDigit

def fraction : Reader Text := do
  literal ['.']
  expecting "digit" (commit anyDigits)

def exponent : Reader Int := do
  let _ <- satisfying fun c => c = 'e' || c = 'E'
  let s <- taken do
    sign
    commit anyDigits
  pure (signedNat s)

def decimalParts : Reader (Text × Text × Int) := do
  let whole <- decimalDigits
  Reader.orElse
    (do
      let e <- exponent
      pure (whole, [], e))
    (do
      let places <- fraction
      let e <- optional exponent
      pure (whole, places, e.getD 0))

def decimalFloat : Reader Scalar := do
  let start <- get
  let (whole, places, e) <- decimalParts
  let negative := whole.head? = some '-'
  let digits := whole.filter Char.isDigit
  let d := Decimal.ofParts digits (withoutUnderscores places) e
  let s := d.shown negative
  if s = "inf".toList then
    set start
    commit fail
  else
    pure (Scalar.float s)

def infinity : Reader Scalar :=
  literal "inf" *> pure (Scalar.float "inf")

def notANumber : Reader Scalar :=
  literal "nan" *> pure (Scalar.float "NaN")

def specialFloat : Reader Scalar := do
  let negative <- ahead ['-']
  sign
  match <- infinity.orElse notANumber with
  | Scalar.float ['i', 'n', 'f'] => pure (Scalar.float (if negative then "-inf" else "inf"))
  | s => pure s

def float : Reader Scalar :=
  naming "floating-point number" (decimalFloat.orElse specialFloat)

/-!
# Dates and times

Only the form of a date matters, since no setting is one.
-/

def ranged (n least most : Nat) : Reader Nat := do
  let start <- get
  let digits <- takeSome n n Char.isDigit
  let value := Text.toNat digits
  if least ≤ value ∧ value ≤ most then pure value else refuse start outOfRange

def isLeapYear (year : Nat) : Bool :=
  year % 4 = 0 && (year % 100 ≠ 0 || year % 400 = 0)

def monthLength (year month : Nat) : Nat :=
  if month = 2 then
    if isLeapYear year then 29 else 28
  else if month = 4 ∨ month = 6 ∨ month = 9 ∨ month = 11 then
    30
  else
    31

def fullDate : Reader Unit := do
  let year <- ranged 4 0 9999
  literal ['-']
  let month <- commit (ranged 2 1 12)
  commit (literal ['-'])
  let start <- get
  let day <- commit (ranged 2 1 31)
  if monthLength year month < day then commit (refuse start outOfRange) else pure ()

def secondFraction : Reader Unit := do
  literal ['.']
  let _ <- takeWhile1 Char.isDigit

def partialTime : Reader Unit := do
  let _ <- ranged 2 0 23
  literal [':']
  commit do
    let _ <- ranged 2 0 59
    literal [':']
    let _ <- ranged 2 0 60
    let _ <- optional secondFraction

def timeOffset : Reader Unit :=
  naming "time offset" <| Reader.orElse
    (do let _ <- satisfying fun c => c = 'Z' || c = 'z')
    (do
      let _ <- satisfying fun c => c = '+' || c = '-'
      commit do
        let _ <- ranged 2 0 23
        literal [':']
        let _ <- ranged 2 0 59)

def dateTime : Reader Unit :=
  Reader.orElse
    (naming "date-time" do
      fullDate
      let _ <- optional do
        let _ <- satisfying fun c => c = 'T' || c = 't' || c = ' '
        partialTime
        let _ <- optional timeOffset)
    (naming "time" partialTime)

end Toml
end Folio
