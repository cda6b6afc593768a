import Folio.Yaml.BlockScalar

/-!
# Tokens

The tokens of a YAML document are its marks, names and scalars, and the starts and
ends of collections that only the indentation shows.
-/

namespace Folio
namespace Yaml

inductive TokenKind where
  | streamEnd
  | version (major minor : Nat)
  | tagRule (handle expansion : Text)
  | documentStart
  | documentEnd
  | blockListStart
  | blockTableStart
  | blockEnd
  | flowListStart
  | flowListEnd
  | flowTableStart
  | flowTableEnd
  | entry
  | flowEntry
  | key
  | value
  | reference (name : Text)
  | anchor (name : Text)
  | tag (handle suffix : Text)
  | scalar (style : Style) (content : Text)
  deriving DecidableEq

structure Token where
  kind : TokenKind
  start : Mark
  stop : Mark

abbrev Lexed := Except Problem (TokenKind × Place)

/-!
# Names of anchors
-/

def mayFollowName : Option Char -> Bool
  | some c => isBlank c || isBreak c || "?:,]\x7d%@`".toList.contains c
  | none => true

def readName (during : Text) (place : Place) : Except Problem (Text × Place) :=
  let start := place.mark
  let place := place.skip 1
  let name := place.rest.takeWhile isNameChar
  let place := place.skip name.length
  if name = [] || !mayFollowName place.head? then
    Except.error
      (Problem.within during start "did not find expected alphabetic or numeric character"
        place.mark)
  else
    Except.ok (name, place)

/-!
# Tags
-/

structure TagContext where
  isRule : Bool
  start : Mark

namespace TagContext

def refuse (context : TagContext) (rule tag what : Text) (place : Place) : Except Problem α :=
  Except.error
    (Problem.within (if context.isRule then rule else tag) context.start what place.mark)

def refuseAddress (context : TagContext) (what : Text) (place : Place) : Except Problem α :=
  context.refuse "while parsing a %TAG directive" "while parsing a tag" what place

end TagContext

def readHandle (context : TagContext) (place : Place) : Except Problem (Text × Place) :=
  if place.isAt '!' then
    let name := (place.skip 1).rest.takeWhile isNameChar
    let place := place.skip (name.length + 1)
    if place.isAt '!' then
      Except.ok ('!' :: name ++ ['!'], place.skip 1)
    else if context.isRule && name ≠ [] then
      context.refuse "while parsing a tag directive" [] "did not find expected '!'" place
    else
      Except.ok ('!' :: name, place)
  else
    context.refuse "while scanning a tag directive" "while scanning a tag"
      "did not find expected '!'" place

def sequenceLength (byte : Nat) : Nat :=
  if byte < 0x80 then 1
  else if byte < 0xC0 then 0
  else if byte < 0xE0 then 2
  else if byte < 0xF0 then 3
  else if byte < 0xF8 then 4
  else 0

def leadBits (byte count : Nat) : Nat :=
  if count = 1 then byte
  else if count = 2 then byte % 0x20
  else if count = 3 then byte % 0x10
  else byte % 0x08

def readOctet (context : TagContext) (place : Place) : Except Problem (Nat × Place) :=
  let digits := ((place.skip 1).rest.take 2).takeWhile Text.isHexDigit
  if place.isAt '%' && digits.length = 2 then
    Except.ok (Text.hexToNat digits, place.skip 3)
  else
    context.refuseAddress "did not find URI escaped octet" place

def readTrail (context : TagContext) : Nat -> Nat -> Place -> Except Problem (Char × Place)
  | 0, code, place =>
      Except.ok (if code.isValidChar then Char.ofNat code else '\uFFFD', place)
  | count + 1, code, place =>
      match readOctet context place with
      | Except.error problem => Except.error problem
      | Except.ok (byte, next) =>
          if 0x80 ≤ byte ∧ byte < 0xC0 then
            readTrail context count (code * 0x40 + byte % 0x40) next
          else
            context.refuseAddress "found an incorrect trailing UTF-8 octet" place

def readEscapedChar (context : TagContext) (place : Place) : Except Problem (Char × Place) :=
  match readOctet context place with
  | Except.error problem => Except.error problem
  | Except.ok (byte, next) =>
      let count := sequenceLength byte
      if count = 0 then
        context.refuseAddress "found an incorrect leading UTF-8 octet" place
      else
        readTrail context (count - 1) (leadBits byte count) next

def isAddressChar (verbatim : Bool) (c : Char) : Bool :=
  isNameChar c || ";/?:@&=+$.%!~*'()".toList.contains c ||
    (verbatim && (c = ',' || c = '[' || c = ']'))

def readAddressChars (context : TagContext) (verbatim : Bool) :
    Nat -> Text -> Place -> Except Problem (Text × Place)
  | 0, taken, place => Except.ok (taken.reverse, place)
  | fuel + 1, taken, place =>
      match place.head? with
      | some c =>
          if c = '%' then
            match readEscapedChar context place with
            | Except.error problem => Except.error problem
            | Except.ok (c, place) => readAddressChars context verbatim fuel (c :: taken) place
          else if isAddressChar verbatim c then
            readAddressChars context verbatim fuel (c :: taken) (place.skip 1)
          else
            Except.ok (taken.reverse, place)
      | none => Except.ok (taken.reverse, place)

def readAddress (context : TagContext) (verbatim mayBeEmpty : Bool) (place : Place) :
    Except Problem (Text × Place) :=
  match readAddressChars context verbatim (place.rest.length + 1) [] place with
  | Except.error problem => Except.error problem
  | Except.ok (address, place) =>
      if address = [] && !mayBeEmpty then
        context.refuseAddress "did not find expected tag URI" place
      else
        Except.ok (address, place)

def readVerbatimTag (context : TagContext) (place : Place) : Lexed :=
  match readAddress context true false (place.skip 2) with
  | Except.error problem => Except.error problem
  | Except.ok (address, place) =>
      if place.isAt '>' then
        Except.ok (TokenKind.tag [] address, place.skip 1)
      else
        context.refuse [] "while scanning a tag" "did not find the expected '>'" place

def readShortTag (context : TagContext) (place : Place) : Lexed :=
  match readHandle context place with
  | Except.error problem => Except.error problem
  | Except.ok (handle, place) =>
      if 1 < handle.length && handle.getLast? = some '!' then
        (readAddress context false false place).map fun (suffix, place) =>
          (TokenKind.tag handle suffix, place)
      else
        (readAddress context false true place).map fun (more, place) =>
          let suffix := handle.drop 1 ++ more
          if suffix = [] then
            (TokenKind.tag [] ['!'], place)
          else
            (TokenKind.tag ['!'] suffix, place)

def readTag (inFlow : Bool) (place : Place) : Lexed :=
  let context : TagContext := { isRule := false, start := place.mark }
  let tag :=
    if place.startsWith "!<" then readVerbatimTag context place else readShortTag context place
  match tag with
  | Except.error problem => Except.error problem
  | Except.ok (tag, place) =>
      if Place.isGap place.head? || (inFlow && place.isAt ',') then
        Except.ok (tag, place)
      else
        context.refuse [] "while scanning a tag" "did not find expected whitespace or line break"
          place

/-!
# Directives
-/

def whileDirective : Text :=
  "while scanning a directive"

def whileVersion : Text :=
  "while scanning a %YAML directive"

def whileTagRule : Text :=
  "while scanning a %TAG directive"

def readVersionNumber (start : Mark) (place : Place) : Except Problem (Nat × Place) :=
  let digits := place.rest.takeWhile Char.isDigit
  if digits = [] then
    Except.error
      (Problem.within whileVersion start "did not find expected version number" place.mark)
  else if 9 < digits.length then
    Except.error
      (Problem.within whileVersion start "found extremely long version number"
        (place.skip 9).mark)
  else
    Except.ok (Text.toNat digits, place.skip digits.length)

def readVersion (start : Mark) (place : Place) : Lexed :=
  match readVersionNumber start place.skipBlanks with
  | Except.error problem => Except.error problem
  | Except.ok (major, place) =>
      if place.isAt '.' then
        (readVersionNumber start (place.skip 1)).map fun (minor, place) =>
          (TokenKind.version major minor, place)
      else
        Except.error
          (Problem.within whileVersion start "did not find expected digit or '.' character"
            place.mark)

def readTagRule (start : Mark) (place : Place) : Lexed :=
  let context : TagContext := { isRule := true, start := start }
  match readHandle context place.skipBlanks with
  | Except.error problem => Except.error problem
  | Except.ok (handle, place) =>
      if Place.satisfies isBlank place.head? then
        match readAddress context true false place.skipBlanks with
        | Except.error problem => Except.error problem
        | Except.ok (address, place) =>
            if Place.isGap place.head? then
              Except.ok (TokenKind.tagRule handle address, place)
            else
              Except.error
                (Problem.within whileTagRule start
                  "did not find expected whitespace or line break" place.mark)
      else
        Except.error
          (Problem.within whileTagRule start "did not find expected whitespace" place.mark)

def readDirectiveBody (start : Mark) (name : Text) (place : Place) : Lexed :=
  if name = "YAML".toList then
    readVersion start place
  else if name = "TAG".toList then
    readTagRule start place
  else
    Except.error
      (Problem.within whileDirective start "found unknown directive name" place.mark)

def readDirective (place : Place) : Except Problem (TokenKind × Mark × Place) :=
  let start := place.mark
  let place := place.skip 1
  let name := place.rest.takeWhile isNameChar
  let place := place.skip name.length
  let refuse (what : Text) (place : Place) : Except Problem (TokenKind × Mark × Place) :=
    Except.error (Problem.within whileDirective start what place.mark)
  if name = [] then
    refuse "could not find expected directive name" place
  else if !Place.isGap place.head? then
    refuse "found unexpected non-alphabetical character" place
  else
    match readDirectiveBody start name place with
    | Except.error problem => Except.error problem
    | Except.ok (token, place) =>
        let stop := place.mark
        let place := place.skipBlanks.skipComment
        if Place.isBreakOrEnd place.head? then
          Except.ok (token, stop, place.skipBreak)
        else
          refuse "did not find expected comment or line break" place

end Yaml
end Folio
