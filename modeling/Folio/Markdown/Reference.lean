import Folio.Text.Case
import Folio.Text.Space
import Folio.Markdown.Scan

/-!
# Link references

A paragraph may begin with definitions that give a label a destination and a
title.  Labels match without regard to case and to the amount of white space;
the first definition of a label counts.
-/

namespace Folio
namespace Markdown

def collapseSpace : Bool -> Text -> Text
  | _, [] => []
  | inSpace, c :: s =>
      if Text.isSpace c then
        if inSpace then collapseSpace true s else ' ' :: collapseSpace true s
      else
        c :: collapseSpace false s

def displayLabel (label : Text) : Text :=
  collapseSpace false (Text.trimAscii label)

def normalLabel (label : Text) : Text :=
  Text.fold (displayLabel label)

structure Reference where
  label : Text
  destination : Text
  title : Text

abbrev References := List Reference

namespace References

def find? (references : References) (label : Text) : Option Reference :=
  List.find? (fun reference => reference.label == normalLabel label) references

def add (references : References) (reference : Reference) : References :=
  if reference.label = [] ∨ references.any (fun other => other.label == reference.label) then
    references
  else
    references ++ [reference]

end References

def skipBlanks (s : Text) : Text :=
  s.dropWhile Text.isSpaceOrTab

def lineEnd? : Text -> Option Text
  | [] => some []
  | '\n' :: s => some s
  | _ :: _ => none

def skipBlankLine (s : Text) : Text :=
  match lineEnd? (skipBlanks s) with
  | some rest => skipBlanks rest
  | none => skipBlanks s

/-- A definition at the start of a paragraph and the text behind its line.  A
title that does not end its line counts, but is left in the paragraph. -/
def definition? (s : Text) : Option (Reference × Text) := do
  let (label, s) <- label? s
  if label = [] then none else
  let s <- Scan.char ':' s
  let (destination, afterDestination) <- destination? (skipBlankLine s)
  let beforeTitle := skipBlankLine afterDestination
  let titled := if beforeTitle.length = afterDestination.length then none else title? beforeTitle
  let reference := fun title : Text =>
    { label := normalLabel label
      destination := cleanDestination destination
      title := cleanText title : Reference }
  match titled with
  | some (title, afterTitle) =>
      match lineEnd? (skipBlanks afterTitle) with
      | some rest => some (reference title, rest)
      | none =>
          let rest <- lineEnd? (skipBlanks afterDestination)
          some (reference title, rest)
  | none =>
      let rest <- lineEnd? (skipBlanks afterDestination)
      some (reference [], rest)

def takeDefinitions : Nat -> References -> Text -> References × Text
  | 0, references, s => (references, s)
  | limit + 1, references, s =>
      match definition? s with
      | some (reference, rest) => takeDefinitions limit (references.add reference) rest
      | none => (references, s)

def startsBlank : Text -> Bool
  | [] => true
  | c :: s => c = '\n' || (Text.isSpaceOrTab c && startsBlank s)

end Markdown
end Folio
