import Folio.Text.Decode

/-!
# Code blocks of a page

A code block of a page is `<pre><code>` with an optional language label, code
without tags, and the closing tags.  A page is cut into its code blocks, from
left to right, and the markup between them.
-/

namespace Folio
namespace Highlight

/-- The label of a code block, as it is written, and its code, still escaped. -/
structure CodeBlock where
  label : Option Text
  body : Text
  deriving DecidableEq

namespace CodeBlock

def opening : Text :=
  "<pre><code"

def labelStart : Text :=
  " class=\"language-"

def ending : Text :=
  "</code></pre>"

def body? (label : Option Text) (s : Text) : Option (CodeBlock × Text) :=
  match Text.after? ending (s.dropWhile fun c => c ≠ '<') with
  | some rest => some ({ label := label, body := s.takeWhile fun c => c ≠ '<' }, rest)
  | none => none

def rest? (s : Text) : Option (CodeBlock × Text) :=
  match Text.after? labelStart s with
  | some s =>
      let label := s.takeWhile fun c => c ≠ '"'
      if label = [] then
        none
      else
        match Text.after? "\">" (s.dropWhile fun c => c ≠ '"') with
        | some s => body? (some label) s
        | none => none
  | none =>
      match s with
      | '>' :: s => body? none s
      | _ => none

def front? (s : Text) : Option (CodeBlock × Text) :=
  match Text.after? opening s with
  | some s => rest? s
  | none => none

def code (block : CodeBlock) : Text :=
  Text.decodeCode block.body

/-- A page with every code block replaced; `fuel` bounds the steps, of which there
are no more than characters. -/
def replaceWithin (f : CodeBlock -> Text) : Nat -> Text -> Text
  | 0, s => s
  | _ + 1, [] => []
  | fuel + 1, c :: s =>
      match front? (c :: s) with
      | some (block, rest) => f block ++ replaceWithin f fuel rest
      | none => c :: replaceWithin f fuel s

def replaceAll (f : CodeBlock -> Text) (page : Text) : Text :=
  replaceWithin f page.length page

end CodeBlock

end Highlight
end Folio
