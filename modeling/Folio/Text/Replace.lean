import Folio.Text

/-!
# Literal replacement

Replacement reads a text from left to right and puts the new text in place of
each occurrence of the sought one.  Occurrences never overlap: after a
replacement the search goes on behind the occurrence.
-/

namespace Folio
namespace Text

/-- Every occurrence of `needle` in a text, replaced by `new`.  An empty
`needle` has no occurrence. -/
def replaceAll (needle new : Text) : Text -> Text
  | [] => []
  | c :: s =>
      if needle ≠ [] ∧ startsWith needle (c :: s) then
        new ++ replaceAll needle new (s.drop (needle.length - 1))
      else
        c :: replaceAll needle new s
termination_by s => s.length
decreasing_by
  · rw [List.length_drop, List.length_cons]
    omega
  · rw [List.length_cons]
    omega

end Text
end Folio
