import Folio.Text

/-!
# Bytes of texts

Files hold bytes.  A text is stored in UTF-8, and bytes that are no UTF-8 hold no
text.
-/

namespace Folio
namespace Text

def bytes (s : Text) : ByteArray :=
  (String.ofList s).toUTF8

def ofBytes? (stored : ByteArray) : Option Text :=
  (String.fromUTF8? stored).map String.toList

theorem ofBytes?_bytes (s : Text) : ofBytes? (bytes s) = some s := by
  have valid : (String.ofList s).toUTF8.IsValidUTF8 :=
    (String.ofList s).isValidUTF8
  have read : String.fromUTF8 (String.ofList s).toUTF8 valid = String.ofList s :=
    String.toByteArray_inj.mp rfl
  rw [ofBytes?, bytes, String.fromUTF8?, dif_pos valid, read, Option.map_some,
    String.toList_ofList]

theorem foldl_utf8Size (s : Text) (n : Nat) :
    s.foldl (fun n c => n + c.utf8Size) n = n + (s.flatMap String.utf8EncodeChar).length := by
  induction s generalizing n with
  | nil =>
      rfl
  | cons c s ih =>
      rw [List.foldl_cons, ih, List.flatMap_cons, List.length_append,
        String.length_utf8EncodeChar, Nat.add_assoc]

theorem utf8Length_eq_size_bytes (s : Text) : utf8Length s = (bytes s).size := by
  have hbytes : bytes s = (s.flatMap String.utf8EncodeChar).toByteArray := rfl
  rw [hbytes, List.size_toByteArray, utf8Length, foldl_utf8Size, Nat.zero_add]

end Text
end Folio
