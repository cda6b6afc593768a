import Folio.Settings.Decoding
import Folio.Toml.Document

/-!
# Settings in TOML

A document that cannot be read, or that does not hold settings, is reported with
the line at fault and a row of carets under the part at fault.
-/

namespace Folio
namespace Toml

/-!
# Reports
-/

def position (source : Text) (offset : Nat) : Nat × Nat :=
  let inside := min offset (source.length - 1)
  let before := source.take inside
  let lineStart := Text.dropEndWhile (fun c => c ≠ '\n') before
  (lineStart.count '\n', before.length - lineStart.length + (offset - inside))

def report (source : Text) (span : Span) (message : Text) : Text :=
  let (line, column) := position source span.start
  let number := Text.ofNat (line + 1)
  let gutter := List.replicate (number.length + 1) ' '
  let content := ((Text.splitAt '\n' source)[line]?).getD []
  let covered := Text.utf8Length ((source.drop span.start).take (span.stop - span.start))
  let carets := max 1 (min covered (Text.utf8Length content - column))
  "TOML parse error at line " ++ number ++ ", column " ++ Text.ofNat (column + 1) ++ ['\n'] ++
    gutter ++ "|\n" ++
    number ++ " | " ++ content ++ ['\n'] ++
    gutter ++ '|' :: List.replicate (column + 1) ' ' ++ List.replicate carets '^' ++ ['\n'] ++
    message ++ ['\n']

/-!
# Reading
-/

def read (source : Text) : Except Text Item :=
  match document.run (Cursor.start source) with
  | Except.ok (item, _) => Except.ok item
  | Except.error failure =>
      let span : Span := { start := failure.offset, stop := failure.offset + 1 }
      Except.error (report source span failure.message)

def settings (source : Text) : Except Text Settings :=
  match read source with
  | Except.error message => Except.error message
  | Except.ok item =>
      match Settings.decode Format.toml item.value with
      | Except.ok settings => Except.ok settings
      | Except.error fault =>
          let span := (item.locate none fault.path).getD { start := 0, stop := 0 }
          Except.error (report source span (fault.cause.message Format.toml))

end Toml
end Folio
