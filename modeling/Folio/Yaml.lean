import Folio.Settings.Decoding
import Folio.Yaml.Document

/-!
# Settings in YAML

A document that does not hold settings is reported with the path to the part at
fault and its mark.  What is wrong with the settings comes before what is wrong with
the rest of the document.
-/

namespace Folio
namespace Yaml

def tooMany : Text :=
  "deserializing from YAML containing more than one document is not supported"

def Document.value (document : Document) : Value :=
  document.root.value document.anchored Node.aliasDepth

def Document.problemMessage (document : Document) : Text :=
  match document.failed with
  | some problem => problem.message
  | none => []

def Document.faultMessage (document : Document) (fault : Fault) : Text :=
  if fault.cause = Cause.endOfDocument then
    document.problemMessage
  else
    let (path, mark) := document.root.locate document.anchored [] fault.path
    let lead : Text := if path = [] then [] else path ++ (": " : Text)
    lead ++ fault.cause.message Format.yaml ++ (mark.map Mark.words).getD []

def settings (source : Text) : Except Text Settings :=
  let document := Document.read source
  match Settings.decode Format.yaml document.value with
  | Except.error fault => Except.error (document.faultMessage fault)
  | Except.ok settings =>
      if document.failed.isSome then
        Except.error document.problemMessage
      else if document.hasMore then
        Except.error tooMany
      else
        Except.ok settings

end Yaml
end Folio
