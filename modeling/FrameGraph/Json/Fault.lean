import FrameGraph.Json.Doc

/-!
# Texts of faults
-/
namespace FrameGraph.Json.Fault

/-- A fault in one phrase; what exactly is wrong with a value is not told. -/
def message : Fault → String
  | malformed => "<json syntax error>"
  | missingField name => s!"missing field `{name}`"
  | duplicateField name => s!"duplicate field `{name}`"
  | unknownVariant name => s!"unknown variant `{name}`"
  | mistyped => "<invalid>"

end FrameGraph.Json.Fault
