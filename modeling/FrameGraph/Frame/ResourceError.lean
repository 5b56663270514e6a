import FrameGraph.Image.Extent
import FrameGraph.Image.Format

/-!
# Failures inside a frame

An image that cannot be had and an invocation that cannot be run; neither stops
the frame.
-/
namespace FrameGraph

inductive ResourceError where
  | allocationFailed (id : UInt32) (format : PixelFormat) (size : Extent) (reason : String)
  | unknownPass (pass : String)
  | missingSamplerImage (pass : String) (index : Nat) (id : UInt32)
  | missingAttachmentImage (pass : String) (index : Nat) (id : UInt32)
  | attachmentCountMismatch (pass : String) (declared bound : Nat)
  | attachmentSizeMismatch (pass : String) (expected found : Extent)
  | noAttachments (pass : String)
  | drawFailed (pass reason : String)
  deriving DecidableEq, Repr

namespace ResourceError

def message : ResourceError → String
  | allocationFailed id format size reason =>
    s!"failed to allocate image {id.toNat} ({format.title} {size.text}): {reason}"
  | unknownPass pass => s!"invocation of `{pass}` references unknown pass"
  | missingSamplerImage pass index id =>
    s!"missing image {id.toNat} for sampler {index} of `{pass}`"
  | missingAttachmentImage pass index id =>
    s!"missing image {id.toNat} for attachment {index} of `{pass}`"
  | attachmentCountMismatch pass declared bound =>
    s!"invocation of `{pass}` binds {bound} attachments, pass declares {declared}"
  | attachmentSizeMismatch pass expected found =>
    s!"attachments of `{pass}` can't be of different size ({expected.text} vs {found.text})"
  | noAttachments pass => s!"invocation of `{pass}` binds no attachments"
  | drawFailed pass reason => s!"draw of `{pass}` failed: {reason}"

end ResourceError
end FrameGraph
