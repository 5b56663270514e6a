/-!
# Where programs find their resources

Uniforms are the members of one block in the first group. Every sampler is a
texture and a sampling state, which stand next to each other in the second group
under the sampler's name with two endings.
-/
namespace FrameGraph.Program

def uniformGroup : UInt32 := 0

def samplerGroup : UInt32 := 1

def textureSuffix : String := "_texture"

def samplerSuffix : String := "_sampler"

end FrameGraph.Program
