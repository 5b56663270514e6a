import FrameGraph.Checked
import FrameGraph.Compiler.Bridge
import FrameGraph.Compiler.Replay
import FrameGraph.Compiler.Scripted
import FrameGraph.Gpu.Device
import FrameGraph.Gpu.Journal
import FrameGraph.Gpu.Recorder
import FrameGraph.Main
import FrameGraph.Program.Vertex
import FrameGraph.Proofs.Frame.Skipping
import FrameGraph.Proofs.Image.History
import FrameGraph.Proofs.Pass.Rebuilding
import FrameGraph.Proofs.Session.Carried
import FrameGraph.Proofs.Session.Churn
import FrameGraph.Proofs.Session.FailedFrame
import FrameGraph.Proofs.Session.FailedLoad
import FrameGraph.Session
import FrameGraph.Proofs.Source.LineMapping
import FrameGraph.Proofs.Gpu.Simulation
import FrameGraph.Proofs.Frame.OnRecord
import FrameGraph.Proofs.Image.Fetching
import FrameGraph.Proofs.Session.FrameShape
import FrameGraph.Proofs.Gpu.Alongside
import FrameGraph.Proofs.Frame.Shared
import FrameGraph.Proofs.Session.Resuming
import FrameGraph.Proofs.Inbox.Newest
import FrameGraph.Proofs.Pass.Retouching
import FrameGraph.Proofs.Session.Loading
import FrameGraph.Proofs.Session.LiveDraws
import FrameGraph.Proofs.Session.Ticking
import FrameGraph.Proofs.Gpu.Uniforms
import FrameGraph.Proofs.Frame.Positional
import FrameGraph.Proofs.Wire.Bundles
import FrameGraph.Proofs.Session.SurfaceSize
import FrameGraph.Proofs.Frame.Accounted
import FrameGraph.Proofs.Pass.Isolation
import FrameGraph.Proofs.Context.Declarations
import FrameGraph.Proofs.Program.Reflection
import FrameGraph.Proofs.Pass.Stopping
import FrameGraph.Proofs.CommandLine.Pairs
import FrameGraph.Proofs.Session.Unstopped
