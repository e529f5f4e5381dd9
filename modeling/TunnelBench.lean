import TunnelBench.Bytes
import TunnelBench.Text.Utf8
import TunnelBench.Text.Printable
import TunnelBench.Text.Quoted
import TunnelBench.Failure
import TunnelBench.Stream.Source
import TunnelBench.Text.Decimal
import TunnelBench.Stream.Parser
import TunnelBench.Stream.Buffer
import TunnelBench.Stream.Reader
import TunnelBench.Request.Framing
import TunnelBench.Request.Head
import TunnelBench.Request.Chunk
import TunnelBench.Request.Reader
import TunnelBench.Request.Decoder
import TunnelBench.Response.Status
import TunnelBench.Response.Basic
import TunnelBench.Response.Rendering
import TunnelBench.Response.Description
import TunnelBench.Handler.Dispatcher
import TunnelBench.FileTree.Editing
import TunnelBench.FileTree.Walk
import TunnelBench.Library.Build
import TunnelBench.Log.Config
import TunnelBench.Server.Session
import TunnelBench.CommandLine
import TunnelBench.Tls.Armour
import TunnelBench.Tls.Der
import TunnelBench.Tls.Rsa
import TunnelBench.Tls.Curve
import TunnelBench.Tls.Edwards
import TunnelBench.Tls.Handshake
import TunnelBench.Main
import TunnelBench.Proofs.Request.HeadDecision
import TunnelBench.Proofs.Stream.Delivery
import TunnelBench.Proofs.Stream.Ending
import TunnelBench.Proofs.Request.ChunkDecision
import TunnelBench.Proofs.Request.Stages
import TunnelBench.Proofs.Request.Segmentation
import TunnelBench.Proofs.Stream.Reads
import TunnelBench.Proofs.Request.Delimiting
import TunnelBench.Proofs.Request.ChunkGrammar
import TunnelBench.Proofs.Request.ChunkedBody
import TunnelBench.Proofs.Request.Peeking
import TunnelBench.Proofs.Handler.Runs
import TunnelBench.Proofs.Server.Replay
import TunnelBench.Proofs.Stream.Writing
import TunnelBench.Proofs.Text.Ascii
import TunnelBench.Proofs.Request.Draft
import TunnelBench.Proofs.Request.HeadRoundTrip
import TunnelBench.Proofs.Request.RoundTrip
import TunnelBench.Proofs.Stream.Continuing
import TunnelBench.Proofs.Handler.Standard
import TunnelBench.Proofs.Server.Outlook
import TunnelBench.Proofs.Server.Steps
import TunnelBench.Proofs.Server.Admission
import TunnelBench.Proofs.Server.Channels
import TunnelBench.Proofs.Server.Isolation
import TunnelBench.Proofs.FileTree.Names
import TunnelBench.Proofs.FileTree.Walking
import TunnelBench.Proofs.Library.FileResponse
import TunnelBench.Proofs.Library.Gathering
import TunnelBench.Proofs.Library.Building
import TunnelBench.Proofs.FileTree.Edited
import TunnelBench.Proofs.Request.Asking
import TunnelBench.Proofs.Server.FileServing
import TunnelBench.Proofs.Request.Decoding
import TunnelBench.Proofs.Text.Trimming
import TunnelBench.Proofs.Request.FramingRule
import TunnelBench.Proofs.Text.Utf8
import TunnelBench.Proofs.Request.DeclaredLength
import TunnelBench.Proofs.Stream.Receiving
import TunnelBench.Proofs.Request.HeadSeeking
import TunnelBench.Proofs.Request.HeadLimit
import TunnelBench.Proofs.Library.Keys
import TunnelBench.Proofs.Library.Keeping
import TunnelBench.Proofs.Response.Recovering
import TunnelBench.Proofs.Stream.Stopping
import TunnelBench.Proofs.Handler.Echoing
import TunnelBench.Proofs.Stream.Draining
import TunnelBench.Proofs.Stream.Filling
import TunnelBench.Proofs.Handler.Truncating
import TunnelBench.Proofs.Handler.Dispatching
import TunnelBench.Proofs.Request.SizeLines
import TunnelBench.Proofs.Request.ChunkEnding
import TunnelBench.Proofs.Response.ReaderBodies
import TunnelBench.Proofs.Response.Settings
import TunnelBench.Proofs.Response.Headers
import TunnelBench.Proofs.Response.LengthLines
import TunnelBench.Proofs.Response.LeftLengths
import TunnelBench.Proofs.Stream.Passes
import TunnelBench.Proofs.Request.WordSizes
import TunnelBench.Proofs.FileTree.Cleaning
import TunnelBench.Proofs.Text.Lossy
import TunnelBench.Proofs.Library.BelowRoot
