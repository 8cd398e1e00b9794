import KizunaLink.Source.Ssrf
import KizunaLink.Server.EventDelivery
import KizunaLink.Player.VoiceAgreement
import KizunaLink.Player.TrackEvents
import KizunaLink.Source.EndOfFile
import KizunaLink.Source.SegmentedDelivery
import KizunaLink.Source.Stranded
import KizunaLink.Engine.Drain
import KizunaLink.Youtube.ErrorChannel
import KizunaLink.Youtube.Transparency
import KizunaLink.Player.PatchEffects
import KizunaLink.Player.MonitorTicks
import KizunaLink.Server.SessionsMap
import KizunaLink.Server.PausedQueue
import KizunaLink.Server.RateLimiter
import KizunaLink.Routing.Addresses
import KizunaLink.Hls.Abandoned
import KizunaLink.Voice.Reconnects
import KizunaLink.Voice.Heartbeat
import KizunaLink.Dave.Readiness
import KizunaLink.Engine.StateCell
import KizunaLink.Logger.Pruning
import KizunaLink.Player.SponsorBlock
import KizunaLink.Player.LyricsLines
import KizunaLink.Codec.Reencoding
import KizunaLink.Hls.TsMux
import KizunaLink.Hls.Resolver
import KizunaLink.Hls.LookAhead
import KizunaLink.Source.ReadyChunks
import KizunaLink.Engine.Flow
import KizunaLink.Deezer.Position
import KizunaLink.SoundCloud.Errors
import KizunaLink.Twitch.Live
import KizunaLink.Hls.Attributes
import KizunaLink.Hls.ByteRanges
import KizunaLink.Engine.BufferPool
import KizunaLink.Engine.PacketBoundaries
import KizunaLink.Engine.Processor
import KizunaLink.Voice.TimescaleFrames
import KizunaLink.Engine.SeekPosition
import KizunaLink.Server.FrameStats
import KizunaLink.Engine.Layers
import KizunaLink.Logger.Calendar
