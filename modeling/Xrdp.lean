import Xrdp.Mppc.Safety
import Xrdp.Bitmap.SendBitmapPaints
import Xrdp.Cache.BitmapCacheRuns
import Xrdp.Fastpath.FastpathTransparent
import Xrdp.Recv.LogonInfo
import Xrdp.Recv.ProcessDataEnds
import Xrdp.Recv.SecRecv
import Xrdp.Drdynvc.ChansrvFaithful
import Xrdp.Transport.OutputQueue
import Xrdp.Encoder.FrameAcks
import Xrdp.Gcc.ResponseLengths
import Xrdp.Mirror.TlsSend
import Xrdp.Mirror.SlaveRead
import Xrdp.Mirror.SessionType
import Xrdp.Mirror.MainLoop
import Xrdp.Cache.CacheReset
import Xrdp.Surface.SurfaceProtocol
import Xrdp.Transport.ClientFraming
import Xrdp.Transport.InOverruns
import Xrdp.Scp.LoginRoundTrip
import Xrdp.Scp.ForkLock
import Xrdp.Scp.SessionListTransfer
import Xrdp.Scp.RepliesUnderstood
import Xrdp.Scp.AcceptFits
import Xrdp.Sesman.SessionIsolation
import Xrdp.Sesman.SessionTable
import Xrdp.Chansrv.ChannelData
import Xrdp.Chansrv.ClipFiles
import Xrdp.Chansrv.ClipInputFits
import Xrdp.Chansrv.ClipPaste
import Xrdp.Chansrv.ClipResponses
import Xrdp.Chansrv.OutputReassembly
import Xrdp.Chansrv.PcscCalls
import Xrdp.Chansrv.SmartcardHandles
import Xrdp.Chansrv.FuseRuns
import Xrdp.Gcc.MonitorLayout
import Xrdp.Gcc.ChannelJoins
import Xrdp.Mcs.McsSend
import Xrdp.Orders.Batches
import Xrdp.Orders.OrderTypes
import Xrdp.Orders.RailSizes
import Xrdp.Orders.Sizes
import Xrdp.Myxrdp.UserPool
import Xrdp.Cache.PointerCache
import Xrdp.Vnc.VncInput
import Xrdp.Vnc.VncClip
import Xrdp.Xup.Orders
import Xrdp.Xup.Messages
import Xrdp.Painter.LibPainter
import Xrdp.Painter.DirtyRegion
import Xrdp.Keys.KeyUnicode
import Xrdp.Cache.GlyphCache
import Xrdp.Painter.GlyphText
import Xrdp.Chansrv.Timers
import Xrdp.Chansrv.Microphone
import Xrdp.Chansrv.SoundBlocks
import Xrdp.Chansrv.FifoQueue
import Xrdp.Chansrv.AudioInputRuns
import Xrdp.Listen.Addresses
import Xrdp.Bitmap.BmpKinds
import Xrdp.Caps.ConfirmActive
import Xrdp.Chansrv.DevredirRuns
