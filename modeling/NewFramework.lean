import NewFramework.Lib.Run
import NewFramework.Lib.BigEndian
import NewFramework.Lib.Framing
import NewFramework.Net.Buffer
import NewFramework.Net.SocketsOps
import NewFramework.Tstlesrv.FrameTransport
import NewFramework.Lib.Lockstep
import NewFramework.Lib.SortedSet
import NewFramework.Lib.Trace
import NewFramework.Net.Channel
import NewFramework.Net.CloseOnce
import NewFramework.Net.Connector
import NewFramework.Net.Disconnected
import NewFramework.Net.EventLoopThread
import NewFramework.Net.OutboundStream
import NewFramework.Net.PendingFunctors
import NewFramework.Net.RawFunctors
import NewFramework.Net.RemovedChannels
import NewFramework.Net.ServerProtocol
import NewFramework.Net.ShutdownOrder
import NewFramework.Net.TcpServer
import NewFramework.Net.TimerArm
import NewFramework.Net.TimerCancel
import NewFramework.Tstlesrv.ClientCtx
import NewFramework.Tstlesrv.ConnQueue
import NewFramework.Tstlesrv.EventDiscipline
import NewFramework.Tstlesrv.FrameReader
import NewFramework.Tstlesrv.FrameWriter
import NewFramework.Tstlesrv.Recycle
import NewFramework.Tstlesrv.WritePath
import NewFramework.Net.Http.Pipelining
import NewFramework.Base.PoolWaiters
import NewFramework.Base.ThreadPoolRuns
import NewFramework.Base.ThreadPoolStop
import NewFramework.Base.ThreadPoolLeftBehind
import NewFramework.Tstlesrv.AcceptPath
import NewFramework.Net.SocketOwnership
import NewFramework.Net.BufferQueue
import NewFramework.Net.EPollPoller
import NewFramework.Net.PollPoller
import NewFramework.Base.BoundedBlockingQueue
import NewFramework.Tstlesrv.LoopThread
import NewFramework.Tstlesrv.WriteContract
import NewFramework.Net.Http.Termination
import NewFramework.Net.PollListing
import NewFramework.Net.ReservedBytes
import NewFramework.Tstlesrv.ReservedLength
import NewFramework.Lib.ByteOrder
import NewFramework.Net.TypedIntegers
import NewFramework.Lib.SignedInt
import NewFramework.Lib.Gregorian
import NewFramework.Base.Date
import NewFramework.Base.TimeZone
import NewFramework.Base.JulianDay
import NewFramework.Lib.Numeral
import NewFramework.Base.LogStream
import NewFramework.Lib.Utf8
import NewFramework.Base.Convert
import NewFramework.Lib.Pieces
import NewFramework.Base.SplitString
import NewFramework.Lib.FileTree
import NewFramework.Base.CreateFullDir
import NewFramework.Lib.Lines
import NewFramework.Base.ReplaceLine
import NewFramework.Lib.LowerBound
import NewFramework.Base.LocalTime
import NewFramework.Lib.Reader
import NewFramework.Base.ZoneFile
import NewFramework.Tstlesrv.TwoOwners
import NewFramework.Tstlesrv.EchoSession
import NewFramework.Tstlesrv.Sigslot
import NewFramework.Tstlesrv.SlotEmission
import NewFramework.Net.Http.ResponseStream
import NewFramework.Net.TimerPeriod
import NewFramework.Net.WaterMarks
import NewFramework.Base.CountDownLatch
import NewFramework.Base.ThreadStart
import NewFramework.Net.TcpClient
import NewFramework.Lib.Padded
import NewFramework.Base.LogStamp
import NewFramework.Base.Logging
import NewFramework.Lib.Descriptors
import NewFramework.Net.Acceptor
import NewFramework.Net.Http.HttpSession
import NewFramework.Base.ThreadPoolProgress
import NewFramework.Base.MurmurHash
