import PortRedirect.Transition.Run
import PortRedirect.Text.Trim
import PortRedirect.Text.Digits
import PortRedirect.Stream.Duplex
import PortRedirect.Protocol.Auth
import PortRedirect.Protocol.Challenge
import PortRedirect.Protocol.Transcript
import PortRedirect.Crypto.Sha512
import PortRedirect.Protocol.NoReplay
import PortRedirect.Protocol.Control
import PortRedirect.Server.Ports
import PortRedirect.Protocol.Keepalive
import PortRedirect.Protocol.KeepaliveTranscript
import PortRedirect.Protocol.Lockstep
import PortRedirect.Protocol.KeepaliveTimers
import PortRedirect.Server.TcpListener
import PortRedirect.Server.ClientHandler
import PortRedirect.Server.SessionTranscript
import PortRedirect.Server.SessionGate
import PortRedirect.Server.Teardown
import PortRedirect.Server.Confinement
import PortRedirect.Protocol.Handshake
import PortRedirect.Protocol.AuthPair
import PortRedirect.Protocol.AuthAgreement
import PortRedirect.Client.ServerHandler
import PortRedirect.Interop.ControlStream
import PortRedirect.Interop.Configuration
import PortRedirect.Protocol.ControlTrace
import PortRedirect.Protocol.KeepaliveFragments
import PortRedirect.Server.PortGrammar
import PortRedirect.Forward
import PortRedirect.Quic.CertStore
import PortRedirect.Quic.AcceptLoop
import PortRedirect.Server.Accounting
import PortRedirect.Client.Accounting
import PortRedirect.Stream.Pipe
import PortRedirect.Tunnel.TcpForwarder
import PortRedirect.Tunnel.Integrity
import PortRedirect.Tunnel.Stranding
import PortRedirect.Forward.GracefulShutdown
import PortRedirect.StressTest.Blocks
import PortRedirect.StressTest.RoundTrip
import PortRedirect.StressTest.Benchmark
import PortRedirect.StressTest.Verdict
import PortRedirect.Net.IpAddr
import PortRedirect.Environment
import PortRedirect.Net.IpAddrText
import PortRedirect.Quic.Client
import PortRedirect.Client.Main
import PortRedirect.Client.Reported
import PortRedirect.Server.Main
import PortRedirect.Interop.ServerName
import PortRedirect.Server.SessionHistory
import PortRedirect.Server.Program
import PortRedirect.Server.Ending
import PortRedirect.Server.Silence
import PortRedirect.Server.Lifetime
import PortRedirect.Transition.Snapshot
import PortRedirect.Transition.Timeout
import PortRedirect.Server.MetricsPrinter
import PortRedirect.Tunnel.Delivery
import PortRedirect.Tunnel.Metering
import PortRedirect.Tunnel.Link
import PortRedirect.Interop.Restart
import PortRedirect.Client.Dialogue
import PortRedirect.Text.Split
import PortRedirect.StressTest.MonitorLog
import PortRedirect.StressTest.Datacruncher
import PortRedirect.StressTest.LogRoundTrip
