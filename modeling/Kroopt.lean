import Kroopt.Library.Format
import Kroopt.Library.Framing
import Kroopt.Library.FreshMap
import Kroopt.Library.Hkdf
import Kroopt.Library.Preference
import Kroopt.Library.Region
import Kroopt.Library.Run
import Kroopt.Library.Simulation
import Kroopt.Library.Tickets
import Kroopt.Error
import Kroopt.Parse.Grammar
import Kroopt.Parse.Handshake
import Kroopt.Parse.Reader
import Kroopt.Parse.Record
import Kroopt.Parse.Wire
import Kroopt.Core.Config
import Kroopt.Core.Detail
import Kroopt.Core.Edge
import Kroopt.Core.Handshake
import Kroopt.Core.Invariant
import Kroopt.Core.KeyScheduleDriver
import Kroopt.Core.Move
import Kroopt.Core.Nonce
import Kroopt.Core.Outcome
import Kroopt.Core.Record
import Kroopt.Core.RecordPath
import Kroopt.Core.Session
import Kroopt.Core.State
import Kroopt.Core.Step
import Kroopt.Core.Transcript
import Kroopt.Crypto.Answers
import Kroopt.Crypto.Hacl
import Kroopt.Crypto.KeySchedule
import Kroopt.Crypto.Provider
import Kroopt.Crypto.RealProvider
import Kroopt.Crypto.SecretChain
import Kroopt.Native.Binding
import Kroopt.Native.Glue
import Kroopt.Native.HaclStar
import Kroopt.Native.HkdfExpand
import Kroopt.Native.SecretTable
import Kroopt.Conn.Account
import Kroopt.Conn.Drive
import Kroopt.Conn.Interpreter
import Kroopt.Conn.Record13
import Kroopt.Conn.Recorded
import Kroopt.Conn.TlsConn
import Kroopt.Conn.Trace
import Kroopt.Conn.Transport
import Kroopt.Properties.Routing
import Kroopt.Properties.ClientHello
import Kroopt.Properties.Negotiation
import Kroopt.Properties.Acceptance
import Kroopt.Properties.InboundStream
import Kroopt.Properties.InboundBuffer
import Kroopt.Properties.Transcript
import Kroopt.Properties.Operations
import Kroopt.Properties.ReadSequence
import Kroopt.Properties.Nonces
import Kroopt.Properties.PeerClose
import Kroopt.Properties.LocalClose
import Kroopt.Properties.CleanClose
import Kroopt.Properties.Ownership
import Kroopt.Properties.OutboundStream
import Kroopt.Properties.SealedWrites
import Kroopt.Properties.TransportClose
import Kroopt.Properties.GracefulFlush
import Kroopt.Properties.FlightProtection
import Kroopt.Properties.Utterance
import Kroopt.Properties.Silence
import Kroopt.Properties.TerminalSilence
import Kroopt.Properties.HkdfExpand
import Kroopt.Properties.SecretTable
import Kroopt.Properties.Binding
import Kroopt.Properties.FailClosed
import Kroopt.Properties.KeyDerivation
import Kroopt.Properties.SoundHandshake
import Kroopt.Properties.SessionKeys
import Kroopt.Properties.FlightKeys
