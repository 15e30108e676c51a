import Libfaim.Userinfo.RoundTrip
import Libfaim.Snac.History
import Libfaim.RxQueue.Codec
import Libfaim.TxQueue.Seqnum
import Libfaim.TxQueue.Delivery
import Libfaim.Conn.Live
import Libfaim.RxHandlers.Once
import Libfaim.Im.RoundTrip
import Libfaim.Im.Chain
import Libfaim.Progress
import Libfaim.Snac.Replies
import Libfaim.Snac.Requests
import Libfaim.Misc
import Libfaim.Chat.Invite
import Libfaim.Chat.Message
import Libfaim.Ft.Directim
import Libfaim.Tlv.Wire
import Libfaim.Userinfo.Screenname
import Libfaim.TxQueue.Send
import Libfaim.Request.Match
import Libfaim.Request.Whole
import Libfaim.Auth.Method
import Libfaim.Msgcookie.Map
import Libfaim.Conn.Private
import Libfaim.Conn.Private.Rules
import Libfaim.Conn.Private.Calls
import Libfaim.Conn.Rendezvous
import Libfaim.Conn.Teardown
import Libfaim.Userinfo.Framing
import Libfaim.Ft.Receive
import Libfaim.Tlv.Frozen
import Libfaim.Tlv.Getters
import Libfaim.Im.Dereference
import Libfaim.Im.Sections
import Libfaim.Im.Lengths
import Libfaim.Im.Decoders
import Libfaim.Im.Flags
import Libfaim.Im.Icon
import Libfaim.Caps.RoundTrip
import Libfaim.Util
import Libfaim.Request.Visibility
import Libfaim.Service.Rates
import Libfaim.Service.Frames
import Libfaim.Ssi
import Libfaim.Ssi.Inside
import Libfaim.BStream.Laws
import Libfaim.Userinfo.Progress
import Libfaim.Im.Mpmsg
import Libfaim.Memory
import Libfaim.Search
import Libfaim.Auth.Response
import Libfaim.Chatnav
import Libfaim.Chatnav.Answers
import Libfaim.Snac.Answers
import Libfaim.Search.Directory
import Libfaim.Names
import Libfaim.Md5.Callers
import Libfaim.Link
import Libfaim.Conn.Socks
import Libfaim.Conn.SessionKill
import Libfaim.Faimtest
import Libfaim.Im.Relay
import Libfaim.Conn.Groups
import Libfaim.Chat.Room
import Libfaim.Service.General
import Libfaim.Service.Startup
import Libfaim.Auth.Login
import Libfaim.Icq
