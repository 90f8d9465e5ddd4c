import GoPg.Wire
import GoPg.Errors
import GoPg.WriteBuffer
import GoPg.Conn
import GoPg.Decode
import GoPg.Readers
import GoPg.Startup
import GoPg.Messages
import GoPg.Run
import GoPg.Query
import GoPg.QueryData
import GoPg.Sync
import GoPg.SideChannel
import GoPg.Inversion
import GoPg.Lookahead
import GoPg.Failures
import GoPg.WriteSide
import GoPg.Handshake
import GoPg.Panics
import GoPg.Framing
import GoPg.Requests
import GoPg.Await
import GoPg.ModelUse
import GoPg.Prepared
import GoPg.Copy
import GoPg.Accept
