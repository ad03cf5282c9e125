import Frp.Go.Basic
import Frp.Go.Net
import Frp.Go.Addr
import Frp.Go.RoundTrip
import Frp.Config.Types
import Frp.Config.Ini
import Frp.Config.Load
import Frp.Config.Compare
import Frp.Config.Check
import Frp.Server.WorkConn
import Frp.Server.HttpProxy
import Frp.Server.HttpDomains
import Frp.Server.Login
import Frp.Server.Listener
import Frp.Client.UdpProxy
import Frp.Client.Control
import Frp.Client.Xtcp
import Frp.Client.WorkConn
import Frp.Client.Cmd
import Frp.Client.Proxy
import Frp.Server.StartWorkConn
import Frp.Server.Service
