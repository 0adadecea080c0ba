import SolRpcRouter.Health.State
import SolRpcRouter.Health.Update
import SolRpcRouter.Health.Hysteresis
import SolRpcRouter.Health.Loop
import SolRpcRouter.Http.Uri
import SolRpcRouter.Http.Form
import SolRpcRouter.Http.RoundTrip
import SolRpcRouter.Proxy.Target
import SolRpcRouter.Proxy.Handler
import SolRpcRouter.Rpc.Payload
import SolRpcRouter.Rpc.Middleware
import SolRpcRouter.Health.Check
import SolRpcRouter.Health.Counters
import SolRpcRouter.Health.Runs
import SolRpcRouter.Proxy.Keys
import SolRpcRouter.Proxy.Main
