import ChatGateway.Latency.History
import ChatGateway.Pricing

/-!
# Signals

What strategies and rules look at besides the request and the candidates: the prices and the
latencies of the moment.
-/

namespace ChatGateway

/-- The prices and the latencies of the moment. -/
structure Signals where
  prices : PriceTable
  latency : LatencyHistory

end ChatGateway
