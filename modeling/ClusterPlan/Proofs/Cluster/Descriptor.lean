import ClusterPlan.Cluster.Descriptor
import ClusterPlan.Proofs.Json.RoundTrip

/-!
# Descriptors in documents

The data of a cluster has no fractions (`Cluster.isExact_descriptor`), so that nothing of it is lost in a
document (`Json.read?_write_append`).
-/

namespace ClusterPlan

end ClusterPlan
