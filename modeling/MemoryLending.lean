import MemoryLending.Main
import MemoryLending.Bytes.Digest
import MemoryLending.Proofs.Scan
import MemoryLending.Proofs.Leases
import MemoryLending.Proofs.Copies
import MemoryLending.Proofs.Refusals
import MemoryLending.Proofs.Retention
import MemoryLending.Proofs.Serving
import MemoryLending.Proofs.Shutdown
import MemoryLending.Proofs.Transparency
import MemoryLending.Proofs.Studio
import MemoryLending.Proofs.Neighbours
import MemoryLending.Proofs.Bounds
import MemoryLending.Proofs.Accounts
import MemoryLending.Proofs.Soak
import MemoryLending.Proofs.Attendance
import MemoryLending.Proofs.Churn
import MemoryLending.Proofs.Sums
import MemoryLending.Proofs.Stamps
import MemoryLending.Proofs.CommandLine
import MemoryLending.Proofs.Transcript
import MemoryLending.Proofs.Edges
import MemoryLending.Proofs.Stranding
