import RolloutFabric.Adapter.Process
import RolloutFabric.Domain.Attempt
import RolloutFabric.Domain.PlanRoundTrip
import RolloutFabric.Orchestrator.BlastRadius
import RolloutFabric.Orchestrator.Runs
import RolloutFabric.Safety.Attestation
import RolloutFabric.Safety.Compensation
import RolloutFabric.Safety.Concurrency
import RolloutFabric.Safety.Confinement
import RolloutFabric.Safety.EntryGate
import RolloutFabric.Safety.Epochs
import RolloutFabric.Safety.HealthGates
import RolloutFabric.Safety.Paused
import RolloutFabric.Safety.Provenance
import RolloutFabric.Safety.Redelivery
import RolloutFabric.Safety.Repetition
import RolloutFabric.Safety.RestoredHealth
import RolloutFabric.Safety.SoakGates
import RolloutFabric.Safety.StageGates
import RolloutFabric.Safety.StageOrder
import RolloutFabric.Safety.Supersession
import RolloutFabric.Safety.Verification
import RolloutFabric.Safety.Aborts
import RolloutFabric.Adapter.Capacity
import RolloutFabric.Adapter.Trust
import RolloutFabric.Codec.Exact
import RolloutFabric.Journal.Envelope
import RolloutFabric.Lib.Stream
import RolloutFabric.Lib.Triple
import RolloutFabric.Protocol.Canonical
import RolloutFabric.Protocol.Framing
import RolloutFabric.Safety.Approvals
import RolloutFabric.Worker.Askers
import RolloutFabric.Safety.Refusals
import RolloutFabric.Safety.FailureBudget
import RolloutFabric.Safety.IdempotencyKeys
import RolloutFabric.Safety.Samples
import RolloutFabric.Safety.Regeneration
import RolloutFabric.Safety.Creation
import RolloutFabric.Safety.EvidenceMeaning
import RolloutFabric.Safety.Audits
import RolloutFabric.Domain.Ratio
import RolloutFabric.Base.Instants
import RolloutFabric.Base.Calendar
import RolloutFabric.Codec.Wide
import RolloutFabric.Domain.CanonicalOrder
import RolloutFabric.Domain.Digests
import RolloutFabric.Domain.InventoryContent
import RolloutFabric.Domain.Labels
import RolloutFabric.Json.RoundTrip
import RolloutFabric.Safety.Deadlines
import RolloutFabric.Base.Rfc3339
import RolloutFabric.Safety.CanaryClearance
import RolloutFabric.Json.Base64
import RolloutFabric.Json.Acceptance
import RolloutFabric.Base.Sha256Standard
import RolloutFabric.Journal.Checksum
import RolloutFabric.Safety.AttemptTable
import RolloutFabric.Document.MemberOrder
import RolloutFabric.Document.InventorySurvival
import RolloutFabric.Document.Names
import RolloutFabric.Protocol.Link
import RolloutFabric.Controller.Exchange
import RolloutFabric.Safety.Lifecycles
