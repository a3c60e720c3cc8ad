import Society.Relational.Db
import Society.Relational.Tx
import Society.Kernel.Tables
import Society.Kernel.Values
import Society.Kernel.Domain
import Society.Kernel.Commands
import Society.Kernel.Events
import Society.Kernel.Rows
import Society.Kernel.Schema
import Society.Relational.Wp
import Society.Kernel.Queries
import Society.Blake3
import Society.Dump
import Society.Kernel.Authority
import Society.Kernel.Budget
import Society.Kernel.Child
import Society.Kernel.Cycle
import Society.Kernel.Digest
import Society.Boundary.Cost
import Society.Boundary.ForumCalls
import Society.Kernel.CycleLaws
import Society.Kernel.WorkLaws
import Society.Kernel.BudgetLaws
import Society.Kernel.BudgetRuns
import Society.Boundary.FrameValue
import Society.Boundary.InboundWire
import Society.Boundary.InboundWireLaws
import Society.Custody.Captures
import Society.Custody.NativeChildLaws
import Society.Custody.PiChild
import Society.Custody.PiControl
import Society.Custody.PiControlLaws
import Society.Custody.PiFence
import Society.Latency.World
import Society.Latency.AnalysisLaws
import Society.Latency.LivePlan
import Society.Latency.LivePlanLaws
import Society.Latency.ChoreographyLaws
import Society.Latency.PilotLaws
import Society.Latency.PilotRetry
import Society.Content.StoreRuns
import Society.Resident.SchedulerLaws
import Society.Resident.SealingRuns
import Society.Boundary.CostLaws
import Society.Latency.StudyJoinLaws
import Society.Kernel.DecisionCitation
import Society.Custody.PiFramingRuns
import Society.Product.MaterializerLaws
import Society.Kernel.ForumRendering
import Society.Product.ValidationEvidence
import Society.Latency.PromptLaws
import Society.Kernel.StudyRuns
import Society.Kernel.MatchedStudy
