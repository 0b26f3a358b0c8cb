import Inference.Accelerator
import Inference.Backend
import Inference.Binary32.Basic
import Inference.Binary32.Sum
import Inference.Binary32.Text
import Inference.Catalog
import Inference.CommandLine.Arguments
import Inference.CommandLine.Command
import Inference.CommandLine.ModelChoice
import Inference.CommandLine.Values
import Inference.Engine.Alone
import Inference.Engine.Call
import Inference.Engine.Crowd
import Inference.Engine.Desk
import Inference.Engine.Host
import Inference.Engine.Negotiation
import Inference.Engine.Open
import Inference.Engine.Operation
import Inference.Engine.Outstanding
import Inference.Engine.Properties
import Inference.Engine.Runtime
import Inference.Engine.Worker
import Inference.Fault
import Inference.Framework
import Inference.Json
import Inference.Main
import Inference.Options
import Inference.Proofs.Catalog.Availability
import Inference.Proofs.Catalog.FileNames
import Inference.Proofs.Catalog.Listing
import Inference.Proofs.Catalog.Registration
import Inference.Proofs.CommandLine.BackendOptions
import Inference.Proofs.CommandLine.Shapes
import Inference.Proofs.CommandLine.Values
import Inference.Proofs.Engine.Account
import Inference.Proofs.Engine.Alike
import Inference.Proofs.Engine.Allocation
import Inference.Proofs.Engine.Asking
import Inference.Proofs.Engine.Audit
import Inference.Proofs.Engine.Bargain
import Inference.Proofs.Engine.Barred
import Inference.Proofs.Engine.Bookkeeping
import Inference.Proofs.Engine.CallStep
import Inference.Proofs.Engine.Calm
import Inference.Proofs.Engine.Chronicle
import Inference.Proofs.Engine.Closers
import Inference.Proofs.Engine.Closing
import Inference.Proofs.Engine.Completion
import Inference.Proofs.Engine.Conservation
import Inference.Proofs.Engine.Contract
import Inference.Proofs.Engine.Course
import Inference.Proofs.Engine.Custody
import Inference.Proofs.Engine.Direct
import Inference.Proofs.Engine.Draining
import Inference.Proofs.Engine.Dropping
import Inference.Proofs.Engine.Due
import Inference.Proofs.Engine.Entry
import Inference.Proofs.Engine.Failing
import Inference.Proofs.Engine.Fate
import Inference.Proofs.Engine.Filling
import Inference.Proofs.Engine.Fitting
import Inference.Proofs.Engine.Flow
import Inference.Proofs.Engine.Fullness
import Inference.Proofs.Engine.Handles
import Inference.Proofs.Engine.Handover
import Inference.Proofs.Engine.Latecomers
import Inference.Proofs.Engine.Ledger
import Inference.Proofs.Engine.Lock
import Inference.Proofs.Engine.Modes
import Inference.Proofs.Engine.Naming
import Inference.Proofs.Engine.OneClient
import Inference.Proofs.Engine.Order
import Inference.Proofs.Engine.Origin
import Inference.Proofs.Engine.Outcome
import Inference.Proofs.Engine.Oversight
import Inference.Proofs.Engine.Overtaking
import Inference.Proofs.Engine.Poisoning
import Inference.Proofs.Engine.Prompt
import Inference.Proofs.Engine.Provenance
import Inference.Proofs.Engine.Questions
import Inference.Proofs.Engine.Rejection
import Inference.Proofs.Engine.Renewal
import Inference.Proofs.Engine.Renumbering
import Inference.Proofs.Engine.Retirement
import Inference.Proofs.Engine.Setting
import Inference.Proofs.Engine.ShapeProperties
import Inference.Proofs.Engine.ShapedAnswer
import Inference.Proofs.Engine.SingleFile
import Inference.Proofs.Engine.Standstill
import Inference.Proofs.Engine.Survival
import Inference.Proofs.Engine.Synchrony
import Inference.Proofs.Engine.Tandem
import Inference.Proofs.Engine.Terms
import Inference.Proofs.Engine.Tickets
import Inference.Proofs.Engine.Transition
import Inference.Proofs.Engine.Transparency
import Inference.Proofs.Engine.Turn
import Inference.Proofs.Engine.Twin
import Inference.Proofs.Engine.Unattended
import Inference.Proofs.Engine.Usability
import Inference.Proofs.Engine.Wreckage
import Inference.Proofs.Keyed
import Inference.Proofs.Runtime.Bookkeeping
import Inference.Proofs.Runtime.HandleTable
import Inference.Proofs.Runtime.Opening
import Inference.Proofs.Runtime.Register
import Inference.Proofs.Tensor.Agreement
import Inference.Proofs.Tensor.Canonical
import Inference.Proofs.Tensor.Construction
import Inference.Proofs.Tensor.Dimensions
import Inference.Proofs.Tensor.FrameShape
import Inference.Proofs.Tensor.Naming
import Inference.Proofs.Tensor.NormalText
import Inference.Proofs.Tensor.Overlay
import Inference.Proofs.Tensor.ReadBack
import Inference.Proofs.Tensor.Recorded
import Inference.Proofs.Tensor.Refusal
import Inference.Proofs.Tensor.RefusedText
import Inference.Proofs.Tensor.Regular
import Inference.Proofs.Tensor.Rewriting
import Inference.Proofs.Tensor.Room
import Inference.Proofs.Tensor.Sizes
import Inference.Proofs.Tensor.TakenText
import Inference.Proofs.Text.Reading
import Inference.Proofs.Text.Spelling
import Inference.Session.Inspect
import Inference.Session.Play
import Inference.Session.Register
import Inference.Session.Run
import Inference.Session.Script
import Inference.Session.Stage
import Inference.Session.State
import Inference.Session.Step
import Inference.Tensor.Descriptor
import Inference.Tensor.ElementType
import Inference.Tensor.Frame
import Inference.Tensor.Notation
import Inference.Tensor.Record
import Inference.Tensor.Shape
import Inference.Text.Blank
import Inference.Text.Name
import Inference.Text.Numeral
import Inference.Text.Split
import Inference.Word
