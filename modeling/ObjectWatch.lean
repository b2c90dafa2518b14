import ObjectWatch.Main
import ObjectWatch.Settings.Assignment
import ObjectWatch.Gzip.Member
import ObjectWatch.Proofs.Attempt
import ObjectWatch.Proofs.Watcher.Interruption
import ObjectWatch.Proofs.Watcher.Course
import ObjectWatch.Proofs.Watcher.Run
import ObjectWatch.Proofs.Watcher.ChangeDetection
import ObjectWatch.Proofs.Watcher.Requests
import ObjectWatch.Proofs.Deflate.Machine
import ObjectWatch.Proofs.Deflate.Format
import ObjectWatch.Proofs.Deflate.Output
import ObjectWatch.Proofs.Deflate.Feeding
import ObjectWatch.Proofs.Deflate.Boundary
import ObjectWatch.Proofs.Gzip.Members
import ObjectWatch.Proofs.Gzip.Source
import ObjectWatch.Proofs.Gzip.Header
import ObjectWatch.Proofs.Gzip.Reader
import ObjectWatch.Proofs.Gzip.Stream
import ObjectWatch.Proofs.Gzip.Exactness
import ObjectWatch.Proofs.Gzip.Idle
import ObjectWatch.Proofs.Gzip.Terms
import ObjectWatch.Proofs.Gzip.Opening
import ObjectWatch.Proofs.Delivery.Collection
import ObjectWatch.Proofs.Delivery.Draft
import ObjectWatch.Proofs.Delivery.Truncation
import ObjectWatch.Proofs.Delivery.Reading
import ObjectWatch.Proofs.Delivery.Usability
import ObjectWatch.Proofs.Delivery.Outcome
import ObjectWatch.Proofs.Delivery.Replacement
import ObjectWatch.Proofs.Gzip.Download
import ObjectWatch.Proofs.Watcher.Decoding
import ObjectWatch.Proofs.Watcher.Retrieval
import ObjectWatch.Proofs.Watcher.Lifecycle
import ObjectWatch.Proofs.Watcher.Writer
import ObjectWatch.Proofs.Watcher.Outcomes
import ObjectWatch.Proofs.Service.Round
import ObjectWatch.Proofs.Service.Survival
import ObjectWatch.Proofs.Service.Updates
import ObjectWatch.Proofs.Service.FailureLimit
import ObjectWatch.Proofs.Service.EarlyStop
import ObjectWatch.Proofs.Watcher.Preparation
import ObjectWatch.Proofs.Watcher.Ledger
import ObjectWatch.Proofs.Watcher.IdlePolls
import ObjectWatch.Proofs.Service.GracefulStop
import ObjectWatch.Proofs.Settings.Acceptance
import ObjectWatch.Proofs.Service.Completion
import ObjectWatch.Proofs.Service.ExternalFaults
import ObjectWatch.Proofs.Service.ExitStatus
import ObjectWatch.Proofs.Delivery.Release
import ObjectWatch.Proofs.Settings.Interval
import ObjectWatch.Proofs.Service.Pacing
import ObjectWatch.Proofs.Service.DeadStore
import ObjectWatch.Proofs.Watcher.Outlook
import ObjectWatch.Proofs.Store.Cover
import ObjectWatch.Proofs.Watcher.Covering
import ObjectWatch.Proofs.Service.Secrecy
import ObjectWatch.Proofs.Watcher.Abandonment
import ObjectWatch.Proofs.Watcher.Untagged
import ObjectWatch.Proofs.Service.Prediction
import ObjectWatch.Proofs.Delivery.Agreement
import ObjectWatch.Proofs.Store.Resolution
import ObjectWatch.Proofs.Watcher.Renewal
import ObjectWatch.Proofs.Settings.Stability
import ObjectWatch.Proofs.Gzip.Advance
import ObjectWatch.Proofs.Delivery.Refusal
