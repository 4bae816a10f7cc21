import TopicClient.Client.Start
import TopicClient.Client.Workers
import TopicClient.Scenario.Report
import TopicClient.Scenario.TopicTrial
import TopicClient.Settings.Load
import TopicClient.Snapshot.ListView
import TopicClient.Proofs.Batches
import TopicClient.Proofs.Merges
import TopicClient.Proofs.TopicLives
import TopicClient.Proofs.Carriers
import TopicClient.Proofs.Waiters
import TopicClient.Proofs.Provenance
import TopicClient.Proofs.Receptions
import TopicClient.Proofs.SocketStates
import TopicClient.Proofs.QueuedFrames
import TopicClient.Proofs.Delays
import TopicClient.Proofs.GivingUp
import TopicClient.Proofs.CallResults
import TopicClient.Proofs.NormalForms
import TopicClient.Proofs.FailedPolls
import TopicClient.Proofs.Workers
import TopicClient.Proofs.Dispatch
import TopicClient.Proofs.Panics
import TopicClient.Proofs.Observations
import TopicClient.Proofs.FirstMerge
import TopicClient.Proofs.Redelivery
import TopicClient.Proofs.Listings
import TopicClient.Proofs.NodeParents
import TopicClient.Proofs.FieldOrder
import TopicClient.Proofs.Annotations
import TopicClient.Proofs.PublishOrder
import TopicClient.Proofs.HandlerIds
import TopicClient.Proofs.Keepalive
import TopicClient.Proofs.Retries
import TopicClient.Proofs.FilledDefaults
import TopicClient.Proofs.OverriddenOptions
import TopicClient.Proofs.SavedFiles
