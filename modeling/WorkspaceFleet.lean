import WorkspaceFleet.Activity
import WorkspaceFleet.Backend
import WorkspaceFleet.Backend.Encoding
import WorkspaceFleet.Certificate.Bundle
import WorkspaceFleet.Certificate.Pem
import WorkspaceFleet.Client
import WorkspaceFleet.Client.Address
import WorkspaceFleet.Client.Config
import WorkspaceFleet.Client.Exchange
import WorkspaceFleet.Client.Frames
import WorkspaceFleet.Client.Sample
import WorkspaceFleet.CommandLine
import WorkspaceFleet.Config
import WorkspaceFleet.Document
import WorkspaceFleet.Document.Json
import WorkspaceFleet.Document.Toml
import WorkspaceFleet.Document.Toml.Scalar
import WorkspaceFleet.Document.Toml.Tree
import WorkspaceFleet.Duration
import WorkspaceFleet.Files
import WorkspaceFleet.Fleet
import WorkspaceFleet.Health.Config
import WorkspaceFleet.Health.Event
import WorkspaceFleet.Health.Monitor
import WorkspaceFleet.Health.Observation
import WorkspaceFleet.Health.Tracker
import WorkspaceFleet.Label
import WorkspaceFleet.Ledger
import WorkspaceFleet.Main
import WorkspaceFleet.Orchestrator
import WorkspaceFleet.Placement.Choice
import WorkspaceFleet.Placement.Placer
import WorkspaceFleet.Placement.Score
import WorkspaceFleet.Placement.Strategy
import WorkspaceFleet.Proofs.Accounting
import WorkspaceFleet.Proofs.Alike
import WorkspaceFleet.Proofs.ByteOrder
import WorkspaceFleet.Proofs.Call
import WorkspaceFleet.Proofs.Choosing
import WorkspaceFleet.Proofs.Chronicle
import WorkspaceFleet.Proofs.Classifying
import WorkspaceFleet.Proofs.Commuting
import WorkspaceFleet.Proofs.Compact
import WorkspaceFleet.Proofs.Contest
import WorkspaceFleet.Proofs.Cores
import WorkspaceFleet.Proofs.Cut
import WorkspaceFleet.Proofs.Decoding
import WorkspaceFleet.Proofs.Deeds
import WorkspaceFleet.Proofs.Destroying
import WorkspaceFleet.Proofs.Displacing
import WorkspaceFleet.Proofs.Dropping
import WorkspaceFleet.Proofs.Encoding
import WorkspaceFleet.Proofs.Exchanging
import WorkspaceFleet.Proofs.Filling
import WorkspaceFleet.Proofs.Framing
import WorkspaceFleet.Proofs.Gathering
import WorkspaceFleet.Proofs.History
import WorkspaceFleet.Proofs.Ignoring
import WorkspaceFleet.Proofs.Interleaving
import WorkspaceFleet.Proofs.Keeping
import WorkspaceFleet.Proofs.Load
import WorkspaceFleet.Proofs.Loading
import WorkspaceFleet.Proofs.Membership
import WorkspaceFleet.Proofs.Merging
import WorkspaceFleet.Proofs.Numerals
import WorkspaceFleet.Proofs.Operations
import WorkspaceFleet.Proofs.Persisting
import WorkspaceFleet.Proofs.Placing
import WorkspaceFleet.Proofs.Preferring
import WorkspaceFleet.Proofs.Probing
import WorkspaceFleet.Proofs.Range
import WorkspaceFleet.Proofs.Reconcile
import WorkspaceFleet.Proofs.Recovery
import WorkspaceFleet.Proofs.Reencoding
import WorkspaceFleet.Proofs.Registering
import WorkspaceFleet.Proofs.Reopen
import WorkspaceFleet.Proofs.Repairing
import WorkspaceFleet.Proofs.Reporting
import WorkspaceFleet.Proofs.Reserving
import WorkspaceFleet.Proofs.Resolving
import WorkspaceFleet.Proofs.Results
import WorkspaceFleet.Proofs.Revising
import WorkspaceFleet.Proofs.Rounds
import WorkspaceFleet.Proofs.Run
import WorkspaceFleet.Proofs.Settling
import WorkspaceFleet.Proofs.Sound
import WorkspaceFleet.Proofs.Spelling
import WorkspaceFleet.Proofs.Starting
import WorkspaceFleet.Proofs.Steady
import WorkspaceFleet.Proofs.Table
import WorkspaceFleet.Proofs.Telling
import WorkspaceFleet.Proofs.Ticking
import WorkspaceFleet.Proofs.Turns
import WorkspaceFleet.Proofs.Vouching
import WorkspaceFleet.Proofs.Watching
import WorkspaceFleet.Proofs.WriteThrough
import WorkspaceFleet.Quantity
import WorkspaceFleet.Registry
import WorkspaceFleet.Registry.Error
import WorkspaceFleet.Server
import WorkspaceFleet.Server.Encoding
import WorkspaceFleet.Service
import WorkspaceFleet.Service.Disk
import WorkspaceFleet.Service.Error
import WorkspaceFleet.Service.Log
import WorkspaceFleet.Simulation.Daemon
import WorkspaceFleet.Simulation.Scenario
import WorkspaceFleet.Simulation.Scheduler
import WorkspaceFleet.Simulation.World
import WorkspaceFleet.Store
import WorkspaceFleet.Store.Text
import WorkspaceFleet.Table
import WorkspaceFleet.Text.Blank
import WorkspaceFleet.Text.Decimal
import WorkspaceFleet.Text.Quoted
import WorkspaceFleet.Text.Real
import WorkspaceFleet.Text.Shortest
import WorkspaceFleet.Text.Unprintable
import WorkspaceFleet.Text.Utf8
import WorkspaceFleet.Transport
import WorkspaceFleet.Word
import WorkspaceFleet.Workspace
import WorkspaceFleet.Workspace.Encoding
