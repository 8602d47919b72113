import SceneBridge.Adapter
import SceneBridge.Arena
import SceneBridge.Bridge
import SceneBridge.BridgeError
import SceneBridge.CommandBuffer
import SceneBridge.Component
import SceneBridge.Config.Bridge
import SceneBridge.Config.Scene
import SceneBridge.Correspondence
import SceneBridge.Entity
import SceneBridge.Gameplay
import SceneBridge.Guest.Id
import SceneBridge.Guest.LogLine
import SceneBridge.Guest.Module
import SceneBridge.Guest.Protocol
import SceneBridge.Guest.Script
import SceneBridge.Host.Config
import SceneBridge.Host.Session
import SceneBridge.Inbound
import SceneBridge.Log
import SceneBridge.Log.Filter
import SceneBridge.Main
import SceneBridge.Outbound
import SceneBridge.Pattern.Basic
import SceneBridge.Pattern.Bracket
import SceneBridge.Pattern.CharSet
import SceneBridge.Pattern.Cursor
import SceneBridge.Pattern.Escape
import SceneBridge.Pattern.Fault
import SceneBridge.Pattern.OfTerm
import SceneBridge.Pattern.Reader
import SceneBridge.Pattern.Term
import SceneBridge.Proofs.Adapter
import SceneBridge.Proofs.Arena
import SceneBridge.Proofs.Arena.Handles
import SceneBridge.Proofs.Arena.Shape
import SceneBridge.Proofs.Bridge.Abort
import SceneBridge.Proofs.Bridge.Accounts
import SceneBridge.Proofs.Bridge.Alike
import SceneBridge.Proofs.Bridge.Delivery
import SceneBridge.Proofs.Bridge.FirstShare
import SceneBridge.Proofs.Bridge.Frame
import SceneBridge.Proofs.Bridge.Recovery
import SceneBridge.Proofs.Bridge.Requests
import SceneBridge.Proofs.Bridge.Run
import SceneBridge.Proofs.Bridge.Start
import SceneBridge.Proofs.Bridge.Succession
import SceneBridge.Proofs.Bridge.Templates
import SceneBridge.Proofs.Bridge.Turn
import SceneBridge.Proofs.Correspondence
import SceneBridge.Proofs.Correspondence.Pairing
import SceneBridge.Proofs.Guest.Delivery
import SceneBridge.Proofs.Guest.Loading
import SceneBridge.Proofs.Guest.Traced
import SceneBridge.Proofs.Host.Lifecycle
import SceneBridge.Proofs.Host.Rounds
import SceneBridge.Proofs.Inbound.Demands
import SceneBridge.Proofs.Inbound.Ledger
import SceneBridge.Proofs.Outbound.Course
import SceneBridge.Proofs.Outbound.Depth
import SceneBridge.Proofs.Outbound.Exchange
import SceneBridge.Proofs.Outbound.Fault
import SceneBridge.Proofs.Outbound.FirstSweep
import SceneBridge.Proofs.Outbound.FixedPoint
import SceneBridge.Proofs.Outbound.Progress
import SceneBridge.Proofs.Outbound.Requests
import SceneBridge.Proofs.Outbound.Step
import SceneBridge.Proofs.Outbound.Waits
import SceneBridge.Proofs.Outbound.Warnings
import SceneBridge.Proofs.Playback
import SceneBridge.Proofs.Playback.Accounts
import SceneBridge.Proofs.Playback.Effect
import SceneBridge.Proofs.SceneDescription
import SceneBridge.Proofs.SceneDescription.Families
import SceneBridge.Proofs.SceneDescription.Outcome
import SceneBridge.Proofs.SceneDescription.Residue
import SceneBridge.Proofs.SceneDescription.Spawned
import SceneBridge.Proofs.TemplateRegistry
import SceneBridge.Proofs.Wire.Canonical
import SceneBridge.Proofs.Wire.Decoding
import SceneBridge.Proofs.Wire.RoundTrip
import SceneBridge.Proofs.World
import SceneBridge.Proofs.World.Calls
import SceneBridge.Proofs.World.Changes
import SceneBridge.Proofs.World.Columns
import SceneBridge.Proofs.World.Instances
import SceneBridge.SceneDescription
import SceneBridge.Single
import SceneBridge.TemplateRegistry
import SceneBridge.Text.Blank
import SceneBridge.Text.Control
import SceneBridge.Text.Digit
import SceneBridge.Text.Letter
import SceneBridge.Text.PathName
import SceneBridge.Text.Utf8
import SceneBridge.Toml.Decoder
import SceneBridge.Toml.Document
import SceneBridge.Toml.Number
import SceneBridge.Toml.Scan
import SceneBridge.Toml.Value
import SceneBridge.Transform
import SceneBridge.Wire.Codec
import SceneBridge.Wire.Inbuilt
import SceneBridge.Wire.Snapshot
import SceneBridge.WordPair
import SceneBridge.World
import SceneBridge.World.Error
