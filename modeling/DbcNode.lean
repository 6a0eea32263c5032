import DbcNode.Lib.BlockHash
import DbcNode.Lib.Bytes
import DbcNode.Lib.Digits
import DbcNode.Lib.Documents
import DbcNode.Lib.OrdMap
import DbcNode.Lib.Fills
import DbcNode.Lib.Prog
import DbcNode.Lib.Frame
import DbcNode.Lib.Frames
import DbcNode.Lib.Keyed
import DbcNode.Lib.Latest
import DbcNode.Lib.Ledger
import DbcNode.Lib.Links
import DbcNode.Lib.Locks
import DbcNode.Lib.Lru
import DbcNode.Lib.Masks
import DbcNode.Lib.NatTable
import DbcNode.Lib.Radix
import DbcNode.Lib.Rounding
import DbcNode.Lib.Runs
import DbcNode.Lib.Stages
import DbcNode.Lib.Varint
import DbcNode.ByteBuf
import DbcNode.Message
import DbcNode.Thrift.Protocol
import DbcNode.Thrift.Schema
import DbcNode.Thrift.Wire
import DbcNode.Thrift.Agree
import DbcNode.Thrift.ReadBack
import DbcNode.Thrift.Binary
import DbcNode.Thrift.Values
import DbcNode.Thrift.SkipValues
import DbcNode.Thrift.BinaryValues
import DbcNode.Thrift.Compact
import DbcNode.Thrift.CompactWire
import DbcNode.Thrift.CompactRead
import DbcNode.Thrift.CompactValues
import DbcNode.Thrift.Mixed
import DbcNode.Thrift.Steady
import DbcNode.Thrift.Tame
import DbcNode.Thrift.TameWires
import DbcNode.Thrift.Varints
import DbcNode.Coder.Coder
import DbcNode.Coder.Receive
import DbcNode.Coder.Chunking
import DbcNode.Coder.ChunkingRuns
import DbcNode.Coder.Packet
import DbcNode.Coder.History
import DbcNode.Coder.Unpack
import DbcNode.Coder.Invertible
import DbcNode.Coder.RoundTrip
import DbcNode.Coder.Relay
import DbcNode.Coder.Robust
import DbcNode.Coder.SkipExact
import DbcNode.NonceFilter
import DbcNode.Channel.Handler
import DbcNode.Channel.Capacity
import DbcNode.Channel.Frames
import DbcNode.Channel.Paths
import DbcNode.Channel.SendQueue
import DbcNode.Channel.Sessions
import DbcNode.Peer.Network
import DbcNode.Peer.Service
import DbcNode.Peer.Steps
import DbcNode.Peer.Handlers
import DbcNode.Peer.Replies
import DbcNode.Peer.LoggedIn
import DbcNode.Peer.Authenticated
import DbcNode.Peer.Candidates
import DbcNode.Peer.CandidateList
import DbcNode.Peer.Bursts
import DbcNode.Peer.Connections
import DbcNode.Peer.Connector
import DbcNode.Peer.Sockets
import DbcNode.Peer.InUse
import DbcNode.Peer.KeepAlive
import DbcNode.Peer.LearnedIds
import DbcNode.Peer.Table
import DbcNode.Peer.Placed
import DbcNode.Peer.Routes
import DbcNode.Peer.SaveLoad
import DbcNode.Peer.Stuck
import DbcNode.Request.Authority
import DbcNode.Request.Checks
import DbcNode.Request.Flood
import DbcNode.Request.Threshold
import DbcNode.Request.Replay
import DbcNode.Request.FloodBound
import DbcNode.Task.Host
import DbcNode.Task.Resources
import DbcNode.Task.Create
import DbcNode.Task.Disks
import DbcNode.Task.Modify
import DbcNode.Task.Requests
import DbcNode.Task.Events
import DbcNode.Task.Frames
import DbcNode.Task.Footprints
import DbcNode.Task.Queue
import DbcNode.Task.Down
import DbcNode.Task.Records
import DbcNode.Task.TaskThread
import DbcNode.Task.ShutOff
import DbcNode.Task.DiskNames
import DbcNode.Task.DomainHolds
import DbcNode.Task.Edits
import DbcNode.Task.RunningSet
import DbcNode.Task.Deleted
import DbcNode.Task.FileNames
import DbcNode.Task.Backing
import DbcNode.Task.BackingRuns
import DbcNode.Task.ChainClient
import DbcNode.Task.ChainFailover
import DbcNode.Task.Cpus
import DbcNode.Task.CreateXml
import DbcNode.Task.RedefineXml
import DbcNode.Task.GpuXml
import DbcNode.Task.GpuReread
import DbcNode.Task.Gpus
import DbcNode.Task.GpuSound
import DbcNode.Task.GpuUse
import DbcNode.Task.Persisted
import DbcNode.Task.Stages
import DbcNode.Task.StageRuns
import DbcNode.Task.ModifyAtomic
import DbcNode.Task.Nat
import DbcNode.Task.NatInstalls
import DbcNode.Task.NatViews
import DbcNode.Task.NatJobs
import DbcNode.Task.PortTexts
import DbcNode.Task.NatSteps
import DbcNode.Task.NatModify
import DbcNode.Task.NatReset
import DbcNode.Task.NwFilter
import DbcNode.Task.NwSound
import DbcNode.Task.Owners
import DbcNode.Task.PortEdits
import DbcNode.Task.PortForms
import DbcNode.Task.Ports
import DbcNode.Task.Prune
import DbcNode.Task.Pruned
import DbcNode.Task.Reload
import DbcNode.Task.Transient
import DbcNode.Buffer.RawBuf
import DbcNode.Buffer.Fifo
import DbcNode.Buffer.Growth
import DbcNode.Buffer.View
import DbcNode.Bus.MsgQueue
import DbcNode.Bus.Topics
import DbcNode.Bus.Subscriptions
import DbcNode.Filter.RollingBloom
import DbcNode.Filter.BloomLru
import DbcNode.Gossip.ServiceInfos
import DbcNode.Gossip.Converge
import DbcNode.Image.Jobs
import DbcNode.Image.Bookkeeping
import DbcNode.Image.Keys
import DbcNode.Image.Snapshots
import DbcNode.Image.Locks
import DbcNode.Image.SnapshotRuns
import DbcNode.Lan.Network
import DbcNode.Lan.Node
import DbcNode.Lan.Records
import DbcNode.Lan.Steps
import DbcNode.Lan.Sends
import DbcNode.Lan.Receives
import DbcNode.Lan.Timers
import DbcNode.Lan.Creation
import DbcNode.Lan.Converge
import DbcNode.Lan.Flags
import DbcNode.Lan.Handover
import DbcNode.Lan.Takeovers
import DbcNode.Lan.Hearsay
import DbcNode.Lan.InUse
import DbcNode.Lan.Joined
import DbcNode.Lan.OneServer
import DbcNode.Lan.Ranges
import DbcNode.Lan.Stored
import DbcNode.Lan.StoredRuns
import DbcNode.Lan.Vnis
import DbcNode.Monitor.Usage
import DbcNode.Monitor.Recipients
import DbcNode.Monitor.Sender
import DbcNode.Rest.Service
import DbcNode.Rest.Replies
import DbcNode.Timer.Module
import DbcNode.Timer.History
import DbcNode.Timer.Tracks
import DbcNode.Timer.Steps
import DbcNode.Timer.Independent
import DbcNode.Util.Base64
import DbcNode.Util.Sha256
import DbcNode.Util.Base58
import DbcNode.Util.MemScan
import DbcNode.Util.MemInfo
import DbcNode.Util.Crypt
import DbcNode.Util.CryptBounds
import DbcNode.Util.CryptExact
import DbcNode.Util.RwLock
import DbcNode.Util.Strings
