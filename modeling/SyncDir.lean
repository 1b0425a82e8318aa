import SyncDir.Client.Client
import SyncDir.Client.Inotify
import SyncDir.Client.IoThread
import SyncDir.Concurrency.BackupPushes
import SyncDir.Concurrency.DeviceLimit
import SyncDir.Concurrency.DeviceMutex
import SyncDir.Concurrency.Ending
import SyncDir.Concurrency.Logging
import SyncDir.Concurrency.Mailbox
import SyncDir.Concurrency.ManagerPerUser
import SyncDir.Concurrency.Mixing
import SyncDir.Concurrency.Sessions
import SyncDir.Concurrency.Stopping
import SyncDir.Concurrency.TornUpload
import SyncDir.Concurrency.Uploads
import SyncDir.Concurrency.WakeUp
import SyncDir.Library.ArrayList
import SyncDir.Library.BigEndian
import SyncDir.Library.CriticalSection
import SyncDir.Library.Custody
import SyncDir.Library.FileTree
import SyncDir.Library.Footprint
import SyncDir.Library.HandleTable
import SyncDir.Library.Hub
import SyncDir.Library.Interleaving
import SyncDir.Library.Lockstep
import SyncDir.Library.Mirror.Basic
import SyncDir.Library.Mirror.Convergence
import SyncDir.Library.Mirror.Crossing
import SyncDir.Library.Mirror.Echo
import SyncDir.Library.Mirror.Provenance
import SyncDir.Library.Mirror.Serial
import SyncDir.Library.Mirror.Termination
import SyncDir.Library.MutualExclusion
import SyncDir.Library.Ownership
import SyncDir.Library.Resumption
import SyncDir.Library.Transition
import SyncDir.Protocol.Announcement
import SyncDir.Protocol.ClientList
import SyncDir.Protocol.Cluster
import SyncDir.Protocol.ClusterState
import SyncDir.Protocol.CommandLine
import SyncDir.Protocol.CommandSession
import SyncDir.Protocol.Crossing
import SyncDir.Protocol.Download
import SyncDir.Protocol.Edits
import SyncDir.Protocol.Handshake
import SyncDir.Protocol.HandshakeStages
import SyncDir.Protocol.LateBackup
import SyncDir.Protocol.Listing
import SyncDir.Protocol.Pairing
import SyncDir.Protocol.Stalling
import SyncDir.Protocol.Sync
import SyncDir.Protocol.Waiting
import SyncDir.Protocol.Wiring
import SyncDir.Security.Footprints
import SyncDir.Security.Isolation
import SyncDir.Security.Requests
import SyncDir.Security.Survival
import SyncDir.Server.ClientManager
import SyncDir.Server.Descriptors
import SyncDir.Server.Device
import SyncDir.Server.DeviceAccess
import SyncDir.Server.FileWatcher
import SyncDir.Server.PacketContent
import SyncDir.Server.PushMailbox
import SyncDir.Server.Server
import SyncDir.Server.ThreadCalls
import SyncDir.Server.Threads
import SyncDir.Server.ThreadsOnHost
import SyncDir.Server.UploadCells
import SyncDir.Transfer.BackupSession
import SyncDir.Transfer.Closing
import SyncDir.Transfer.FailedBackups
import SyncDir.Transfer.FileNames
import SyncDir.Transfer.Handling
import SyncDir.Transfer.Push
import SyncDir.Transfer.Replication
import SyncDir.Transfer.SessionNames
import SyncDir.Transfer.Upload
import SyncDir.Transfer.WatchSession
import SyncDir.Utils.Bytes
import SyncDir.Utils.Chunks
import SyncDir.Utils.Decoding
import SyncDir.Utils.FileManager
import SyncDir.Utils.FileSystem
import SyncDir.Utils.Frames
import SyncDir.Utils.Framing
import SyncDir.Utils.Hashing
import SyncDir.Utils.NetworkManager
import SyncDir.Utils.Numbers
import SyncDir.Utils.RegularFiles
import SyncDir.Utils.Sockets
import SyncDir.Utils.Stream
import SyncDir.Utils.SystemCalls
