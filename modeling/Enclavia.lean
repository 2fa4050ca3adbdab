import Enclavia.Deployment.CustomerAuthenticity
import Enclavia.Synchronizer.Mesh.Calls
import Enclavia.Synchronizer.Mesh.ForwardSize
import Enclavia.Synchronizer.Raft.Founding
import Enclavia.Synchronizer.Raft.Slots
import Enclavia.NbdClient.BootFreshness
import Enclavia.NbdClient.Fork
import Enclavia.NbdClient.FreshReads
import Enclavia.Server.ControlSystem
import Enclavia.Server.RetryRevoke
import Enclavia.Protocol.Upgrades.Ingest
import Enclavia.Cli.Confirm
import Enclavia.Volume.StoredBlob
import Enclavia.Volume.KilledSlots
import Enclavia.SecretsInit.EnvFile
import Enclavia.Volume.Secrecy
import Enclavia.Egress.Endpoints
import Enclavia.Egress.Closing
import Enclavia.Synchronizer.Node
import Enclavia.Server.Deadlock
import Enclavia.Egress.Authoring
import Enclavia.Protocol.PinIdentityWire
import Enclavia.Protocol.Upgrades.Panics
import Enclavia.Server.PrepareUpgrade
import Enclavia.Synchronizer.Raft.SnapshotOrder
import Enclavia.NbdClient.Budget
import Enclavia.Synchronizer.Raft.LogStore
import Enclavia.Client.Delivery
