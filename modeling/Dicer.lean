import Dicer.Token.Escalation
import Dicer.Archive.Containment
import Dicer.Networks.Races
import Dicer.Networks.Bridges
import Dicer.Instance.Registered
import Dicer.Instance.Restarts
import Dicer.Instance.Halted
import Dicer.Instance.Heard
import Dicer.Images.Disks
import Dicer.Images.Collecting
import Dicer.Images.Naming
import Dicer.Events.Writing
import Dicer.Events.Following
import Dicer.FileStore.Renaming
import Dicer.Token.Secrets
import Dicer.HostNet.TornDown
import Dicer.HostNet.Reloading
import Dicer.Hypervisor.Memory
import Dicer.Diskfile.Overlay
import Dicer.Instance.Validity
import Dicer.Sizing.Resizing
import Dicer.Monitoring.Probing
import Dicer.Compose.Interpolate
import Dicer.Diskfile.Copy
import Dicer.Images.Garbage
import Dicer.Registry.Cache
import Dicer.Networks.Counting
import Dicer.DNS.Server
import Dicer.GrpcServer.Instances
import Dicer.Compose.Words
import Dicer.Token.Format
import Dicer.Compose.Subnets
import Dicer.Instance.Tail
import Dicer.Compose.Ports
import Dicer.Compose.Aliases
import Dicer.Names
import Dicer.Initrd
import Dicer.Instance.Idle
import Dicer.GrpcServer.Changes
