import SwitchdSai.Verify.VlanReconfigure
import SwitchdSai.Verify.VlanFailure
import SwitchdSai.Verify.PortAdd
import SwitchdSai.Verify.Pvid
import SwitchdSai.Verify.RifHandle
import SwitchdSai.Verify.LocalRoutes
import SwitchdSai.Verify.LocalExact
import SwitchdSai.Verify.Neighbors
import SwitchdSai.Verify.NeighborsLive
import SwitchdSai.Verify.IpReconfigure
import SwitchdSai.Verify.PortConfig
import SwitchdSai.Verify.NetdevLife
import SwitchdSai.Verify.Eeprom
import SwitchdSai.Verify.Traps
import SwitchdSai.Verify.RifMirror
import SwitchdSai.Verify.RifFollows
import SwitchdSai.Verify.Reports
import SwitchdSai.Verify.Idempotent
import SwitchdSai.Verify.Rejected
import SwitchdSai.Verify.Slaves
import SwitchdSai.Verify.HostRoutes
import SwitchdSai.Verify.PortDump
import SwitchdSai.Verify.Hash
import SwitchdSai.Verify.Registry
import SwitchdSai.Verify.RouteDelete
import SwitchdSai.Verify.Destroy
import SwitchdSai.Verify.TrapGroups
import SwitchdSai.Verify.EepromReads
import SwitchdSai.Verify.PortLabels
import SwitchdSai.Verify.PortEvents
import SwitchdSai.Verify.IpConvert
import SwitchdSai.Verify.NextHops
import SwitchdSai.Verify.NetdevFlags
import SwitchdSai.Verify.Provider
import SwitchdSai.Verify.PortTransaction
import SwitchdSai.Verify.ProviderRobust
import SwitchdSai.Verify.ProviderVlans
import SwitchdSai.Verify.ProviderLeaks
import SwitchdSai.Verify.Stats
