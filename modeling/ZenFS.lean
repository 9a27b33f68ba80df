import ZenFS.Basic
import ZenFS.Zone
import ZenFS.Double
import ZenFS.DataPath
import ZenFS.Device
import ZenFS.Scan
import ZenFS.Select
import ZenFS.Sweep
import ZenFS.Migrate
import ZenFS.Allocate
import ZenFS.Open
import ZenFS.System
import ZenFS.ActiveTokens
import ZenFS.Geometry
import ZenFS.MetaZones
import ZenFS.Migration
import ZenFS.Choice
import ZenFS.CallTokens
import ZenFS.Progress
import ZenFS.Tokens
import ZenFS.LeastReset
import ZenFS.Reclaim
import ZenFS.Json
import ZenFS.Idle
import ZenFS.Space
import ZenFS.Lookup
import ZenFS.LiveData
import ZenFS.Busy
import ZenFS.Wear
import ZenFS.Damping
