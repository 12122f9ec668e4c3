import Gc3.Lib.Runs
import Gc3.Lib.Shared
import Gc3.Lib.Alternation
import Gc3.Lib.Streak
import Gc3.Lib.Past
import Gc3.Lib.Fallible
import Gc3.Lib.Pointwise
import Gc3.Lib.Utf8
import Gc3.Lib.Loop
import Gc3.Lib.Framing
import Gc3.Lib.KeySort
import Gc3.Lib.Ask
import Gc3.Py.Runtime
import Gc3.Py.Json
import Gc3.Py.Bytes
import Gc3.Py.Latin1
import Gc3.Pygc3.Models
import Gc3.Pygc3.Client
import Gc3.Pygc3.Wire
import Gc3.Pygc3.Classify
import Gc3.Pygc3.Parsing
import Gc3.Pygc3.Sessions
import Gc3.Hass.Core
import Gc3.Hass.Coordinator
import Gc3.Hass.Watch
import Gc3.Hass.BinarySensor
import Gc3.Hass.Supervision
import Gc3.Hass.Reload
import Gc3.Hass.Isolation
import Gc3.Hass.AlarmState
import Gc3.Hass.AlarmControlPanel
import Gc3.Hass.NightFlag
import Gc3.Hass.Traffic
import Gc3.Hass.ClosedLoop
import Gc3.Hass.Interleave
import Gc3.Hass.Provenance
import Gc3.Hass.Hub
import Gc3.Hass.EntityRegistry
import Gc3.Hass.ZoneSync
import Gc3.Hass.ZoneOrder
import Gc3.Hass.OpenZones
import Gc3.Hass.Openings
import Gc3.Hass.Mirror
import Gc3.Hass.Home
import Gc3.Hass.ConfigFlow
import Gc3.Hass.ConfigEntries
import Gc3.Hass.Options
import Gc3.Hass.Redaction
import Gc3.Hass.Diagnostics
import Gc3.Tools.MdnsProbe
import Gc3.Tools.MdnsDecode
import Gc3.Tools.MdnsMessage
import Gc3.Tools.MdnsQuery
import Gc3.Tools.MdnsRdata
import Gc3.Tools.MdnsVerdict
import Gc3.Tools.SseProbe
import Gc3.Tools.SseFraming
import Gc3.Tools.SseGreeting
import Gc3.Tools.SseEvents
import Gc3.Tools.Pair
import Gc3.Tools.PairClient
import Gc3.Tools.PairExperiments
