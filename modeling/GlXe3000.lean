import GlXe3000.Cellular.Sim.PinBinding
import GlXe3000.Cellular.At.Correlation
import GlXe3000.Cellular.Watchdog.RadioOff
import GlXe3000.Cellular.Wwan.FlashExclusion
import GlXe3000.Cellular.Wwan.IntentWins
import GlXe3000.Cellular.Rat.Fallback
import GlXe3000.Cellular.Traffic.Overcount
import GlXe3000.Cellular.Wwan.Serialized
import GlXe3000.Cellular.Upgrade.CheckedPackage
import GlXe3000.Oui.ChallengeSound
import GlXe3000.Oui.SessionLifetime
import GlXe3000.Oui.Lockout
import GlXe3000.Cloud.NoUpgrade
import GlXe3000.Oui.Subnet.Atomic
import GlXe3000.Oui.Subnet.Disjoint
import GlXe3000.Oui.Vpn.OneTunnel
import GlXe3000.Oui.Vpn.WgServerRuntime
import GlXe3000.Oui.Vpn.OvpnServerRuntime
import GlXe3000.Oui.DnsOwner
import GlXe3000.Oui.RemotePorts
import GlXe3000.Mesh.Exclusion
import GlXe3000.Portal.SideEffects
import GlXe3000.Portal.RouteMarker
import GlXe3000.Mcu.Standby
import GlXe3000.WanHealth.Pacing
import GlXe3000.NetworkQuality.Generations
import GlXe3000.Cellular.Bands.Effect
import GlXe3000.Cellular.Profiles
import GlXe3000.Cellular.Rat.TowerState
import GlXe3000.Cellular.Pdp.AttachProfile
import GlXe3000.Cellular.Radio.Agreement
import GlXe3000.Cellular.Radio.Cache
import GlXe3000.Cellular.Sms
import GlXe3000.Cellular.Watchdog.AttachLost
import GlXe3000.Mcu.Message
import GlXe3000.Portal.Domains
import GlXe3000.Repeater.PortalInfo
import GlXe3000.WanHealth.Freshness
import GlXe3000.Oui.Multiwan
import GlXe3000.Oui.Subnet.WanMode
import GlXe3000.Oui.ClientList
import GlXe3000.Oui.ClientTraffic
import GlXe3000.Oui.AccessList
import GlXe3000.Oui.FirewallEditors
import GlXe3000.Oui.ShareUsers
import GlXe3000.Oui.Subnet.Arithmetic
import GlXe3000.Cloud.Backoff
import GlXe3000.Cloud.Routes
