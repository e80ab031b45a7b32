import Testbed.Duration
import Testbed.NameMap
/-!
# How hosts are provisioned
-/

namespace Testbed

/-- What a freshly cloned machine is told about its surroundings. -/
structure CustomizationParams where
  domain : String
  timeZone : String
  dnsServers : List String
  dnsSuffixes : List String
  gateways : List String
  subnetMask : String
  deriving DecidableEq

def CustomizationParams.default : CustomizationParams where
  domain := "eng.vmware.com"
  timeZone := "America/Los_Angeles"
  dnsServers := ["10.172.40.1", "10.172.40.2"]
  dnsSuffixes := ["eng.vmware.com", "vmware.com"]
  gateways := ["10.172.211.253"]
  subnetMask := "255.255.255.0"

/-- The hypervisor, the machines to run on it, and how to log into them. -/
structure VmParams where
  vsphereUrl : String
  vsphereUsername : String
  vspherePassword : String
  templateVm : String
  hostUsername : String
  hostPassword : String
  /-- The hosts by alias, with their address where it is known beforehand. -/
  hosts : NameMap (Option String)
  customization : CustomizationParams
  ipPollInterval : Duration
  ipPollAttempts : UInt32
  deriving DecidableEq

namespace VmParams

def defaultPollInterval : Duration := .ofSecs 5

def defaultPollAttempts : UInt32 := 60

end VmParams

end Testbed
