import DeviceGateway.Registry.Basic

/-! The source of metadata, from which a gateway takes its devices and profiles, and to
which it reports the devices that it disables. -/

namespace DeviceGateway

/-- What can be asked of a source of metadata in state `μ`. -/
class MetadataSource (μ : Type) where
  /-- The devices assigned to a service. -/
  devicesFor : μ → String → Except GatewayError (List Device)
  profiles : μ → Except GatewayError (List Profile)
  /-- Takes note of the operating state of a device. -/
  report : μ → String → OperatingState → Except GatewayError μ

/-- A source that keeps no states and of which parts may be out of reach. -/
structure FixedSource where
  devices : List Device := []
  profiles : List Profile := []
  /-- What is answered instead of the devices, the profiles, or to a report. -/
  devicesFault : Option GatewayError := none
  profilesFault : Option GatewayError := none
  reportFault : Option GatewayError := none

instance : MetadataSource FixedSource where
  devicesFor s _ := s.devicesFault.elim (.ok s.devices) .error
  profiles s := s.profilesFault.elim (.ok s.profiles) .error
  report s _ _ := s.reportFault.elim (.ok s) .error

namespace Registry

/-- The profiles added whose names are free, in order. -/
def takeProfiles (r : Registry) (ps : List Profile) : Registry :=
  ps.foldl (fun r p => (r.addProfile p).toOption.getD r) r

/-- The devices added whose names and ids are free, in order. -/
def takeDevices (r : Registry) (ds : List Device) : Registry :=
  ds.foldl (fun r d => (r.addDevice d).toOption.getD r) r

/-- The registry after what could be fetched is taken in; done only once. Also the
names of the services asked for. -/
def bootstrap {μ : Type} [MetadataSource μ] (r : Registry) (source : μ) (service : String) :
    Registry × List String :=
  if r.initialized then (r, [])
  else
    let devices := (MetadataSource.devicesFor source service).toOption.getD []
    let profiles := (MetadataSource.profiles source).toOption.getD []
    ({ (r.takeProfiles profiles).takeDevices devices with initialized := true }, [service])

end Registry

end DeviceGateway
