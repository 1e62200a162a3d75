import AdaptiveResolution.Environment
import AdaptiveResolution.Gpu.Device
import AdaptiveResolution.Text.Blank
import AdaptiveResolution.Text.Quoted

namespace AdaptiveResolution.Gpu

structure Adapter where
  name : String
  vendor : Nat
  device : Nat
  deviceType : String
  driver : String
  driverInfo : String
  api : String
  grants : Bool
  deriving DecidableEq, Repr

def Adapter.text (a : Adapter) : String :=
  "AdapterInfo \x7b name: " ++ Text.quote a.name ++ ", vendor: " ++ Nat.repr a.vendor ++
    ", device: " ++ Nat.repr a.device ++ ", device_type: " ++ a.deviceType ++
    ", driver: " ++ Text.quote a.driver ++ ", driver_info: " ++ Text.quote a.driverInfo ++
    ", backend: " ++ a.api ++ " \x7d"

inductive PlatformError where
  | noAdapter
  | deviceRefused
  deriving DecidableEq, Repr

def PlatformError.message : PlatformError → String
  | noAdapter => "no suitable GPU adapter found"
  | deviceRefused => "Requesting a device failed"

def PlatformError.detail : PlatformError → String
  | noAdapter => "NoAdapter"
  | deviceRefused => "RequestDevice(RequestDeviceError)"

def smallLetter (c : Char) : Char := if c = '\u212a' then 'k' else c.toLower

def Api.ofName (name : String) : Option Api :=
  if name = "vulkan" ∨ name = "vk" then some .vulkan
  else if name = "dx12" ∨ name = "d3d12" then some .direct12
  else if name = "dx11" ∨ name = "d3d11" then some .direct11
  else if name = "metal" ∨ name = "mtl" then some .metal
  else if name = "opengl" ∨ name = "gles" ∨ name = "gl" then some .openGl
  else if name = "webgpu" then some .web
  else none

def Api.primary : List Api := [.vulkan, .metal, .direct12, .web]

def Api.all : List Api := [.vulkan, .metal, .direct12, .direct11, .openGl, .web]

def Api.ofText (text : String) : List Api :=
  let names := (text.toList.map smallLetter).splitOnP (· == ',')
  let named := names.filterMap fun name => ofName (String.ofList (Text.trim name))
  all.filter (· ∈ named)

def Power.ofText (text : String) : Option Power :=
  let name := String.ofList (text.toList.map smallLetter)
  if name = "low" then some .low else if name = "high" then some .high else none

def openDevice (environment : Environment) (adapter : Option Adapter) :
    Action Device PlatformError Adapter := do
  let apis := ((environment.text "WGPU_BACKEND").map Api.ofText).getD Api.primary
  let power := ((environment.text "WGPU_POWER_PREF").bind Power.ofText).getD .high
  Device.issue (.openInstance apis)
  Device.issue (.requestAdapter power)
  match adapter with
  | none => Action.fail .noAdapter
  | some adapter =>
    Action.note .info .platform ("Using adapter " ++ adapter.text)
    Device.issue (.requestDevice "gpgpu-dynres device")
    if adapter.grants then return adapter else Action.fail .deviceRefused

end AdaptiveResolution.Gpu
