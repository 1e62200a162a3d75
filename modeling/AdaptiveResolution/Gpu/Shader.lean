import AdaptiveResolution.FileStore
import AdaptiveResolution.Gpu.Device
import AdaptiveResolution.Text.Quoted

namespace AdaptiveResolution.Gpu.Shader

variable {ε : Type}

def labelText : Option String → String
  | none => "None"
  | some label => "Some(" ++ Text.quote label ++ ")"

def ofSource (label : Option String) (source : String) : Action Device ε Shader := do
  Action.note .debug .shader ("Compiling shader " ++ labelText label)
  Device.createShader label source

def ofFile (store : FileStore) (path : ByteArray) : Action Device FileError Shader := do
  let source ← Action.ofOutcome (.ofExcept (store.readText path.toList))
  ofSource (String.fromUTF8? path) source

end AdaptiveResolution.Gpu.Shader
