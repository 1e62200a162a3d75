namespace AdaptiveResolution

def Environment := String → Option ByteArray

def Environment.text (environment : Environment) (name : String) : Option String :=
  (environment name).bind String.fromUTF8?

end AdaptiveResolution
