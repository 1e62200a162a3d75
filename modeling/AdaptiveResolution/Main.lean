import AdaptiveResolution.Demo

open AdaptiveResolution AdaptiveResolution.Demo

def settled {σ α : Type} (reply : Reply σ Failure α) : IO (α × σ) := do
  for entry in reply.journal do
    if entry.level = .warn then IO.eprintln entry.text
  match reply.outcome with
  | .done a => return (a, reply.state)
  | .failed e => throw (IO.userError e.message)
  | .trapped t => throw (IO.userError t.message)

def clock : IO Duration := return .ofNanos (← IO.monoNanosNow)

def overrides : IO Environment := do
  let overriding : List Pacing.Variable :=
    [.targetRate, .window, .scaleFloor, .scaleCeiling, .threshold]
  let values ← overriding.mapM fun v => return (v.name, ← IO.getEnv v.name)
  return fun name => ((values.lookup name).bind id).map String.toUTF8

def swapChain (path : Option String) : IO (Action Gpu.Device Failure SwapChain.Offscreen) := do
  match path with
  | none => return SwapChain.Offscreen.withFractalTiles .immediate size
  | some path =>
    let source ← IO.FS.readFile path
    return do
      let shader ← Gpu.Shader.ofSource (some path) source
      SwapChain.Offscreen.create .immediate size shader "main" SwapChain.fractalTilesPalette

def main (args : List String) : IO Unit := do
  let (presenter, _) ← settled (start (← overrides) (← swapChain args.head?) {})
  IO.println startLine
  let begun ← clock
  let mut p := presenter
  for _ in List.range frameCount do
    let (line, next) ← settled (frame (← clock) p)
    line.forM IO.println
    p := next
  let elapsed := (← clock).since begun
  IO.println (doneLine elapsed)
  IO.println (countLine p.stats ++ averageText elapsed)
  let (line, _) ← settled (luminanceLine p)
  line.forM IO.println
