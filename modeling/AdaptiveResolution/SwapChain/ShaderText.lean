namespace AdaptiveResolution.SwapChain

def ofLines (lines : List String) : String := String.join (lines.map (· ++ "\n"))

def upscaleSource : String := ofLines [
  "struct FrameConstants \x7b",
  "    time: f32,",
  "    scale: f32,",
  "    render_size: vec2<u32>,",
  "    output_size: vec2<u32>,",
  "    padding: vec2<u32>,",
  "\x7d",
  "",
  "@group(0) @binding(0) var source: texture_2d<f32>;",
  "@group(0) @binding(1) var destination: texture_storage_2d<rgba8unorm, write>;",
  "@group(0) @binding(2) var<uniform> constants: FrameConstants;",
  "",
  "// Nearest-neighbour stretch of the scaled render target over a back buffer.",
  "@compute @workgroup_size(8, 8, 1)",
  "fn upscale(@builtin(global_invocation_id) id: vec3<u32>) \x7b",
  "    if (id.x >= constants.output_size.x || id.y >= constants.output_size.y) \x7b",
  "        return;",
  "    \x7d",
  "",
  "    let last = constants.render_size - vec2<u32>(1u, 1u);",
  "    let source_xy = min(id.xy * constants.render_size / constants.output_size, last);",
  "",
  "    textureStore(destination, vec2<i32>(id.xy), textureLoad(source, vec2<i32>(source_xy), 0));",
  "\x7d"]

def fractalTilesSource : String := ofLines [
  "struct FrameConstants \x7b",
  "    time: f32,",
  "    scale: f32,",
  "    render_size: vec2<u32>,",
  "    output_size: vec2<u32>,",
  "    padding: vec2<u32>,",
  "\x7d",
  "",
  "@group(0) @binding(0) var output: texture_storage_2d<rgba8unorm, write>;",
  "@group(0) @binding(1) var<uniform> constants: FrameConstants;",
  "// [0]: per-channel tile hash offset, [1].xyz: output gamma.",
  "@group(0) @binding(2) var<storage, read> palette: array<vec4<f32>>;",
  "",
  "@compute @workgroup_size(8, 8, 1)",
  "fn main(@builtin(global_invocation_id) id: vec3<u32>) \x7b",
  "    if (id.x >= constants.render_size.x || id.y >= constants.render_size.y) \x7b",
  "        return;",
  "    \x7d",
  "",
  "    let time = constants.time;",
  "    var position = (256.0 * vec2<f32>(id.xy)) / f32(constants.render_size.x) + vec2<f32>(time, time);",
  "    var color = vec3<f32>(0.0, 0.0, 0.0);",
  "",
  "    for (var i = 0; i < 6; i = i + 1) \x7b",
  "        let a = floor(position);",
  "        let b = fract(position);",
  "        let w = fract((vec4<f32>(sin(a.x * 7.0 + 31.0 * a.y + 0.01 * time)) + palette[0]) * 13.545317);",
  "",
  "        color = color + w.xyz * 2.0 * smoothstep(0.45, 0.55, w.w)",
  "            * sqrt(16.0 * b.x * b.y * (1.0 - b.x) * (1.0 - b.y));",
  "",
  "        position = position / 2.0;",
  "        color = color / 2.0;",
  "    \x7d",
  "",
  "    textureStore(output, vec2<i32>(id.xy), vec4<f32>(pow(color, palette[1].xyz), 1.0));",
  "\x7d"]

end AdaptiveResolution.SwapChain
