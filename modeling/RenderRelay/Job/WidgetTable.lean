import RenderRelay.Text.Blank
import RenderRelay.Text.Lowercase

/-! # The widget table

For the kinds of nodes that are well known, which input each widget position stands for.

* A position without a name is no input: the choice that an editor puts behind a seed, or an
  upload button.
* A kind is looked up as it is, then trimmed, then without regard to case. -/

namespace RenderRelay

open Text

/-- The input names of a kind by widget position. -/
abbrev WidgetNames := List (Option String)

/-- The well-known kinds. -/
def widgetTable : List (String × WidgetNames) :=
  [("KSampler", [some "seed", none, some "steps", some "cfg", some "sampler_name",
      some "scheduler", some "denoise"]),
    ("KSamplerAdvanced", [some "add_noise", some "noise_seed", none, some "steps", some "cfg",
      some "sampler_name", some "scheduler", some "start_at_step", some "end_at_step",
      some "return_with_leftover_noise"]),
    ("SamplerCustom", [some "add_noise", some "noise_seed", none, some "cfg"]),
    ("RandomNoise", [some "noise_seed", none]),
    ("BasicScheduler", [some "scheduler", some "steps", some "denoise"]),
    ("CheckpointLoaderSimple", [some "ckpt_name"]),
    ("VAELoader", [some "vae_name"]),
    ("CLIPLoader", [some "clip_name", some "type", some "device"]),
    ("DualCLIPLoader", [some "clip_name1", some "clip_name2", some "type", some "device"]),
    ("UNETLoader", [some "unet_name", some "weight_dtype"]),
    ("LoraLoader", [some "lora_name", some "strength_model", some "strength_clip"]),
    ("LoraLoaderModelOnly", [some "lora_name", some "strength_model"]),
    ("UpscaleModelLoader", [some "model_name"]),
    ("ControlNetLoader", [some "control_net_name"]),
    ("LoadImage", [some "image", none]),
    ("SaveImage", [some "filename_prefix"]),
    ("ImageScaleToTotalPixels", [some "upscale_method", some "megapixels"]),
    ("ImageScale", [some "upscale_method", some "width", some "height", some "crop"]),
    ("LatentUpscale", [some "upscale_method", some "width", some "height", some "crop"]),
    ("EmptyLatentImage", [some "width", some "height", some "batch_size"]),
    ("EmptySD3LatentImage", [some "width", some "height", some "batch_size"]),
    ("CLIPTextEncode", [some "text"]),
    ("TextEncodeQwenImageEdit", [some "prompt"]),
    ("FluxGuidance", [some "guidance"]),
    ("CLIPSetLastLayer", [some "stop_at_clip_layer"]),
    ("ControlNetApply", [some "strength"]),
    ("ModelSamplingAuraFlow", [some "shift"]),
    ("CFGNorm", [some "strength"])]

/-- The entry of a kind written without regard to case; the key is in small letters. -/
def widgetNamesByLower (key : String) : Option WidgetNames :=
  (widgetTable.find? fun entry => lower entry.1 = key).map Prod.snd

/-- The input names of a kind, if it is well known. -/
def widgetNames? (kind : Option String) : Option WidgetNames := do
  let kind ← kind
  (widgetTable.lookup kind).or
    ((widgetTable.lookup (trim kind)).or (widgetNamesByLower (lower (trim kind))))

/-- Names of inputs that hold a seed. -/
def isSeedName (name : String) : Bool := name = "seed" || name = "noise_seed"

/-- The choices that an editor puts behind a seed. -/
def controlChoices : List String := ["fixed", "increment", "decrement", "randomize"]

end RenderRelay
