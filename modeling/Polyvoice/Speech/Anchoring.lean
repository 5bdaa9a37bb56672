import Polyvoice.Cue

/-!
# Anchored language changes

A cue between a language change and the text that it governs would take effect while the old voice
is still active. Anchoring holds such cues back: within a stretch without text, language changes go
first, and the other cues follow, each kind in its own order.
-/

namespace Polyvoice.Speech

/-- Anchors a speech that follows the cues in `held`, which wait for the next text. -/
def anchorAfter (held : List Cue) : Speech → Speech
  | [] => held
  | .language code :: rest => .language code :: anchorAfter held rest
  | .text t :: rest => held ++ .text t :: anchorAfter [] rest
  | cue :: rest => anchorAfter (held ++ [cue]) rest

/-- Moves every language change ahead of the cues since the last text. -/
def anchor (speech : Speech) : Speech :=
  anchorAfter [] speech

end Polyvoice.Speech
