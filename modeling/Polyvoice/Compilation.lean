import Polyvoice.Delivery.Run
import Polyvoice.Settings
import Polyvoice.Speech.Anchoring
import Polyvoice.Speech.DigitCommas
import Polyvoice.Speech.Fragments

/-!
# Compiling a speech

A speech is prepared by passes over it, in a fixed order, and the prepared speech is
delivered. Nothing is sent to a voice: the outcome is the list of calls to be made.
-/

namespace Polyvoice

namespace Speech

/-- A speech as it is delivered, where `language` is the language that it starts in: commas between
digits are dropped, numbers are bracketed, gaps between ideographs get their silence, long texts are
cut, texts are brought into their normal form, and language changes are anchored. -/
def prepared (settings : Settings) (spelling : DigitSpelling) (language : String)
    (speech : Speech) : Speech :=
  let grouped := if settings.dropsDigitCommas then speech.mapText dropDigitCommas else speech
  let bracketed := (settings.numberSpeaker spelling language).bracket language grouped
  let spaced := match settings.gapSilence? with
    | some ms => pauseAtGaps ms bracketed
    | none => bracketed
  let limited := match settings.fragmentLimit with
    | some limit => cutLong limit.toNat spaced
    | none => spaced
  anchor (normalize settings.normalForm limited)

end Speech

variable {H : Type} [DecidableEq H]

/-- The calls that a speech is compiled to. -/
def compileCalls (settings : Settings) (roster : Roster H) (spelling : DigitSpelling)
    (speech : Speech) : List (Call H) :=
  Delivery.deliver roster (speech.prepared settings spelling roster.defaultLanguage)

/-- The notes made while a speech is compiled. -/
def compileNotes (settings : Settings) (roster : Roster H) (spelling : DigitSpelling)
    (speech : Speech) : List Note :=
  let prepared := speech.prepared settings spelling roster.defaultLanguage
  .compiling prepared.length roster.defaultLanguage :: Delivery.deliveryNotes roster prepared

end Polyvoice
