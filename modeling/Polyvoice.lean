import Polyvoice.DigitNames.Document
import Polyvoice.Session
import Polyvoice.Settings.Document
import Polyvoice.Proofs.Delivery.ChunkPayloads
import Polyvoice.Proofs.Delivery.Coherence
import Polyvoice.Proofs.Delivery.Conservation
import Polyvoice.Proofs.Delivery.FragmentLimit
import Polyvoice.Proofs.Delivery.NumberVoices
import Polyvoice.Proofs.Delivery.ToldToSpell
import Polyvoice.Proofs.Session.Pausing
import Polyvoice.Proofs.Session.Refusals
import Polyvoice.Proofs.Delivery.Congruence
import Polyvoice.Proofs.Delivery.IdleChanges
import Polyvoice.Proofs.Delivery.OneVoice
import Polyvoice.Proofs.Delivery.Enclosing
import Polyvoice.Proofs.Delivery.SettingsInForce
import Polyvoice.Proofs.Delivery.WaitingCues
import Polyvoice.Proofs.Delivery.Seams
import Polyvoice.Proofs.Delivery.SpelledTexts
import Polyvoice.Proofs.Session.CalledVoices
import Polyvoice.Proofs.Delivery.Escapes
import Polyvoice.Proofs.Delivery.FragmentPayloads
import Polyvoice.Proofs.Speech.Anchored
import Polyvoice.Proofs.Speech.EmptyTexts
import Polyvoice.Proofs.Markup.StagingRuns
import Polyvoice.Proofs.Speech.Pauses
import Polyvoice.Proofs.Delivery.Contents
import Polyvoice.Proofs.Numeral.Parting
import Polyvoice.Proofs.Numeral.SegmentReading
import Polyvoice.Proofs.Delivery.SkippedCues
import Polyvoice.Proofs.Numeral.LanguageInForce
import Polyvoice.Proofs.Speech.EarlyCuts
import Polyvoice.Proofs.Phones.Words
import Polyvoice.Proofs.Speech.GroupedDigits
import Polyvoice.Proofs.Settings.Documents
import Polyvoice.Proofs.DigitNames.Listings
