import Polyvoice.Fault

/-!
# Phones

The markup protocol has phones of its own, named by one or two letters. A phonetic text is read from
left to right; where two characters stand for one phone, they are taken together. Blanks part
words, and marks of length, rest and syllabicity stand for nothing. A stress mark is kept until the
next vowel, behind which the protocol expects it.
-/

namespace Polyvoice

/-- The phones of the markup protocol. -/
inductive Phone where
  | aa | ae | ah | ao | aw | ax | ay | eh | er | ey | ih | iy | ow | oy | uh | uw
  | b | ch | d | dh | f | g | h | jh | k | l | m | n | ng | p | r | s | sh | t | th | v | w | y
  | z | zh
deriving DecidableEq, Repr

namespace Phone

/-- The name of a phone. -/
def name : Phone → Text
  | aa => ['a', 'a'] | ae => ['a', 'e'] | ah => ['a', 'h'] | ao => ['a', 'o']
  | aw => ['a', 'w'] | ax => ['a', 'x'] | ay => ['a', 'y'] | eh => ['e', 'h']
  | er => ['e', 'r'] | ey => ['e', 'y'] | ih => ['i', 'h'] | iy => ['i', 'y']
  | ow => ['o', 'w'] | oy => ['o', 'y'] | uh => ['u', 'h'] | uw => ['u', 'w']
  | b => ['b'] | ch => ['c', 'h'] | d => ['d'] | dh => ['d', 'h'] | f => ['f'] | g => ['g']
  | h => ['h'] | jh => ['j', 'h'] | k => ['k'] | l => ['l'] | m => ['m'] | n => ['n']
  | ng => ['n', 'g'] | p => ['p'] | r => ['r'] | s => ['s'] | sh => ['s', 'h'] | t => ['t']
  | th => ['t', 'h'] | v => ['v'] | w => ['w'] | y => ['y'] | z => ['z'] | zh => ['z', 'h']

/-- The phones that can be stressed. -/
def isVowel : Phone → Bool
  | aa | ae | ah | ao | aw | ax | ay | eh | er | ey | ih | iy | ow | oy | uh | uw => true
  | _ => false

/-- The phone for two phonetic letters that are taken together. -/
def ofPair? : Char → Char → Option Phone
  | 'e', 'ɪ' => some ey
  | 'a', 'ɪ' => some ay
  | 'o', 'ʊ' => some ow
  | 'ə', 'ʊ' => some ow
  | 'a', 'ʊ' => some aw
  | 'ɔ', 'ɪ' => some oy
  | 't', 'ʃ' => some ch
  | 'd', 'ʒ' => some jh
  | 'ɜ', 'ː' => some er
  | _, _ => none

/-- The phone for one phonetic letter; a mark of length, rest or syllabicity is read but has no
phone. -/
def ofLetter? : Char → Option (Option Phone)
  | 'ɝ' => some er | 'ɚ' => some er
  | 'ɑ' => some aa | 'ɒ' => some aa | 'æ' => some ae | 'ʌ' => some ah | 'ɔ' => some ao
  | 'ə' => some ax | 'ɛ' => some eh | 'e' => some eh | 'ɪ' => some ih | 'i' => some iy
  | 'ʊ' => some uh | 'u' => some uw | 'a' => some aa | 'o' => some ow
  | 'b' => some b | 'd' => some d | 'ð' => some dh | 'f' => some f | 'ɡ' => some g
  | 'g' => some g | 'h' => some h | 'j' => some y | 'k' => some k | 'l' => some l
  | 'ɫ' => some l | 'm' => some m | 'n' => some n | 'ŋ' => some ng | 'p' => some p
  | 'ɹ' => some r | 'r' => some r | 'ɾ' => some t | 's' => some s | 'ʃ' => some sh
  | 't' => some t | 'θ' => some th | 'v' => some v | 'w' => some w | 'z' => some z
  | 'ʒ' => some zh | 'ʤ' => some jh | 'ʧ' => some ch
  | 'ː' => some none | 'ˑ' => some none | '.' => some none | '\u0329' => some none
  | _ => none

end Phone

/-- The degrees of stress. -/
inductive Stress where
  | primary
  | secondary
deriving DecidableEq, Repr

namespace Stress

/-- The name of a degree of stress. -/
def name : Stress → Text
  | primary => ['1']
  | secondary => ['2']

/-- The degree that a stress mark stands for. -/
def ofMark? : Char → Option Stress
  | 'ˈ' => some primary
  | 'ˌ' => some secondary
  | _ => none

end Stress

namespace Phones

/-- What a character, or a pair of characters, of a phonetic text stands for. -/
inductive Letter where
  | phone (phone : Phone)
  | stress (degree : Stress)
  /-- A blank, or a mark without a phone of its own. -/
  | silent
deriving DecidableEq, Repr

/-- What a single character stands for. -/
def Letter.ofChar? (c : Char) : Option Letter :=
  if isBlank c then some silent
  else
    match Stress.ofMark? c with
    | some degree => some (stress degree)
    | none =>
      match Phone.ofLetter? c with
      | some (some found) => some (phone found)
      | some none => some silent
      | none => none

/-- Puts a letter in front of those that were read. -/
def consLetter (letter : Letter) : Except Char (List Letter) → Except Char (List Letter)
  | .ok letters => .ok (letter :: letters)
  | .error symbol => .error symbol

/-- The letters of a phonetic text. A pair is preferred to its first character, and the error is
the first character that stands for nothing where it is met. -/
def letters : Text → Except Char (List Letter)
  | [] => .ok []
  | [c] =>
    match Letter.ofChar? c with
    | some letter => .ok [letter]
    | none => .error c
  | c :: d :: rest =>
    match Phone.ofPair? c d with
    | some found => consLetter (.phone found) (letters rest)
    | none =>
      match Letter.ofChar? c with
      | some letter => consLetter letter (letters (d :: rest))
      | none => .error c

/-- An element of a pronunciation. -/
inductive Sound where
  | phone (phone : Phone)
  | stress (degree : Stress)
deriving DecidableEq, Repr

/-- The name of an element. -/
def Sound.name : Sound → Text
  | phone found => found.name
  | stress degree => degree.name

/-- The sounds of letters, while a stress may wait for its vowel. Of several stress marks before a
vowel the last one counts. -/
def soundsAfter (waiting : Option Stress) : List Letter → List Sound
  | [] => []
  | .silent :: rest => soundsAfter waiting rest
  | .stress degree :: rest => soundsAfter (some degree) rest
  | .phone found :: rest =>
    match waiting with
    | some degree =>
      if found.isVowel then .phone found :: .stress degree :: soundsAfter none rest
      else .phone found :: soundsAfter waiting rest
    | none => .phone found :: soundsAfter none rest

/-- The names of sounds, parted by spaces. -/
def write (sounds : List Sound) : Text :=
  [' '].intercalate (sounds.map Sound.name)

/-- A phonetic text in the phones of the markup protocol. -/
def ofIpa (ipa : Text) : Except Fault Text :=
  match letters ipa with
  | .ok read => .ok (write (soundsAfter none read))
  | .error symbol => .error (.unknownPhone symbol ipa)

end Phones

end Polyvoice
