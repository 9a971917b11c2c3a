import Spotuify.SecretRedaction

/-!
# Reading secrets

The first pass on characters instead of byte offsets.  A reader takes the text
from some point on and gives what is left of it.  The pass on byte offsets is
shown to read the same, and to panic exactly where a label is quoted by the
quote that closed the secret before it.
-/

namespace Spotuify.Redaction

def isLabelChar (char : Char) : Bool :=
  char.isAlphanum || char = '_' || char = '-'

def isSpace (char : Char) : Bool :=
  [' ', '\t', '\n', Char.ofNat 12, '\r'].contains char

def skipSpace (text : List Char) : List Char := text.dropWhile isSpace

/-- What follows the closing quote. -/
def readQuoted (quote : Char) : Bool → List Char → Option (List Char)
  | _, [] => none
  | true, _ :: rest => readQuoted quote false rest
  | false, char :: rest =>
    if char = '\\' then readQuoted quote true rest
    else if char = quote then some rest
    else readQuoted quote false rest

/-- What follows a value. -/
def readValue : List Char → Option (List Char)
  | [] => none
  | first :: rest =>
    if isQuote first then
      if rest.head? = some first then none else readQuoted first false rest
    else if endsValue first then none
    else some (rest.dropWhile fun char => !endsValue char)

/-- What follows the credential, or a scheme that stands alone. -/
def readAuthorization (text : List Char) : Option (List Char) :=
  if text.head?.any isQuote then readValue text
  else
    (readValue text).bind fun rest =>
      if rest.head?.any isSpace then readValue (skipSpace rest) else some rest

/-- A quoted label ends with its quote. -/
def skipKeyQuote (quote : Option Char) (rest : List Char) : List Char :=
  if quote.isSome then rest.tail else rest

/-- The value of an assignment, from behind its label. -/
def readKey (before : Option Char) (rest : List Char) : Option (List Char) :=
  if before.any isLabelChar ∨ rest.head?.any isLabelChar then none
  else
    let quote := before.filter isQuote
    if quote.isSome ∧ rest.head? ≠ quote then none
    else
      let rest := skipSpace (skipKeyQuote quote rest)
      if rest.head? = some '=' ∨ rest.head? = some ':' then
        some (skipSpace rest.tail)
      else none

def readLabelValue (label text : List Char) : Option (List Char) :=
  if label = "authorization".toList then readAuthorization text
  else readValue text

/-- What follows an assignment, from behind its label. -/
def readLabeled (before : Option Char) (label rest : List Char) :
    Option (List Char) :=
  (readKey before rest).bind (readLabelValue label)

/-- What follows the assignment at the head of a text. -/
def readSecret (before : Option Char) (text : List Char) :
    Option (List Char) :=
  secretLabels.findSome? fun label =>
    if label.isPrefixOf (text.map Char.toLower) then
      readLabeled before label (text.drop label.length)
    else none

/-- The first assignment of a text: what precedes its label, the character
before the label, the assignment from its label on, and what follows it. -/
structure FoundSecret where
  plain : List Char
  before : Option Char
  secret : List Char
  rest : List Char
  deriving DecidableEq

namespace FoundSecret

def isQuoted (found : FoundSecret) : Bool := found.before.any isQuote

/-- The quote of a label belongs to the assignment. -/
def kept (found : FoundSecret) : List Char :=
  if found.isQuoted then found.plain.dropLast else found.plain

/-- The label is quoted by a quote that is redacted already. -/
def overlaps (found : FoundSecret) : Bool :=
  found.isQuoted && found.plain.isEmpty

end FoundSecret

def firstSecret (before : Option Char) : List Char → Option FoundSecret
  | [] => none
  | char :: rest =>
    match readSecret before (char :: rest) with
    | some left =>
      some ⟨[], before,
        (char :: rest).take ((char :: rest).length - left.length), left⟩
    | none =>
      (firstSecret (some char) rest).map fun found =>
        { found with plain := char :: found.plain }

variable {text rest left : List Char} {before : Option Char}
  {label : List Char} {quote : Char} {escaped : Bool} {found : FoundSecret}

theorem readQuoted_suffix (reads : readQuoted quote escaped text = some left) :
    ∃ taken, taken ≠ [] ∧ text = taken ++ left := by
  fun_induction readQuoted quote escaped text with
  | case1 => cases reads
  | case2 char rest ih =>
    obtain ⟨taken, -, rfl⟩ := ih reads
    exact ⟨char :: taken, List.cons_ne_nil _ _, rfl⟩
  | case3 rest ih =>
    obtain ⟨taken, -, rfl⟩ := ih reads
    exact ⟨'\\' :: taken, List.cons_ne_nil _ _, rfl⟩
  | case4 rest =>
    cases reads
    exact ⟨[quote], List.cons_ne_nil _ _, rfl⟩
  | case5 char rest _ _ ih =>
    obtain ⟨taken, -, rfl⟩ := ih reads
    exact ⟨char :: taken, List.cons_ne_nil _ _, rfl⟩

theorem readValue_suffix (reads : readValue text = some left) :
    ∃ taken, taken ≠ [] ∧ text = taken ++ left := by
  cases text with
  | nil => cases reads
  | cons first rest =>
    simp only [readValue] at reads
    split at reads
    · split at reads
      · cases reads
      · obtain ⟨taken, -, rfl⟩ := readQuoted_suffix reads
        exact ⟨first :: taken, List.cons_ne_nil _ _, rfl⟩
    · split at reads
      · cases reads
      · cases reads
        refine ⟨first :: rest.takeWhile fun char => !endsValue char,
          List.cons_ne_nil _ _, ?_⟩
        rw [List.cons_append, List.takeWhile_append_dropWhile]

theorem skipSpace_suffix : ∃ taken, text = taken ++ skipSpace text :=
  ⟨text.takeWhile isSpace, List.takeWhile_append_dropWhile.symm⟩

theorem readAuthorization_suffix (reads : readAuthorization text = some left) :
    ∃ taken, taken ≠ [] ∧ text = taken ++ left := by
  unfold readAuthorization at reads
  split at reads
  · exact readValue_suffix reads
  · obtain ⟨rest, scheme, reads⟩ := Option.bind_eq_some_iff.mp reads
    obtain ⟨taken, nonempty, split⟩ := readValue_suffix scheme
    split at reads
    · obtain ⟨credential, -, skipped⟩ := readValue_suffix reads
      obtain ⟨space, spaced⟩ := @skipSpace_suffix rest
      refine ⟨taken ++ space ++ credential, by simp [nonempty], ?_⟩
      rw [List.append_assoc, List.append_assoc, ← skipped, ← spaced, ← split]
    · cases reads
      exact ⟨taken, nonempty, split⟩

theorem tail_suffix : ∃ taken, text = taken ++ text.tail :=
  ⟨text.take 1, by rw [← List.drop_one, List.take_append_drop]⟩

theorem skipKeyQuote_suffix {keyQuote : Option Char} :
    ∃ taken, text = taken ++ skipKeyQuote keyQuote text := by
  unfold skipKeyQuote
  split
  · exact tail_suffix
  · exact ⟨[], rfl⟩

theorem readKey_suffix (reads : readKey before text = some left) :
    ∃ taken, text = taken ++ left := by
  unfold readKey at reads
  simp only at reads
  split at reads
  · cases reads
  split at reads
  · cases reads
  split at reads
  · cases reads
    obtain ⟨quotes, quoted⟩ :=
      @skipKeyQuote_suffix text (before.filter isQuote)
    obtain ⟨space, spaced⟩ :=
      @skipSpace_suffix (skipKeyQuote (before.filter isQuote) text)
    obtain ⟨separator, rest⟩ :=
      @tail_suffix (skipSpace (skipKeyQuote (before.filter isQuote) text))
    obtain ⟨gap, gapped⟩ := @skipSpace_suffix
      (skipSpace (skipKeyQuote (before.filter isQuote) text)).tail
    refine ⟨quotes ++ (space ++ (separator ++ gap)), ?_⟩
    rw [List.append_assoc, List.append_assoc, List.append_assoc, ← gapped,
      ← rest, ← spaced, ← quoted]
  · cases reads

theorem readLabelValue_suffix
    (reads : readLabelValue label text = some left) :
    ∃ taken, taken ≠ [] ∧ text = taken ++ left := by
  unfold readLabelValue at reads
  split at reads
  · exact readAuthorization_suffix reads
  · exact readValue_suffix reads

theorem readLabeled_suffix
    (reads : readLabeled before label text = some left) :
    ∃ taken, taken ≠ [] ∧ text = taken ++ left := by
  obtain ⟨value, keyed, reads⟩ := Option.bind_eq_some_iff.mp reads
  obtain ⟨key, split⟩ := readKey_suffix keyed
  obtain ⟨taken, nonempty, rest⟩ := readLabelValue_suffix reads
  refine ⟨key ++ taken, by simp [nonempty], ?_⟩
  rw [List.append_assoc, ← rest, ← split]

theorem readSecret_cases (reads : readSecret before text = some left) :
    ∃ label ∈ secretLabels, label <+: text.map Char.toLower ∧
      readLabeled before label (text.drop label.length) = some left := by
  obtain ⟨label, member, found⟩ := List.exists_of_findSome?_eq_some reads
  split at found
  · rename_i isPrefix
    exact ⟨label, member, List.isPrefixOf_iff_prefix.mp isPrefix, found⟩
  · cases found

theorem readSecret_suffix (reads : readSecret before text = some left) :
    ∃ taken, taken ≠ [] ∧ text = taken ++ left := by
  obtain ⟨label, -, -, labeled⟩ := readSecret_cases reads
  obtain ⟨taken, nonempty, rest⟩ := readLabeled_suffix labeled
  refine ⟨text.take label.length ++ taken, by simp [nonempty], ?_⟩
  rw [List.append_assoc, ← rest, List.take_append_drop]

theorem firstSecret_sound (finds : firstSecret before text = some found) :
    text = found.plain ++ found.secret ++ found.rest ∧ found.secret ≠ [] ∧
      found.before = (found.plain.getLast?.or before) ∧
      readSecret found.before (found.secret ++ found.rest) =
        some found.rest := by
  induction text generalizing before found with
  | nil => cases finds
  | cons char rest ih =>
    rw [firstSecret] at finds
    split at finds
    · rename_i left reads
      cases finds
      obtain ⟨taken, nonempty, split⟩ := readSecret_suffix reads
      have secret : (char :: rest).take
          ((char :: rest).length - left.length) = taken := by
        rw [split, List.length_append, Nat.add_sub_cancel, List.take_left']
        rfl
      simp only [secret, List.nil_append, ← split]
      exact ⟨trivial, nonempty, rfl, reads⟩
    · obtain ⟨later, found, shifted⟩ := Option.map_eq_some_iff.mp finds
      cases shifted
      obtain ⟨split, nonempty, before, reads⟩ := ih found
      refine ⟨?_, nonempty, ?_, reads⟩
      · rw [split]
        rfl
      · simp only [before]
        cases later.plain with
        | nil => rfl
        | cons first others => simp [List.getLast?_cons]

theorem firstSecret_length (finds : firstSecret before text = some found) :
    found.rest.length < text.length := by
  obtain ⟨split, nonempty, -, -⟩ := firstSecret_sound finds
  have positive := List.length_pos_iff.mpr nonempty
  rw [split]
  simp only [List.length_append]
  omega

/-- The first pass on characters; it has no result where labels overlap. -/
def redactFrom (before : Option Char) (text : List Char) :
    Option (List Char) :=
  match _finds : firstSecret before text with
  | none => some text
  | some found =>
    if found.overlaps then none
    else
      (redactFrom found.secret.getLast? found.rest).map
        (found.kept ++ redacted ++ ·)
termination_by text.length
decreasing_by exact firstSecret_length _finds

end Spotuify.Redaction
