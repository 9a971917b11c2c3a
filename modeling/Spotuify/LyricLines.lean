import Mathlib.Data.List.Sort
import Spotuify.SeekInputs
import Spotuify.Utf8Text

/-!
# Timed lyrics

A text of timed lyrics is read line by line: a line that begins with timestamps
is an entry for each of them, a line without any continues the one before, and
a line that begins with another tag is skipped.  Numbers are read without bound
to say what the text means; the parser reads them into 64 bits.
-/

namespace Spotuify

namespace Lyrics

/-- `str::split_once`. -/
def splitOnce (separator : Char) :
    List Char → Option (List Char × List Char)
  | [] => none
  | char :: rest =>
    if char = separator then some ([], rest)
    else (splitOnce separator rest).map fun parts =>
      (char :: parts.1, parts.2)

/-- `str::lines`. -/
def textLines (text : List Char) : List (List Char) :=
  let pieces := text.splitOn '\n'
  let ended := pieces.dropLast.map fun piece =>
    (piece.dropSuffix? ['\r']).getD piece
  ended ++ (pieces.getLast?.filter fun piece => !piece.isEmpty).toList

/-- `str::trim_end`. -/
def trimEnd (chars : List Char) : List Char :=
  (chars.reverse.dropWhile isWhitespace).reverse

def unsignedDigits (chars : List Char) : List Char :=
  if chars.head? = some '+' then chars.tail else chars

/-- `str::parse` of an unsigned integer of any size. -/
def readNumber (chars : List Char) : Option Nat :=
  let digits := unsignedDigits chars
  if digits.isEmpty || !digits.all Char.isDigit then none
  else
    some (digits.foldl (fun value digit => value * 10 + (digit.toNat - 48)) 0)

structure Timestamp where
  minutes : Nat
  seconds : Nat
  millis : Nat
  deriving DecidableEq

def Timestamp.ms (timestamp : Timestamp) : Nat :=
  timestamp.minutes * 60000 + timestamp.seconds * 1000 + timestamp.millis

/-- The number a fraction's digits stand for, in thousandths. -/
def readFraction (number : List Char → Option Nat) (raw : List Char) :
    Option Nat :=
  match Utf8.size raw with
  | 1 => (number raw).map (· * 100)
  | 2 => (number raw).map (· * 10)
  | 3 => number raw
  | _ => none

/-- What follows the minutes: the seconds and the thousandths. -/
def readSeconds (number : List Char → Option Nat) (rest : List Char) :
    Option (Nat × Nat) :=
  let (seconds, fraction) :=
    match splitOnce '.' rest with
    | some (seconds, fraction) => (seconds, some fraction)
    | none => (rest, none)
  match number seconds with
  | none => none
  | some seconds =>
    if seconds ≥ 60 then none
    else
      match fraction with
      | some raw =>
        (readFraction number raw).map fun millis => (seconds, millis)
      | none => some (seconds, 0)

/-- A tag `minutes:seconds` or `minutes:seconds.fraction`. -/
def readTimestamp (number : List Char → Option Nat) (value : List Char) :
    Option Timestamp :=
  match splitOnce ':' value with
  | none => none
  | some (minutes, rest) =>
    match number minutes with
    | none => none
    | some minutes =>
      (readSeconds number rest).map fun parts =>
        ⟨minutes, parts.1, parts.2⟩

/-- An overflow panics in a checked build and loses the time in a release. -/
inductive ParsePanic where
  | overflow
  deriving DecidableEq

def parseTimestamp (value : List Char) : Except ParsePanic (Option Nat) :=
  match readTimestamp parseU64 value with
  | none => .ok none
  | some timestamp =>
    if timestamp.ms < 2 ^ 64 then .ok (some timestamp.ms)
    else .error .overflow

/-- The tag a line begins with and what follows it. -/
def firstTag (line : List Char) : Option (List Char × List Char) :=
  match line with
  | '[' :: after => splitOnce ']' after
  | _ => none

theorem splitOnce_length {separator : Char} {chars before after : List Char}
    (split : splitOnce separator chars = some (before, after)) :
    after.length < chars.length := by
  induction chars generalizing before with
  | nil => cases split
  | cons char rest inductionHypothesis =>
    rw [splitOnce] at split
    by_cases found : char = separator
    · rw [if_pos found] at split
      cases split
      exact Nat.lt_succ_self _
    · rw [if_neg found, Option.map_eq_some_iff] at split
      obtain ⟨⟨start, stop⟩, split, same⟩ := split
      cases same
      exact Nat.lt_succ_of_lt (inductionHypothesis split)

theorem firstTag_length {line tag after : List Char}
    (tagged : firstTag line = some (tag, after)) :
    after.length < line.length := by
  unfold firstTag at tagged
  split at tagged
  · exact Nat.lt_succ_of_lt (splitOnce_length tagged)
  · cases tagged

def opensTag (line : List Char) : Bool := line.head? = some '['

/-- `split_timestamps` with the timestamps found so far. -/
def splitTimestamps (timestamps : List Nat) (line : List Char) :
    Except ParsePanic (Option (List Nat × List Char)) :=
  if opensTag line then
    match tagged : firstTag line with
    | none => .ok none
    | some (tag, after) =>
      match parseTimestamp tag with
      | .error panic => .error panic
      | .ok (some timestamp) =>
        have := firstTag_length tagged
        splitTimestamps (timestamps ++ [timestamp]) after
      | .ok none =>
        if timestamps.isEmpty then .ok none
        else .ok (some (timestamps, line))
  else
    .ok (some (timestamps, line))
termination_by line.length

structure LyricLine where
  startMs : Nat
  text : List Char
  isRtl : Bool
  deriving DecidableEq

section Parser

/- `isRtl` is the direction of a text's first paragraph. -/
variable (isRtl : List Char → Bool)

def appendContinuation (line : LyricLine) (text : List Char) : LyricLine :=
  if text.isEmpty then line
  else
    let joined :=
      if line.text.isEmpty then text else line.text ++ '\n' :: text
    { line with text := joined, isRtl := isRtl joined }

structure ParserState where
  parsed : List LyricLine
  lastIndex : Option Nat

def parseLine (state : ParserState) (rawLine : List Char) :
    Except ParsePanic ParserState :=
  let line := trimEnd rawLine
  if (trim line).isEmpty then .ok state
  else
    match splitTimestamps [] line with
    | .error panic => .error panic
    | .ok none => .ok state
    | .ok (some (timestamps, rest)) =>
      let text := trim rest
      if timestamps.isEmpty then
        match state.lastIndex with
        | none => .ok state
        | some index =>
          .ok { state with
            parsed := state.parsed.modify index
              (appendContinuation isRtl · text) }
      else
        .ok (timestamps.foldl
          (fun state startMs =>
            { parsed := state.parsed ++ [⟨startMs, text, isRtl text⟩]
              lastIndex := some state.parsed.length })
          state)

def parseLines (state : ParserState) :
    List (List Char) → Except ParsePanic ParserState
  | [] => .ok state
  | line :: rest => do
    let state ← parseLine isRtl state line
    parseLines state rest

def parseLrc (input : List Char) : Except ParsePanic (List LyricLine) := do
  let input := input.dropWhile (· = '\uFEFF')
  let state ← parseLines isRtl ⟨[], none⟩ (textLines input)
  return state.parsed.insertionSort fun first second =>
    first.startMs ≤ second.startMs

end Parser

/-- What a line says; a timed line has at least one timestamp. -/
inductive LineKind where
  | timed (first : Nat) (others : List Nat) (text : List Char)
  | continuation (text : List Char)
  | skipped
  deriving DecidableEq

/-- A timed line with all its continuations. -/
structure LyricBlock where
  timestamps : List Nat
  text : List Char
  continuations : List (List Char)

/-- The timestamps a line begins with and the rest of it. -/
def leadingTimestamps (line : List Char) : List Nat × List Char :=
  match tagged : firstTag line with
  | none => ([], line)
  | some (tag, after) =>
    match readTimestamp readNumber tag with
    | none => ([], line)
    | some timestamp =>
      have := firstTag_length tagged
      let (timestamps, text) := leadingTimestamps after
      (timestamp.ms :: timestamps, text)
termination_by line.length

def lineKind (rawLine : List Char) : LineKind :=
  let line := trimEnd rawLine
  if (trim line).isEmpty then .skipped
  else
    match leadingTimestamps line with
    | ([], _) =>
      if opensTag line then .skipped else .continuation (trim line)
    | (first :: others, text) => .timed first others (trim text)

def lyricLines (input : List Char) : List (List Char) :=
  textLines (input.dropWhile (· = '\uFEFF'))

/-- The continuations before the next timed line. -/
def followUps : List LineKind → List (List Char)
  | [] => []
  | .timed .. :: _ => []
  | .continuation text :: rest => text :: followUps rest
  | .skipped :: rest => followUps rest

def blocks : List LineKind → List LyricBlock
  | [] => []
  | .timed first others text :: rest =>
    ⟨first :: others, text, followUps rest⟩ :: blocks rest
  | .continuation _ :: rest => blocks rest
  | .skipped :: rest => blocks rest

/-- Lines of text under each other; an empty one takes no line. -/
def joinedText (texts : List (List Char)) : List Char :=
  ['\n'].intercalate (texts.filter fun text => !text.isEmpty)

section Meaning

variable (isRtl : List Char → Bool)

def lyricLine (text : List Char) (startMs : Nat) : LyricLine :=
  ⟨startMs, text, isRtl text⟩

def LyricBlock.joined (block : LyricBlock) : List Char :=
  joinedText (block.text :: block.continuations)

/-- An entry for every timestamp of every timed line. -/
def expectedLines (kinds : List LineKind) : List LyricLine :=
  (blocks kinds).flatMap fun block =>
    block.timestamps.map (lyricLine isRtl block.joined)

/-- The entries are sorted and are those the text says. -/
def KeepsEveryLine (input : List Char) : Prop :=
  ∃ entries, parseLrc isRtl input = .ok entries ∧
    entries.Pairwise (fun first second => first.startMs ≤ second.startMs) ∧
    entries.Perm (expectedLines isRtl ((lyricLines input).map lineKind))

end Meaning

theorem parseU64_eq (chars : List Char) :
    parseU64 chars = (readNumber chars).filter fun value => value < 2 ^ 64 := by
  unfold parseU64 readNumber unsignedDigits
  dsimp only
  generalize (if chars.head? = some '+' then chars.tail else chars) = digits
  split
  · rfl
  · rfl

theorem length_unsignedDigits_le (chars : List Char) :
    (unsignedDigits chars).length ≤ chars.length := by
  unfold unsignedDigits
  split
  · rw [List.length_tail]
    exact Nat.sub_le _ _
  · exact Nat.le_refl _

theorem readNumber_lt {chars : List Char} {value : Nat}
    (read : readNumber chars = some value) : value < 10 ^ chars.length := by
  have bound (digits : List Char) (start : Nat)
      (all : digits.all Char.isDigit = true) :
      digits.foldl (fun value digit => value * 10 + (digit.toNat - 48)) start <
        (start + 1) * 10 ^ digits.length := by
    induction digits generalizing start with
    | nil => simp
    | cons digit rest inductionHypothesis =>
      rw [List.all_cons, Bool.and_eq_true] at all
      have small : digit.toNat - 48 ≤ 9 := by
        have range := all.1
        simp only [Char.isDigit, Bool.and_eq_true, decide_eq_true_eq] at range
        have upper : digit.toNat ≤ 57 := range.2
        omega
      rw [List.foldl_cons, List.length_cons, pow_succ]
      calc
        _ < (start * 10 + (digit.toNat - 48) + 1) * 10 ^ rest.length :=
          inductionHypothesis _ all.2
        _ ≤ ((start + 1) * 10) * 10 ^ rest.length :=
          Nat.mul_le_mul_right _ (by omega)
        _ = (start + 1) * (10 ^ rest.length * 10) := by
          rw [Nat.mul_assoc, Nat.mul_comm 10]
  have shorter := length_unsignedDigits_le chars
  unfold readNumber at read
  generalize unsignedDigits chars = digits at read shorter
  by_cases refused : (digits.isEmpty || !digits.all Char.isDigit) = true
  · rw [if_pos refused] at read
    cases read
  · rw [if_neg refused] at read
    cases read
    simp only [Bool.or_eq_true, not_or, Bool.not_eq_true',
      Bool.not_eq_false] at refused
    have small := bound digits 0 refused.2
    rw [Nat.zero_add, Nat.one_mul] at small
    exact small.trans_le (Nat.pow_le_pow_right (by decide) shorter)

theorem parseU64_of_readNumber {chars : List Char} {value : Nat}
    (read : readNumber chars = some value) (small : value < 2 ^ 64) :
    parseU64 chars = some value := by
  rw [parseU64_eq, Option.filter_eq_some_iff, decide_eq_true_eq]
  exact ⟨read, small⟩

theorem length_le_size (chars : List Char) :
    chars.length ≤ Utf8.size chars := by
  induction chars with
  | nil => exact Nat.le_refl 0
  | cons char rest inductionHypothesis =>
    rw [Utf8.size_cons, List.length_cons]
    have positive := char.utf8Size_pos
    omega

/-- A fraction has at most three digits. -/
theorem readFraction_parseU64 (raw : List Char) :
    readFraction parseU64 raw = readFraction readNumber raw := by
  have same (short : Utf8.size raw ≤ 3) : parseU64 raw = readNumber raw := by
    cases read : readNumber raw with
    | none => rw [parseU64_eq, read, Option.filter_none]
    | some value =>
      have small := readNumber_lt read
      have few : 10 ^ raw.length ≤ 10 ^ 3 :=
        Nat.pow_le_pow_right (by decide) ((length_le_size raw).trans short)
      exact parseU64_of_readNumber read (by omega)
  unfold readFraction
  split
  · rename_i size
    rw [same (by omega)]
  · rename_i size
    rw [same (by omega)]
  · rename_i size
    rw [same (by omega)]
  · rfl

theorem parseU64_of_large {chars : List Char} {value : Nat}
    (read : readNumber chars = some value) (large : ¬ value < 2 ^ 64) :
    parseU64 chars = none := by
  rw [parseU64_eq, read, Option.filter_some, if_neg (by simpa using large)]

theorem parseU64_of_unread {chars : List Char}
    (unread : readNumber chars = none) : parseU64 chars = none := by
  rw [parseU64_eq, unread, Option.filter_none]

/-- Seconds that exceed 64 bits are refused as all from 60 on. -/
theorem readSeconds_parseU64 (rest : List Char) :
    readSeconds parseU64 rest = readSeconds readNumber rest := by
  unfold readSeconds
  simp only [readFraction_parseU64]
  generalize (match splitOnce '.' rest with
    | some (seconds, fraction) => (seconds, some fraction)
    | none => (rest, none)) = parts
  obtain ⟨seconds, fraction⟩ := parts
  dsimp only
  cases read : readNumber seconds with
  | none => rw [parseU64_of_unread read]
  | some value =>
    by_cases small : value < 2 ^ 64
    · rw [parseU64_of_readNumber read small]
    · rw [parseU64_of_large read small]
      exact (if_pos (by omega)).symm

/-- The parser reads a timestamp unless its minutes exceed 64 bits. -/
theorem readTimestamp_parseU64 (value : List Char) :
    readTimestamp parseU64 value =
      (readTimestamp readNumber value).filter fun timestamp =>
        timestamp.minutes < 2 ^ 64 := by
  unfold readTimestamp
  cases splitOnce ':' value with
  | none => rfl
  | some parts =>
    obtain ⟨minutes, rest⟩ := parts
    dsimp only
    rw [readSeconds_parseU64]
    cases read : readNumber minutes with
    | none => rw [parseU64_of_unread read, Option.filter_none]
    | some value =>
      by_cases small : value < 2 ^ 64
      · rw [parseU64_of_readNumber read small]
        cases readSeconds readNumber rest with
        | none => rfl
        | some parts =>
          dsimp only [Option.map_some]
          rw [Option.filter_some, if_pos (decide_eq_true small)]
      · rw [parseU64_of_large read small]
        cases readSeconds readNumber rest with
        | none => rfl
        | some parts =>
          dsimp only [Option.map_some]
          rw [Option.filter_some, if_neg (mt of_decide_eq_true small)]

theorem parseTimestamp_of_unread {tag : List Char}
    (unread : readTimestamp readNumber tag = none) :
    parseTimestamp tag = .ok none := by
  rw [parseTimestamp, readTimestamp_parseU64, unread, Option.filter_none]

theorem parseTimestamp_of_fits {tag : List Char} {timestamp : Timestamp}
    (read : readTimestamp readNumber tag = some timestamp)
    (fits : timestamp.ms < 2 ^ 64) :
    parseTimestamp tag = .ok (some timestamp.ms) := by
  have minutes : timestamp.minutes < 2 ^ 64 := by
    unfold Timestamp.ms at fits
    omega
  rw [parseTimestamp, readTimestamp_parseU64, read, Option.filter_some,
    if_pos (decide_eq_true minutes)]
  exact if_pos fits

/-- A timestamp that does not fit is no timestamp or an overflow. -/
theorem parseTimestamp_of_large {tag : List Char} {timestamp : Timestamp}
    (read : readTimestamp readNumber tag = some timestamp)
    (large : ¬ timestamp.ms < 2 ^ 64) :
    parseTimestamp tag = .ok none ∨ parseTimestamp tag = .error .overflow := by
  rw [parseTimestamp, readTimestamp_parseU64, read, Option.filter_some]
  by_cases minutes : timestamp.minutes < 2 ^ 64
  · rw [if_pos (decide_eq_true minutes)]
    exact .inr (if_neg large)
  · rw [if_neg (mt of_decide_eq_true minutes)]
    exact .inl rfl

/-- A rest that opens a tag and does not close it. -/
def opensOnly (text : List Char) : Bool :=
  opensTag text && (firstTag text).isNone

/-- What the parser takes a line for. -/
def codeKind (rawLine : List Char) : Except ParsePanic LineKind :=
  let line := trimEnd rawLine
  if (trim line).isEmpty then .ok .skipped
  else
    match splitTimestamps [] line with
    | .error panic => .error panic
    | .ok none => .ok .skipped
    | .ok (some ([], rest)) => .ok (.continuation (trim rest))
    | .ok (some (first :: others, rest)) =>
      .ok (.timed first others (trim rest))

/-- The number of entries a line makes. -/
def LineKind.entries : LineKind → Nat
  | .timed _ others _ => others.length + 1
  | _ => 0

/-- A line whose timestamps fit 64 bits and whose text, when it has any, does
not begin with a bracket that is not closed. -/
def ReadableLine (rawLine : List Char) : Prop :=
  (trim (trimEnd rawLine)).isEmpty = true ∨
    ((∀ ms ∈ (leadingTimestamps (trimEnd rawLine)).1, ms < 2 ^ 64) ∧
      ((leadingTimestamps (trimEnd rawLine)).1 ≠ [] →
        opensOnly (leadingTimestamps (trimEnd rawLine)).2 = false))

section Lines

variable {line tag after : List Char} {found : List Nat}

theorem leadingTimestamps_untagged (untagged : firstTag line = none) :
    leadingTimestamps line = ([], line) := by
  rw [leadingTimestamps]
  split
  · rfl
  · rename_i tagged
    rw [untagged] at tagged
    cases tagged

theorem leadingTimestamps_tagged (tagged : firstTag line = some (tag, after)) :
    leadingTimestamps line =
      match readTimestamp readNumber tag with
      | none => ([], line)
      | some timestamp =>
        (timestamp.ms :: (leadingTimestamps after).1,
          (leadingTimestamps after).2) := by
  rw [leadingTimestamps]
  split
  · rename_i untagged
    rw [tagged] at untagged
    cases untagged
  · rename_i again
    rw [tagged] at again
    cases again
    rfl

theorem splitTimestamps_unopened (unopened : opensTag line = false) :
    splitTimestamps found line = .ok (some (found, line)) := by
  rw [splitTimestamps, if_neg (by rw [unopened]; exact Bool.false_ne_true)]

theorem splitTimestamps_untagged (opened : opensTag line = true)
    (untagged : firstTag line = none) :
    splitTimestamps found line = .ok none := by
  rw [splitTimestamps, if_pos opened]
  split
  · rfl
  · rename_i tagged
    rw [untagged] at tagged
    cases tagged

theorem opensTag_of_firstTag (tagged : firstTag line = some (tag, after)) :
    opensTag line = true := by
  unfold firstTag at tagged
  split at tagged
  · rfl
  · cases tagged

theorem splitTimestamps_tagged (tagged : firstTag line = some (tag, after)) :
    splitTimestamps found line =
      match parseTimestamp tag with
      | .error panic => .error panic
      | .ok (some timestamp) => splitTimestamps (found ++ [timestamp]) after
      | .ok none =>
        if found.isEmpty then .ok none else .ok (some (found, line)) := by
  rw [splitTimestamps, if_pos (opensTag_of_firstTag tagged)]
  split
  · rename_i untagged
    rw [tagged] at untagged
    cases untagged
  · rename_i again
    rw [tagged] at again
    cases again
    rfl

/-- When all timestamps fit, the parser finds them and the rest, unless the
rest begins with a tag it does not accept. -/
theorem splitTimestamps_of_fits
    (fits : ∀ ms ∈ (leadingTimestamps line).1, ms < 2 ^ 64) :
    splitTimestamps found line =
      if opensOnly (leadingTimestamps line).2 = true ∨
          opensTag (leadingTimestamps line).2 = true ∧
            found ++ (leadingTimestamps line).1 = [] then .ok none
      else
        .ok (some (found ++ (leadingTimestamps line).1,
          (leadingTimestamps line).2)) := by
  induction line using leadingTimestamps.induct generalizing found with
  | case1 line untagged =>
    rw [leadingTimestamps_untagged untagged, List.append_nil]
    by_cases opened : opensTag line = true
    · rw [splitTimestamps_untagged opened untagged, if_pos]
      left
      rw [opensOnly, opened, untagged]
      rfl
    · rw [splitTimestamps_unopened (Bool.eq_false_iff.mpr opened), if_neg]
      rw [opensOnly, Bool.eq_false_iff.mpr opened]
      simp
  | case2 line tag after tagged unread =>
    rw [leadingTimestamps_tagged tagged, unread, List.append_nil,
      splitTimestamps_tagged tagged, parseTimestamp_of_unread unread]
    have opened := opensTag_of_firstTag tagged
    rw [opensOnly, opened, tagged]
    simp
  | case3 line tag after tagged timestamp read _ _ _ _ inductionHypothesis =>
    rw [leadingTimestamps_tagged tagged, read] at fits ⊢
    rw [List.forall_mem_cons] at fits
    rw [splitTimestamps_tagged tagged,
      parseTimestamp_of_fits read fits.1]
    dsimp only
    rw [inductionHypothesis fits.2, List.append_assoc]
    rfl

/-- When one does not fit, the parser finds fewer. -/
theorem splitTimestamps_of_large {result : List Nat × List Char}
    (large : ∃ ms ∈ (leadingTimestamps line).1, ¬ ms < 2 ^ 64)
    (split : splitTimestamps found line = .ok (some result)) :
    result.1.length < found.length + (leadingTimestamps line).1.length := by
  induction line using leadingTimestamps.induct generalizing found with
  | case1 line untagged =>
    rw [leadingTimestamps_untagged untagged] at large
    simp at large
  | case2 line tag after tagged unread =>
    rw [leadingTimestamps_tagged tagged, unread] at large
    simp at large
  | case3 line tag after tagged timestamp read _ _ _ _ inductionHypothesis =>
    rw [leadingTimestamps_tagged tagged, read] at large ⊢
    rw [splitTimestamps_tagged tagged] at split
    by_cases fits : timestamp.ms < 2 ^ 64
    · rw [parseTimestamp_of_fits read fits] at split
      obtain ⟨ms, member, tooLarge⟩ := large
      rcases List.mem_cons.mp member with rfl | member
      · exact absurd fits tooLarge
      · have fewer := inductionHypothesis ⟨ms, member, tooLarge⟩ split
        rw [List.length_append, List.length_singleton] at fewer
        rw [List.length_cons]
        omega
    · rcases parseTimestamp_of_large read fits with none | panics
      · rw [none] at split
        dsimp only at split
        by_cases empty : found.isEmpty = true
        · rw [if_pos empty] at split
          cases split
        · rw [if_neg empty] at split
          cases split
          dsimp only
          rw [List.length_cons]
          omega
      · rw [panics] at split
        cases split

end Lines

section Kinds

variable {rawLine : List Char}

theorem leadingTimestamps_none {line : List Char}
    (none : (leadingTimestamps line).1 = []) :
    (leadingTimestamps line).2 = line := by
  cases tagged : firstTag line with
  | none => rw [leadingTimestamps_untagged tagged]
  | some parts =>
    rw [leadingTimestamps_tagged tagged] at none ⊢
    cases read : readTimestamp readNumber parts.1 with
    | none => rfl
    | some timestamp =>
      rw [read] at none
      cases none

theorem codeKind_of_readable (readable : ReadableLine rawLine) :
    codeKind rawLine = .ok (lineKind rawLine) := by
  unfold codeKind lineKind
  dsimp only
  by_cases blank : (trim (trimEnd rawLine)).isEmpty = true
  · rw [if_pos blank, if_pos blank]
  · obtain ⟨fits, closed⟩ := readable.resolve_left blank
    rw [if_neg blank, if_neg blank, splitTimestamps_of_fits fits,
      List.nil_append]
    have whole := @leadingTimestamps_none (trimEnd rawLine)
    generalize leadingTimestamps (trimEnd rawLine) = leading at *
    obtain ⟨_ | ⟨first, others⟩, text⟩ := leading
    · obtain rfl : text = trimEnd rawLine := whole rfl
      by_cases opened : opensTag (trimEnd rawLine) = true
      · rw [if_pos (.inr ⟨opened, rfl⟩)]
        dsimp only
        rw [if_pos opened]
      · have unopened : ¬(opensOnly (trimEnd rawLine) = true ∨
            opensTag (trimEnd rawLine) = true ∧ ([] : List Nat) = []) := by
          rw [opensOnly, Bool.eq_false_iff.mpr opened]
          simp
        rw [if_neg unopened]
        dsimp only
        rw [if_neg opened]
    · have accepted : ¬(opensOnly text = true ∨
          opensTag text = true ∧ first :: others = []) := by
        rw [closed (List.cons_ne_nil _ _)]
        simp
      rw [if_neg accepted]

/-- A line that is not readable makes fewer entries than it should. -/
theorem codeKind_cases {kind : LineKind} (code : codeKind rawLine = .ok kind) :
    (ReadableLine rawLine ∧ kind = lineKind rawLine) ∨
      kind.entries < (lineKind rawLine).entries := by
  by_cases readable : ReadableLine rawLine
  · rw [codeKind_of_readable readable] at code
    exact .inl ⟨readable, (Except.ok.inj code).symm⟩
  · right
    rw [ReadableLine, not_or, Classical.not_and_iff_not_or_not] at readable
    obtain ⟨filled, unreadable⟩ := readable
    have entries : (lineKind rawLine).entries =
        (leadingTimestamps (trimEnd rawLine)).1.length := by
      unfold lineKind
      dsimp only
      rw [if_neg filled]
      generalize leadingTimestamps (trimEnd rawLine) = leading
      obtain ⟨_ | ⟨first, others⟩, text⟩ := leading
      · dsimp only
        split <;> rfl
      · rfl
    unfold codeKind at code
    dsimp only at code
    rw [if_neg filled] at code
    rw [entries]
    by_cases fits :
        ∀ ms ∈ (leadingTimestamps (trimEnd rawLine)).1, ms < 2 ^ 64
    · have unclosed := unreadable.resolve_left (not_not.mpr fits)
      rw [Classical.not_imp, Bool.not_eq_false] at unclosed
      rw [splitTimestamps_of_fits fits, if_pos (.inl unclosed.2)] at code
      cases code
      exact List.length_pos_iff.mpr unclosed.1
    · obtain ⟨ms, large⟩ := not_forall.mp fits
      obtain ⟨member, tooLarge⟩ := Classical.not_imp.mp large
      cases split : splitTimestamps [] (trimEnd rawLine) with
      | error panic =>
        rw [split] at code
        cases code
      | ok found =>
        rw [split] at code
        match found with
        | none =>
          cases code
          exact List.length_pos_of_mem member
        | some ([], rest) =>
          cases code
          exact List.length_pos_of_mem member
        | some (first :: others, rest) =>
          cases code
          have fewer := splitTimestamps_of_large ⟨ms, member, tooLarge⟩ split
          rwa [List.length_nil, Nat.zero_add] at fewer

end Kinds

end Lyrics

end Spotuify
