import Mathlib.Algebra.Order.BigOperators.Group.List
import Mathlib.Algebra.Order.Group.Nat
import Spotuify.LyricLines

/-!
# The entries of timed lyrics

The parser's lines put together: it appends a continuation to the entry it made
last, so of a line with several timestamps only the last entry is continued.
Counting entries and characters shows when the parsed entries are those the
text says.
-/

namespace Spotuify

namespace Lyrics

section Run

variable (isRtl : List Char → Bool)

def pushEntry (text : List Char) (state : ParserState) (startMs : Nat) :
    ParserState where
  parsed := state.parsed ++ [lyricLine isRtl text startMs]
  lastIndex := some state.parsed.length

def stepKind (state : ParserState) : LineKind → ParserState
  | .skipped => state
  | .continuation text =>
    match state.lastIndex with
    | none => state
    | some index =>
      { state with
        parsed := state.parsed.modify index
          (appendContinuation isRtl · text) }
  | .timed first others text =>
    (first :: others).foldl (pushEntry isRtl text) state

theorem parseLine_eq (state : ParserState) (rawLine : List Char) :
    parseLine isRtl state rawLine =
      (codeKind rawLine).map (stepKind isRtl state) := by
  unfold parseLine codeKind
  dsimp only
  by_cases blank : (trim (trimEnd rawLine)).isEmpty = true
  · rw [if_pos blank, if_pos blank]
    rfl
  · rw [if_neg blank, if_neg blank]
    match splitTimestamps [] (trimEnd rawLine) with
    | .error panic => rfl
    | .ok none => rfl
    | .ok (some ([], rest)) =>
      cases index : state.lastIndex with
      | none => simp [Except.map, stepKind, index]
      | some index => simp [Except.map, stepKind, index]
    | .ok (some (first :: others, rest)) => rfl

/-- Reading all lines is taking the steps of their kinds. -/
theorem parseLines_eq_ok {lines : List (List Char)}
    {state last : ParserState} :
    parseLines isRtl state lines = .ok last ↔
      ∃ kinds, List.Forall₂ (fun line kind => codeKind line = .ok kind) lines
          kinds ∧
        kinds.foldl (stepKind isRtl) state = last := by
  induction lines generalizing state with
  | nil => simp [parseLines]
  | cons line rest inductionHypothesis =>
    rw [parseLines, parseLine_eq]
    cases code : codeKind line with
    | error panic =>
      simp only [Except.map, bind, Except.bind, reduceCtorEq, false_iff,
        not_exists, not_and]
      intro kinds matching
      cases matching with
      | cons head _ =>
        rw [code] at head
        cases head
    | ok kind =>
      refine Iff.trans inductionHypothesis ⟨?_, ?_⟩
      · rintro ⟨kinds, matching, result⟩
        exact ⟨kind :: kinds, .cons code matching, result⟩
      · rintro ⟨kinds, matching, result⟩
        cases matching with
        | cons head tail =>
          obtain rfl := Except.ok.inj (code.symm.trans head)
          exact ⟨_, tail, result⟩

/-- The entries the parser makes of a block: the last one is continued. -/
def codeEntries (block : LyricBlock) : List LyricLine :=
  block.timestamps.dropLast.map (lyricLine isRtl block.text) ++
    (block.timestamps.getLast?.map (lyricLine isRtl block.joined)).toList

theorem foldl_pushEntry (text : List Char) (first : Nat) (others : List Nat)
    (state : ParserState) :
    (first :: others).foldl (pushEntry isRtl text) state =
      ⟨state.parsed ++
          (first :: others).dropLast.map (lyricLine isRtl text) ++
          [lyricLine isRtl text ((first :: others).getLast (by simp))],
        some (state.parsed ++
          (first :: others).dropLast.map (lyricLine isRtl text)).length⟩ := by
  induction others generalizing first state with
  | nil => simp [pushEntry]
  | cons second others inductionHypothesis =>
    rw [List.foldl_cons, inductionHypothesis]
    simp [pushEntry, List.append_assoc]

theorem modify_last {Entry : Type} (change : Entry → Entry)
    (init : List Entry) (last : Entry) :
    (init ++ [last]).modify init.length change = init ++ [change last] := by
  induction init with
  | nil => rfl
  | cons entry rest inductionHypothesis =>
    rw [List.cons_append, List.length_cons, List.modify_succ_cons,
      inductionHypothesis, List.cons_append]

theorem appendContinuation_lyricLine (text continuation : List Char)
    (startMs : Nat) :
    appendContinuation isRtl (lyricLine isRtl text startMs) continuation =
      lyricLine isRtl
        (if continuation.isEmpty then text
          else if text.isEmpty then continuation
          else text ++ '\n' :: continuation) startMs := by
  unfold appendContinuation lyricLine
  split
  · rfl
  · rfl

theorem joinedText_singleton (text : List Char) : joinedText [text] = text := by
  cases text with
  | nil => rfl
  | cons char rest =>
    rw [joinedText, List.filter_cons_of_pos rfl, List.filter_nil,
      List.intercalate_singleton]

theorem intercalate_merge (separator first second : List Char)
    (rest : List (List Char)) :
    separator.intercalate (first :: second :: rest) =
      separator.intercalate ((first ++ separator ++ second) :: rest) := by
  cases rest with
  | nil =>
    rw [List.intercalate_cons_cons, List.intercalate_singleton,
      List.intercalate_singleton]
  | cons third rest =>
    rw [List.intercalate_cons_cons, List.intercalate_cons_cons,
      List.intercalate_cons_cons]
    simp only [List.append_assoc]

theorem joinedText_cons_cons (text continuation : List Char)
    (rest : List (List Char)) :
    joinedText (text :: continuation :: rest) =
      joinedText ((if continuation.isEmpty then text
        else if text.isEmpty then continuation
        else text ++ '\n' :: continuation) :: rest) := by
  cases continuation with
  | nil => cases text <;> rfl
  | cons char more =>
    cases text with
    | nil => rfl
    | cons first others =>
      have merged := intercalate_merge ['\n'] (first :: others)
        (char :: more) (rest.filter fun text => !text.isEmpty)
      simpa [joinedText] using merged

/-- An entry that is continued has the joined text. -/
theorem foldl_appendContinuation (text : List Char)
    (continuations : List (List Char)) (startMs : Nat) :
    continuations.foldl (appendContinuation isRtl)
        (lyricLine isRtl text startMs) =
      lyricLine isRtl (joinedText (text :: continuations)) startMs := by
  induction continuations generalizing text with
  | nil => rw [joinedText_singleton, List.foldl_nil]
  | cons continuation rest inductionHypothesis =>
    rw [List.foldl_cons, appendContinuation_lyricLine, inductionHypothesis,
      joinedText_cons_cons]

/-- From a state with a last entry the lines continue that entry and make the
entries of their blocks. -/
theorem foldl_stepKind (kinds : List LineKind) (init : List LyricLine)
    (last : LyricLine) :
    (kinds.foldl (stepKind isRtl) ⟨init ++ [last], some init.length⟩).parsed =
      init ++ (followUps kinds).foldl (appendContinuation isRtl) last ::
        (blocks kinds).flatMap (codeEntries isRtl) := by
  induction kinds generalizing init last with
  | nil => rfl
  | cons kind rest inductionHypothesis =>
    cases kind with
    | skipped => exact inductionHypothesis init last
    | continuation text =>
      have step : stepKind isRtl ⟨init ++ [last], some init.length⟩
          (.continuation text) =
          ⟨init ++ [appendContinuation isRtl last text], some init.length⟩ := by
        unfold stepKind
        dsimp only
        rw [modify_last]
      rw [List.foldl_cons, step, inductionHypothesis]
      rfl
    | timed first others text =>
      rw [List.foldl_cons, stepKind, foldl_pushEntry, inductionHypothesis,
        foldl_appendContinuation]
      rw [blocks, List.flatMap_cons, codeEntries]
      dsimp only
      rw [List.getLast?_eq_some_getLast (List.cons_ne_nil first others)]
      simp [followUps, LyricBlock.joined]

/-- Before the first timed line there is nothing to continue. -/
theorem foldl_stepKind_start (kinds : List LineKind) :
    (kinds.foldl (stepKind isRtl) ⟨[], none⟩).parsed =
      (blocks kinds).flatMap (codeEntries isRtl) := by
  induction kinds with
  | nil => rfl
  | cons kind rest inductionHypothesis =>
    cases kind with
    | skipped => exact inductionHypothesis
    | continuation text => exact inductionHypothesis
    | timed first others text =>
      rw [List.foldl_cons, stepKind, foldl_pushEntry, foldl_stepKind,
        foldl_appendContinuation, blocks, List.flatMap_cons, codeEntries]
      dsimp only
      rw [List.getLast?_eq_some_getLast (List.cons_ne_nil first others)]
      simp [LyricBlock.joined]

/-- The parser sorts the entries of the kinds it takes the lines for. -/
theorem parseLrc_eq_ok {input : List Char} {entries : List LyricLine} :
    parseLrc isRtl input = .ok entries ↔
      ∃ kinds, List.Forall₂ (fun line kind => codeKind line = .ok kind)
          (lyricLines input) kinds ∧
        ((blocks kinds).flatMap (codeEntries isRtl)).insertionSort
          (fun first second => first.startMs ≤ second.startMs) = entries := by
  have mapped : parseLrc isRtl input =
      (parseLines isRtl ⟨[], none⟩ (lyricLines input)).map fun state =>
        state.parsed.insertionSort fun first second =>
          first.startMs ≤ second.startMs := by
    unfold parseLrc lyricLines
    dsimp only
    cases parseLines isRtl ⟨[], none⟩
      (textLines (input.dropWhile (· = '\uFEFF'))) <;> rfl
  rw [mapped]
  constructor
  · intro parsed
    cases run : parseLines isRtl ⟨[], none⟩ (lyricLines input) with
    | error panic =>
      rw [run] at parsed
      cases parsed
    | ok last =>
      rw [run] at parsed
      obtain ⟨kinds, matching, rfl⟩ := (parseLines_eq_ok isRtl).mp run
      refine ⟨kinds, matching, ?_⟩
      rw [← foldl_stepKind_start]
      exact Except.ok.inj parsed
  · rintro ⟨kinds, matching, rfl⟩
    have run : parseLines isRtl ⟨[], none⟩ (lyricLines input) =
        .ok (kinds.foldl (stepKind isRtl) ⟨[], none⟩) :=
      (parseLines_eq_ok isRtl).mpr ⟨kinds, matching, rfl⟩
    rw [run, ← foldl_stepKind_start]
    rfl

end Run

/-- Lists that are pointwise at most others and have the same sum are them. -/
theorem eq_of_sum_eq {Value : Type} (few many : Value → Nat)
    (values : List Value) (atMost : ∀ value ∈ values, few value ≤ many value)
    (same : (values.map few).sum = (values.map many).sum) :
    ∀ value ∈ values, few value = many value := by
  induction values with
  | nil => simp
  | cons value rest inductionHypothesis =>
    rw [List.forall_mem_cons] at atMost ⊢
    simp only [List.map_cons, List.sum_cons] at same
    have restAtMost := List.sum_le_sum atMost.2
    have here : few value = many value := by omega
    exact ⟨here, inductionHypothesis atMost.2 (by omega)⟩

/-- The text is readable and no line with several timestamps is continued. -/
structure ReadableLyrics (input : List Char) : Prop where
  lines : ∀ line ∈ lyricLines input, ReadableLine line
  single : ∀ block ∈ blocks ((lyricLines input).map lineKind),
    block.timestamps.length ≤ 1 ∨ block.continuations = []

section Kept

variable (isRtl : List Char → Bool)

/-- The entries a block should make. -/
def blockEntries (block : LyricBlock) : List LyricLine :=
  block.timestamps.map (lyricLine isRtl block.joined)

theorem expectedLines_eq (kinds : List LineKind) :
    expectedLines isRtl kinds = (blocks kinds).flatMap (blockEntries isRtl) :=
  rfl

theorem codeEntries_eq {block : LyricBlock}
    (single : block.timestamps.length ≤ 1 ∨ block.continuations = []) :
    codeEntries isRtl block = blockEntries isRtl block := by
  obtain ⟨timestamps, text, continuations⟩ := block
  rcases single with short | uncontinued
  · match timestamps with
    | [] => rfl
    | [startMs] => rfl
    | _ :: _ :: _ => simp at short
  · dsimp only at uncontinued
    subst uncontinued
    have joined : LyricBlock.joined ⟨timestamps, text, []⟩ = text :=
      joinedText_singleton text
    rw [codeEntries, blockEntries, joined]
    dsimp only
    cases timestamps with
    | nil => rfl
    | cons first others =>
      have whole := congrArg (List.map (lyricLine isRtl text))
        (List.dropLast_append_getLast (List.cons_ne_nil first others))
      rw [List.map_append] at whole
      rw [List.getLast?_eq_some_getLast (List.cons_ne_nil first others)]
      exact whole

theorem length_codeEntries (block : LyricBlock) :
    (codeEntries isRtl block).length = block.timestamps.length := by
  unfold codeEntries
  cases block.timestamps with
  | nil => rfl
  | cons first others =>
    rw [List.getLast?_eq_some_getLast (List.cons_ne_nil first others)]
    simp

theorem length_entries (kinds : List LineKind)
    (make : LyricBlock → List LyricLine)
    (each : ∀ block, (make block).length = block.timestamps.length) :
    ((blocks kinds).flatMap make).length =
      (kinds.map LineKind.entries).sum := by
  induction kinds with
  | nil => rfl
  | cons kind rest inductionHypothesis =>
    cases kind with
    | timed first others text =>
      rw [blocks, List.flatMap_cons, List.length_append, inductionHypothesis,
        each, List.map_cons, List.sum_cons]
      rfl
    | _ => simpa [blocks, LineKind.entries] using inductionHypothesis

/-- The parser makes at most the entries it should, and all of them only when
every line is readable. -/
theorem entries_of_codeKinds {lines : List (List Char)}
    {kinds : List LineKind}
    (code : List.Forall₂ (fun line kind => codeKind line = .ok kind) lines
      kinds) :
    (kinds.map LineKind.entries).sum ≤
        ((lines.map lineKind).map LineKind.entries).sum ∧
      ((kinds.map LineKind.entries).sum =
          ((lines.map lineKind).map LineKind.entries).sum →
        (∀ line ∈ lines, ReadableLine line) ∧ kinds = lines.map lineKind) := by
  induction code with
  | nil => simp
  | cons head tail inductionHypothesis =>
    obtain ⟨atMost, onlyIf⟩ := inductionHypothesis
    simp only [List.map_cons, List.sum_cons]
    rcases codeKind_cases head with ⟨readable, same⟩ | fewer
    · subst same
      refine ⟨by omega, fun total => ?_⟩
      obtain ⟨readableRest, sameRest⟩ := onlyIf (by omega)
      exact ⟨List.forall_mem_cons.mpr ⟨readable, readableRest⟩,
        by rw [sameRest]⟩
    · exact ⟨by omega, fun total => by omega⟩

/-- The characters of all entries. -/
def textTotal (entries : List LyricLine) : Nat :=
  (entries.map fun entry => entry.text.length).sum

theorem textTotal_append (first second : List LyricLine) :
    textTotal (first ++ second) = textTotal first + textTotal second := by
  rw [textTotal, List.map_append, List.sum_append]
  rfl

theorem textTotal_perm {first second : List LyricLine}
    (permuted : first.Perm second) : textTotal first = textTotal second := by
  unfold textTotal
  exact (permuted.map _).sum_eq

theorem textTotal_flatMap (make : LyricBlock → List LyricLine)
    (parts : List LyricBlock) :
    textTotal (parts.flatMap make) =
      (parts.map fun block => textTotal (make block)).sum := by
  induction parts with
  | nil => rfl
  | cons block rest inductionHypothesis =>
    rw [List.flatMap_cons, textTotal_append, inductionHypothesis,
      List.map_cons, List.sum_cons]

theorem textTotal_map_lyricLine (text : List Char) (timestamps : List Nat) :
    textTotal (timestamps.map (lyricLine isRtl text)) =
      timestamps.length * text.length := by
  induction timestamps with
  | nil => rw [List.length_nil, Nat.zero_mul]; rfl
  | cons startMs rest inductionHypothesis =>
    rw [List.length_cons, Nat.succ_mul, ← inductionHypothesis, Nat.add_comm]
    rfl

theorem length_le_joinedText (text : List Char)
    (continuations : List (List Char)) :
    text.length ≤ (joinedText (text :: continuations)).length := by
  induction continuations generalizing text with
  | nil => rw [joinedText_singleton]
  | cons continuation rest inductionHypothesis =>
    rw [joinedText_cons_cons]
    refine le_trans ?_ (inductionHypothesis _)
    split
    · exact Nat.le_refl _
    · split
      · rename_i empty
        rw [List.isEmpty_iff.mp empty]
        exact Nat.zero_le _
      · rw [List.length_append]
        exact Nat.le_add_right _ _

theorem length_lt_joinedText (text continuation : List Char)
    (rest : List (List Char)) (filled : continuation ≠ []) :
    text.length < (joinedText (text :: continuation :: rest)).length := by
  rw [joinedText_cons_cons]
  refine lt_of_lt_of_le ?_ (length_le_joinedText _ rest)
  rw [if_neg (by rwa [List.isEmpty_iff])]
  have positive := List.length_pos_iff.mpr filled
  split
  · rename_i empty
    rw [List.isEmpty_iff.mp empty]
    exact positive
  · rw [List.length_append, List.length_cons]
    omega

theorem textTotal_codeEntries (block : LyricBlock) :
    textTotal (codeEntries isRtl block) ≤
        textTotal (blockEntries isRtl block) ∧
      (textTotal (codeEntries isRtl block) =
          textTotal (blockEntries isRtl block) →
        (∀ text ∈ block.continuations, text ≠ []) →
        block.timestamps.length ≤ 1 ∨ block.continuations = []) := by
  obtain ⟨timestamps, text, continuations⟩ := block
  have longer := length_le_joinedText text continuations
  cases timestamps with
  | nil => exact ⟨Nat.le_refl _, fun _ _ => .inl (Nat.zero_le 1)⟩
  | cons first others =>
    rw [codeEntries, blockEntries, textTotal_append, textTotal_map_lyricLine,
      textTotal_map_lyricLine]
    dsimp only [LyricBlock.joined]
    rw [List.getLast?_eq_some_getLast (List.cons_ne_nil first others)]
    have one (startMs : Nat) (joined : List Char) :
        textTotal (Option.map (lyricLine isRtl joined) (some startMs)).toList =
          joined.length :=
      Nat.add_zero _
    rw [one, List.length_dropLast, List.length_cons, Nat.add_sub_cancel,
      Nat.succ_mul]
    refine ⟨Nat.add_le_add_right (Nat.mul_le_mul_left _ longer) _, ?_⟩
    intro same filled
    cases continuations with
    | nil => exact .inr rfl
    | cons continuation rest =>
      have strictly := length_lt_joinedText text continuation rest
        (filled continuation List.mem_cons_self)
      left
      by_contra many
      have some : 0 < others.length := by omega
      have more := Nat.mul_lt_mul_of_pos_left strictly some
      omega

/-- A continuation has a text. -/
theorem lineKind_filled {rawLine text : List Char}
    (kind : lineKind rawLine = .continuation text) : text ≠ [] := by
  unfold lineKind at kind
  dsimp only at kind
  by_cases blank : (trim (trimEnd rawLine)).isEmpty = true
  · rw [if_pos blank] at kind
    cases kind
  · rw [if_neg blank] at kind
    generalize leadingTimestamps (trimEnd rawLine) = leading at kind
    obtain ⟨_ | ⟨first, others⟩, rest⟩ := leading
    · dsimp only at kind
      by_cases opened : opensTag (trimEnd rawLine) = true
      · rw [if_pos opened] at kind
        cases kind
      · rw [if_neg opened] at kind
        cases kind
        rwa [List.isEmpty_iff] at blank
    · cases kind

theorem continuations_filled (lines : List (List Char)) :
    (∀ text ∈ followUps (lines.map lineKind), text ≠ []) ∧
      ∀ block ∈ blocks (lines.map lineKind),
        ∀ text ∈ block.continuations, text ≠ [] := by
  induction lines with
  | nil => simp [followUps, blocks]
  | cons line rest inductionHypothesis =>
    rw [List.map_cons]
    cases kind : lineKind line with
    | skipped => exact inductionHypothesis
    | continuation text =>
      exact ⟨List.forall_mem_cons.mpr
        ⟨lineKind_filled kind, inductionHypothesis.1⟩, inductionHypothesis.2⟩
    | timed first others text =>
      exact ⟨by simp [followUps], List.forall_mem_cons.mpr inductionHypothesis⟩

theorem keepsEveryLine_of_readable {input : List Char}
    (readable : ReadableLyrics input) : KeepsEveryLine isRtl input := by
  have matching : List.Forall₂ (fun line kind => codeKind line = .ok kind)
      (lyricLines input) ((lyricLines input).map lineKind) :=
    List.forall₂_map_right_iff.mpr (List.forall₂_same.mpr fun line member =>
      codeKind_of_readable (readable.lines line member))
  have entries : (blocks ((lyricLines input).map lineKind)).flatMap
      (codeEntries isRtl) =
      expectedLines isRtl ((lyricLines input).map lineKind) :=
    List.flatMap_congr fun block member =>
      codeEntries_eq isRtl (readable.single block member)
  have total : Std.Total fun first second : LyricLine =>
      first.startMs ≤ second.startMs :=
    ⟨fun first second => Nat.le_total first.startMs second.startMs⟩
  have transitive : IsTrans LyricLine fun first second =>
      first.startMs ≤ second.startMs := ⟨fun _ _ _ => Nat.le_trans⟩
  refine ⟨_, (parseLrc_eq_ok isRtl).mpr ⟨_, matching, rfl⟩, ?_, ?_⟩
  · exact List.pairwise_insertionSort _ _
  · rw [entries]
    exact List.perm_insertionSort _ _

theorem readable_of_keepsEveryLine {input : List Char}
    (keeps : KeepsEveryLine isRtl input) : ReadableLyrics input := by
  obtain ⟨entries, parsed, -, same⟩ := keeps
  obtain ⟨kinds, code, rfl⟩ := (parseLrc_eq_ok isRtl).mp parsed
  have permuted := (List.perm_insertionSort
    (fun first second : LyricLine => first.startMs ≤ second.startMs)
    ((blocks kinds).flatMap (codeEntries isRtl))).symm.trans same
  have counts := permuted.length_eq
  rw [expectedLines_eq,
    length_entries kinds _ (length_codeEntries isRtl),
    length_entries _ _ fun block => by
      rw [blockEntries, List.length_map]] at counts
  obtain ⟨readable, rfl⟩ := (entries_of_codeKinds code).2 counts
  refine ⟨readable, ?_⟩
  have totals := textTotal_perm permuted
  rw [expectedLines_eq, textTotal_flatMap, textTotal_flatMap] at totals
  have each := eq_of_sum_eq _ _ _
    (fun block _ => (textTotal_codeEntries isRtl block).1) totals
  intro block member
  exact (textTotal_codeEntries isRtl block).2 (each block member)
    ((continuations_filled _).2 block member)

end Kept

/-- Every lyric line is kept exactly when its timestamps fit 64 bits, no text
after a timestamp begins with a bracket that is left open, and no line with
several timestamps is continued. -/
theorem parseLrc_keepsEveryLine_iff (isRtl : List Char → Bool)
    (input : List Char) :
    KeepsEveryLine isRtl input ↔ ReadableLyrics input :=
  ⟨readable_of_keepsEveryLine isRtl, keepsEveryLine_of_readable isRtl⟩

/-- Of a line with two timestamps only the second entry is continued; the
minutes of a timestamp can overflow its milliseconds; and a text that opens a
bracket takes its line with it. -/
theorem lyric_lines_lost :
    ¬ KeepsEveryLine (fun _ => false)
        "[00:01.00][00:02.00]echo\nmore".toList ∧
      ¬ KeepsEveryLine (fun _ => false) "[307445734561826:00]x".toList ∧
      ¬ KeepsEveryLine (fun _ => false) "[00:01.00][la la".toList := by
  refine ⟨fun keeps => ?_, fun keeps => ?_, fun keeps => ?_⟩
  · have single := (readable_of_keepsEveryLine _ keeps).single
    have kinds : (lyricLines "[00:01.00][00:02.00]echo\nmore".toList).map
        lineKind = [.timed 1000 [2000] "echo".toList,
          .continuation "more".toList] := by decide +kernel
    rw [kinds] at single
    have continued := single _ List.mem_cons_self
    revert continued
    decide +kernel
  · have lines : lyricLines "[307445734561826:00]x".toList =
        ["[307445734561826:00]x".toList] := by decide +kernel
    have readable := (readable_of_keepsEveryLine _ keeps).lines
      "[307445734561826:00]x".toList (by rw [lines]; exact List.mem_cons_self)
    revert readable
    unfold ReadableLine
    decide +kernel
  · have lines : lyricLines "[00:01.00][la la".toList =
        ["[00:01.00][la la".toList] := by decide +kernel
    have readable := (readable_of_keepsEveryLine _ keeps).lines
      "[00:01.00][la la".toList (by rw [lines]; exact List.mem_cons_self)
    revert readable
    unfold ReadableLine
    decide +kernel

end Lyrics

end Spotuify
