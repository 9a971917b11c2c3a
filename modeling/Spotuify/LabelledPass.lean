import Spotuify.SecretSpans
import Mathlib.Data.List.ReduceOption

/-!
# The pass over labelled secrets

Of all spans the source takes the one that starts first.  It is the first
assignment of the text, so that the pass reads one assignment after the other
and panics where one would start in front of the end of the last.
-/

namespace Spotuify.Redaction

variable {char : Char} {text first second input rest left : List Char}
  {done key label : List Char}

/-- Every item's result is among the collected ones, and nothing else. -/
theorem mapM_eq_ok {Item Value : Type} {items : List Item}
    {step : Item → Except Failure Value}
    (succeeds : ∀ item ∈ items, ∃ value, step item = .ok value) :
    ∃ values, items.mapM step = .ok values ∧
      ∀ value, value ∈ values ↔ ∃ item ∈ items, step item = .ok value := by
  induction items with
  | nil => exact ⟨[], rfl, by simp⟩
  | cons item others ih =>
    obtain ⟨value, first⟩ := succeeds item List.mem_cons_self
    obtain ⟨values, collected, members⟩ := ih fun other member =>
      succeeds other (List.mem_cons_of_mem item member)
    refine ⟨value :: values, ?_, ?_⟩
    · rw [List.mapM_cons, first, collected]
      rfl
    · intro other
      rw [List.mem_cons, members]
      constructor
      · rintro (rfl | ⟨later, member, result⟩)
        · exact ⟨item, List.mem_cons_self, first⟩
        · exact ⟨later, List.mem_cons_of_mem item member, result⟩
      · rintro ⟨later, member, result⟩
        cases List.mem_cons.mp member with
        | inl same =>
          rw [same, first] at result
          exact Or.inl (Except.ok.inj result).symm
        | inr member => exact Or.inr ⟨later, member, result⟩

theorem secretLabels_unbordered :
    ∀ label ∈ secretLabels, Utf8.Unbordered label ∧ label ≠ [] := by
  unfold Utf8.Unbordered
  decide +kernel

theorem secretLabels_labelChars :
    ∀ label ∈ secretLabels, ∀ char ∈ label, isLabelChar char = true := by
  intro label member
  have allChars : (secretLabels.all fun label => label.all isLabelChar) = true :=
    by decide +kernel
  exact List.all_eq_true.mp (List.all_eq_true.mp allChars label member)

theorem toNat_toLower : char.toLower.toNat =
    if 65 ≤ char.toNat ∧ char.toNat ≤ 90 then char.toNat + 32
    else char.toNat := by
  have upper : (char.val ≥ 'A'.val ∧ char.val ≤ 'Z'.val) ↔
      65 ≤ char.toNat ∧ char.toNat ≤ 90 := by
    simp only [ge_iff_le, UInt32.le_iff_toNat_le]
    rfl
  unfold Char.toLower
  split
  · rename_i isUpper
    have bounds := upper.mp isUpper
    rw [if_pos bounds]
    change (char.val + 32).toNat = char.val.toNat + 32
    rw [UInt32.toNat_add]
    change 65 ≤ char.val.toNat ∧ char.val.toNat ≤ 90 at bounds
    change (char.val.toNat + 32) % 2 ^ 32 = char.val.toNat + 32
    omega
  · rename_i notUpper
    rw [if_neg (fun bounds => notUpper (upper.mpr bounds))]

theorem isLabelChar_toLower : isLabelChar char.toLower = isLabelChar char := by
  rw [Bool.eq_iff_iff, isLabelChar_iff, isLabelChar_iff, toNat_toLower]
  split <;> omega

/-- A label that another one continues is no label there. -/
theorem continued_of_longer {longer : List Char}
    (labelChars : ∀ char ∈ longer, isLabelChar char = true)
    (occurs : longer <+: text.map Char.toLower)
    (lengths : label.length < longer.length) :
    (text.drop label.length).head?.any isLabelChar = true := by
  obtain ⟨rest, split⟩ := occurs
  have inText : label.length < (text.map Char.toLower).length := by
    rw [← split, List.length_append]
    omega
  rw [List.length_map] at inText
  have same : (text[label.length]).toLower = longer[label.length] := by
    have position := congrArg (·[label.length]?) split
    simp only [List.getElem?_append_left lengths, List.getElem?_map,
      List.getElem?_eq_getElem lengths, List.getElem?_eq_getElem inText,
      Option.map_some, Option.some.injEq] at position
    exact position.symm
  rw [List.head?_drop, List.getElem?_eq_getElem inText, Option.any_some,
    ← isLabelChar_toLower, same]
  exact labelChars _ (List.getElem_mem lengths)

variable {before : Option Char}

theorem not_continued_of_readLabeled
    (reads : readLabeled before label rest = some left) :
    ¬rest.head?.any isLabelChar = true := by
  intro continued
  rw [readLabeled, readKey, if_pos (Or.inr continued)] at reads
  cases reads

/-- At most one label is read at one place. -/
theorem readSecret_eq_some :
    readSecret before text = some left ↔
      ∃ label ∈ secretLabels, label <+: text.map Char.toLower ∧
        readLabeled before label (text.drop label.length) = some left := by
  constructor
  · exact readSecret_cases
  · rintro ⟨label, member, occurs, reads⟩
    have found : (readSecret before text).isSome = true := by
      rw [readSecret, List.findSome?_isSome_iff]
      refine ⟨label, member, ?_⟩
      rw [if_pos (List.isPrefixOf_iff_prefix.mpr occurs), reads]
      rfl
    obtain ⟨other, readsOther⟩ := Option.isSome_iff_exists.mp found
    obtain ⟨longer, longerMember, longerOccurs, longerReads⟩ :=
      readSecret_cases readsOther
    have lengths : label.length = longer.length := by
      rcases Nat.lt_trichotomy label.length longer.length with
        shorter | same | shorter
      · exact absurd
          (continued_of_longer (secretLabels_labelChars longer longerMember)
            longerOccurs shorter)
          (not_continued_of_readLabeled reads)
      · exact same
      · exact absurd
          (continued_of_longer (secretLabels_labelChars label member)
            occurs shorter)
          (not_continued_of_readLabeled longerReads)
    have same : label = longer := by
      obtain ⟨_, split⟩ := occurs
      obtain ⟨_, longerSplit⟩ := longerOccurs
      exact (List.append_inj (split.trans longerSplit.symm) lengths).1
    rw [← same, reads] at longerReads
    rw [readsOther, longerReads]

theorem head_of_readSecret (reads : readSecret before text = some left) :
    ∃ char, text.head? = some char ∧ isLabelChar char = true := by
  obtain ⟨label, member, occurs, -⟩ := readSecret_cases reads
  have nonempty := (secretLabels_unbordered label member).2
  cases text with
  | nil => exact absurd (List.prefix_nil.mp occurs) nonempty
  | cons first others =>
    obtain ⟨char, letters, rfl⟩ := List.exists_cons_of_ne_nil nonempty
    obtain ⟨same, -⟩ := List.cons_prefix_cons.mp occurs
    refine ⟨first, rfl, ?_⟩
    rw [← isLabelChar_toLower, ← same]
    exact secretLabels_labelChars _ member char List.mem_cons_self

theorem readSecret_of_firstSecret_eq_none
    (absent : firstSecret before text = none)
    (split : text = first ++ second) :
    readSecret (first.getLast?.or before) second = none := by
  induction text generalizing before first with
  | nil =>
    obtain ⟨rfl, rfl⟩ := List.append_eq_nil_iff.mp split.symm
    by_contra present
    obtain ⟨left, reads⟩ := Option.ne_none_iff_exists'.mp present
    obtain ⟨char, head, -⟩ := head_of_readSecret reads
    cases head
  | cons char rest ih =>
    rw [firstSecret] at absent
    cases reads : readSecret before (char :: rest) with
    | some left => simp [reads] at absent
    | none =>
      simp only [reads, Option.map_eq_none_iff] at absent
      cases first with
      | nil =>
        rw [List.nil_append] at split
        rw [← split]
        exact reads
      | cons other others =>
        cases split
        have later := ih absent rfl
        cases others with
        | nil => exact later
        | cons => simpa [List.getLast?_cons] using later

/-- No assignment is before the first one. -/
theorem firstSecret_first {found : FoundSecret}
    (finds : firstSecret before text = some found)
    (split : text = first ++ second)
    (reads : readSecret (first.getLast?.or before) second = some left) :
    first = found.plain ∧ left = found.rest ∨
      ∃ char others, first = found.plain ++ char :: others ∧
        isLabelChar char = true := by
  induction text generalizing before first found with
  | nil => cases finds
  | cons char rest ih =>
    rw [firstSecret] at finds
    cases here : readSecret before (char :: rest) with
    | some others =>
      simp only [here, Option.some.injEq] at finds
      subst finds
      cases first with
      | nil =>
        rw [List.nil_append] at split
        subst split
        simp only [List.getLast?_nil, Option.none_or, here] at reads
        cases reads
        exact Or.inl ⟨rfl, rfl⟩
      | cons head tail =>
        obtain ⟨letter, isHead, isLabel⟩ := head_of_readSecret here
        cases isHead
        cases split
        exact Or.inr ⟨char, tail, rfl, isLabel⟩
    | none =>
      simp only [here] at finds
      obtain ⟨later, findsLater, shifted⟩ := Option.map_eq_some_iff.mp finds
      subst shifted
      cases first with
      | nil =>
        rw [List.nil_append] at split
        subst split
        simp only [List.getLast?_nil, Option.none_or, here] at reads
        cases reads
      | cons head tail =>
        cases split
        have readsLater : readSecret (tail.getLast?.or (some char)) second =
            some left := by
          cases tail with
          | nil => exact reads
          | cons => simpa [List.getLast?_cons] using reads
        rcases ih findsLater rfl readsLater with ⟨same, rest⟩ |
          ⟨letter, others, same, isLabel⟩
        · exact Or.inl ⟨by rw [same], rest⟩
        · exact Or.inr ⟨letter, others, by rw [same]; rfl, isLabel⟩

/-- Where the span of an assignment starts, by what precedes its label. -/
def startOf (done : List Char) : Nat :=
  if done.getLast?.any isQuote then Utf8.size done - 1 else Utf8.size done

theorem startOf_lt {others : List Char} (isLabel : isLabelChar char = true) :
    startOf done < startOf (done ++ char :: others) := by
  have lower : startOf done ≤ Utf8.size done := by
    unfold startOf
    split <;> omega
  have positive := char.utf8Size_pos
  cases others with
  | nil =>
    have notQuote : isQuote char = false := by
      rw [← Bool.not_eq_true, isQuote_iff]
      have code := isLabelChar_iff.mp isLabel
      omega
    have start : startOf (done ++ [char]) = Utf8.size (done ++ [char]) := by
      rw [startOf, List.getLast?_concat, Option.any_some, notQuote]
      rfl
    rw [start, Utf8.size_append, Utf8.size_cons]
    omega
  | cons second others =>
    have more := second.utf8Size_pos
    have upper : Utf8.size (done ++ char :: second :: others) - 1 ≤
        startOf (done ++ char :: second :: others) := by
      unfold startOf
      split <;> omega
    rw [Utf8.size_append, Utf8.size_cons, Utf8.size_cons] at upper
    omega

theorem labeledSecretSpan_split (occurs : label <+: second.map Char.toLower) :
    labeledSecretSpan (first ++ second) (Utf8.size first) label =
      .ok ((readLabeled first.getLast? label (second.drop label.length)).map
        fun left => (startOf first, offsetOf (first ++ second) left)) := by
  have sized : Utf8.size (second.take label.length) = Utf8.size label := by
    rw [← size_toLower, List.map_take, ← List.prefix_iff_eq_take.mp occurs]
  have span := @labeledSecretSpan_offsetOf (second.drop label.length) first
    (second.take label.length) label sized
  rwa [List.take_append_drop] at span

/-- The next span of the source is that of the first assignment. -/
theorem nextLabeledSecretSpan_eq :
    nextLabeledSecretSpan (done ++ rest) ((done ++ rest).map Char.toLower)
        (Utf8.size done) =
      .ok ((firstSecret done.getLast? rest).map fun found =>
        (startOf (done ++ found.plain),
          offsetOf (done ++ rest) found.rest)) := by
  have sliced : Utf8.sliceFrom ((done ++ rest).map Char.toLower)
      (Utf8.size done) = some (rest.map Char.toLower) := by
    rw [List.map_append, ← size_toLower, Utf8.sliceFrom_append]
  have matches' : ∀ label offset,
      (label, offset) ∈ secretLabels.flatMap (fun label =>
          (Utf8.matchIndices label 0 0 (rest.map Char.toLower)).map
            fun offset => (label, offset)) ↔
        label ∈ secretLabels ∧ ∃ first second, rest = first ++ second ∧
          label <+: second.map Char.toLower ∧ offset = Utf8.size first := by
    intro label offset
    simp only [List.mem_flatMap, List.mem_map, Prod.mk.injEq]
    constructor
    · rintro ⟨_, member, _, found, rfl, rfl⟩
      obtain ⟨unbordered, nonempty⟩ := secretLabels_unbordered _ member
      obtain ⟨before, after, split, occurs, sized⟩ :=
        (Utf8.mem_matchIndices unbordered nonempty (by simp)).mp found
      obtain ⟨first, second, rfl, rfl, rfl⟩ := List.map_eq_append_iff.mp split
      refine ⟨member, first, second, rfl, occurs, ?_⟩
      rw [sized, size_toLower, Nat.zero_add]
    · rintro ⟨member, first, second, rfl, occurs, rfl⟩
      obtain ⟨unbordered, nonempty⟩ := secretLabels_unbordered _ member
      refine ⟨label, member, Utf8.size first, ?_, rfl, rfl⟩
      rw [Utf8.mem_matchIndices unbordered nonempty (by simp)]
      refine ⟨first.map Char.toLower, second.map Char.toLower,
        List.map_append, occurs, ?_⟩
      rw [size_toLower, Nat.zero_add]
  have spanOf : ∀ first second label, rest = first ++ second →
      label <+: second.map Char.toLower →
        labeledSecretSpan (done ++ rest) (Utf8.size done + Utf8.size first)
            label =
          .ok ((readLabeled (first.getLast?.or done.getLast?) label
            (second.drop label.length)).map fun left =>
              (startOf (done ++ first), offsetOf (done ++ rest) left)) := by
    rintro first second label rfl occurs
    have span := @labeledSecretSpan_split (done ++ first) second label occurs
    rwa [List.append_assoc, Utf8.size_append, List.getLast?_append] at span
  obtain ⟨spans, collected, members⟩ := @mapM_eq_ok _ _
    (secretLabels.flatMap fun label =>
      (Utf8.matchIndices label 0 0 (rest.map Char.toLower)).map
        fun offset => (label, offset))
    (fun pair =>
      labeledSecretSpan (done ++ rest) (Utf8.size done + pair.2) pair.1) (by
    rintro ⟨label, offset⟩ member
    obtain ⟨-, first, second, split, occurs, rfl⟩ :=
      (matches' label offset).mp member
    exact ⟨_, spanOf first second label split occurs⟩)
  have spanned : ∀ span, span ∈ spans.reduceOption ↔
      ∃ first second left, rest = first ++ second ∧
        readSecret (first.getLast?.or done.getLast?) second = some left ∧
        span = (startOf (done ++ first), offsetOf (done ++ rest) left) := by
    intro span
    rw [List.reduceOption_mem_iff, members]
    constructor
    · rintro ⟨⟨label, offset⟩, member, result⟩
      obtain ⟨isLabel, first, second, split, occurs, rfl⟩ :=
        (matches' label offset).mp member
      rw [spanOf first second label split occurs] at result
      obtain ⟨left, reads, same⟩ :=
        Option.map_eq_some_iff.mp (Except.ok.inj result)
      exact ⟨first, second, left, split,
        readSecret_eq_some.mpr ⟨label, isLabel, occurs, reads⟩, same.symm⟩
    · rintro ⟨first, second, left, split, reads, rfl⟩
      obtain ⟨label, isLabel, occurs, reads⟩ := readSecret_cases reads
      refine ⟨(label, Utf8.size first), (matches' _ _).mpr
        ⟨isLabel, first, second, split, occurs, rfl⟩, ?_⟩
      rw [spanOf first second label split occurs, reads]
      rfl
  have next : nextLabeledSecretSpan (done ++ rest)
      ((done ++ rest).map Char.toLower) (Utf8.size done) =
        .ok (spans.reduceOption.argmin Prod.fst) := by
    rw [nextLabeledSecretSpan, sliced]
    simp only [orPanic, bind, Except.bind] at collected ⊢
    rw [collected]
    rfl
  rw [next]
  congr 1
  cases finds : firstSecret done.getLast? rest with
  | none =>
    rw [Option.map_none, List.argmin_eq_none, List.eq_nil_iff_forall_not_mem]
    intro span member
    obtain ⟨first, second, left, split, reads, -⟩ := (spanned span).mp member
    rw [readSecret_of_firstSecret_eq_none finds split] at reads
    cases reads
  | some found =>
    obtain ⟨split, -, before, reads⟩ := firstSecret_sound finds
    have isSpan : (startOf (done ++ found.plain),
        offsetOf (done ++ rest) found.rest) ∈ spans.reduceOption := by
      rw [spanned]
      refine ⟨found.plain, found.secret ++ found.rest, found.rest, ?_, ?_, rfl⟩
      · rw [split, List.append_assoc]
      · rw [← before]
        exact reads
    obtain ⟨least, isLeast⟩ := Option.ne_none_iff_exists'.mp (by
      rw [ne_eq, List.argmin_eq_none]
      exact List.ne_nil_of_mem isSpan :
        spans.reduceOption.argmin Prod.fst ≠ none)
    have bound := List.le_of_mem_argmin isSpan (Option.mem_def.mpr isLeast)
    obtain ⟨first, second, left, leastSplit, leastReads, rfl⟩ :=
      (spanned least).mp (List.argmin_mem isLeast)
    rw [isLeast, Option.map_some]
    rcases firstSecret_first finds leastSplit leastReads with ⟨rfl, rfl⟩ |
      ⟨char, others, rfl, isLabel⟩
    · rfl
    · have later := @startOf_lt char (done ++ found.plain) others isLabel
      rw [List.append_assoc] at later
      exact absurd bound (Nat.not_le_of_lt later)

theorem redactFrom_of_absent (absent : firstSecret before text = none) :
    redactFrom before text = some text := by
  rw [redactFrom]
  split
  · rfl
  · rename_i found finds
    rw [absent] at finds
    cases finds

theorem redactFrom_of_found {found : FoundSecret}
    (finds : firstSecret before text = some found) :
    redactFrom before text =
      if found.overlaps then none
      else (redactFrom found.secret.getLast? found.rest).map
        (found.kept ++ redacted ++ ·) := by
  rw [redactFrom]
  split
  · rename_i absent
    rw [absent] at finds
    cases finds
  · rename_i other findsOther
    rw [finds] at findsOther
    cases findsOther
    rfl

/-- What the source copies in front of a span. -/
theorem slice_kept {found : FoundSecret} {tail : List Char}
    (before : found.before = (found.plain.getLast?.or done.getLast?)) :
    Utf8.slice (done ++ found.plain ++ tail) (Utf8.size done)
        (startOf (done ++ found.plain)) =
      if found.overlaps then none else some found.kept := by
  have last : (done ++ found.plain).getLast? = found.before := by
    rw [List.getLast?_append, before]
  unfold startOf FoundSecret.overlaps FoundSecret.kept FoundSecret.isQuoted
  rw [last]
  cases quoted : found.before.any isQuote with
  | false =>
    simp only [Bool.false_eq_true, if_false, Bool.false_and]
    exact Utf8.slice_append
  | true =>
    obtain ⟨quote, isBefore, isQuote⟩ := (Option.any_eq_true _ _).mp quoted
    have one := utf8Size_of_isQuote isQuote
    rw [if_pos rfl, Bool.true_and, if_pos rfl]
    cases plain : found.plain using List.reverseRecOn with
    | nil =>
      rw [plain, List.append_nil] at last
      obtain ⟨others, rfl⟩ := List.getLast?_eq_some_iff.mp (last.trans isBefore)
      apply Utf8.slice_eq_none
      simp only [List.append_nil, Utf8.size_append, Utf8.size_cons,
        Utf8.size_nil]
      omega
    | append_singleton others char =>
      rw [plain, ← List.append_assoc, List.getLast?_concat, isBefore] at last
      obtain rfl : char = quote := Option.some.inj last
      have start : Utf8.size (done ++ (others ++ [char])) - 1 =
          Utf8.size (done ++ others) := by
        simp only [Utf8.size_append, Utf8.size_cons, Utf8.size_nil]
        omega
      have copied := @Utf8.slice_append done others ([char] ++ tail)
      rw [start, List.dropLast_concat, if_neg (by simp), ← copied]
      simp only [List.append_assoc]

theorem redactLabeledSecretsFrom_eq {fuel : Nat} {out : List Char}
    (fueled : rest.length < fuel) :
    redactLabeledSecretsFrom (done ++ rest) ((done ++ rest).map Char.toLower)
        fuel (Utf8.size done) (Utf8.size done) out =
      orPanic ((redactFrom done.getLast? rest).map (out ++ ·)) := by
  induction fuel generalizing done rest out with
  | zero => exact absurd fueled (Nat.not_lt_zero _)
  | succ fuel ih =>
    rw [redactLabeledSecretsFrom, nextLabeledSecretSpan_eq]
    cases finds : firstSecret done.getLast? rest with
    | none =>
      rw [redactFrom_of_absent finds]
      simp only [Option.map_none, Utf8.sliceFrom_append, bind, Except.bind]
      rfl
    | some found =>
      obtain ⟨split, nonempty, before, -⟩ := firstSecret_sound finds
      have shorter := firstSecret_length finds
      rw [redactFrom_of_found finds]
      have copied := @slice_kept done found (found.secret ++ found.rest) before
      have offset : offsetOf (done ++ rest) found.rest =
          Utf8.size (done ++ found.plain ++ found.secret) := by
        rw [split, ← List.append_assoc, ← List.append_assoc, offsetOf_append]
      have whole : done ++ rest =
          (done ++ found.plain ++ found.secret) ++ found.rest := by
        simp only [split, List.append_assoc]
      have source : done ++ found.plain ++ (found.secret ++ found.rest) =
          done ++ rest := by
        simp only [split, List.append_assoc]
      rw [source] at copied
      simp only [Option.map_some, bind, Except.bind, copied, offset]
      cases overlapping : found.overlaps with
      | true => rfl
      | false =>
        simp only [Bool.false_eq_true, if_false, orPanic]
        rw [whole, ih (by omega), List.getLast?_append_of_ne_nil _ nonempty,
          Option.map_map]
        simp only [Function.comp_def, List.append_assoc]
        rfl

/-- The first pass of the source reads assignments from left to right, and
panics where they overlap. -/
theorem redactLabeledSecrets_eq :
    redactLabeledSecrets input = orPanic (redactFrom none input) := by
  have start := @redactLabeledSecretsFrom_eq input [] (input.length + 1) []
    (Nat.lt_succ_self _)
  simpa [redactLabeledSecrets] using start

theorem redactSensitiveText_eq :
    redactSensitiveText input =
      orPanic ((redactFrom none input).map
        (redactTokens looksSensitiveToken)) := by
  rw [redactSensitiveText, redactSensitiveTextWith, redactLabeledSecrets_eq]
  cases redactFrom none input <;> rfl

/-- No label of a text is quoted by the quote that closed the secret before
it. -/
inductive Redactable : Option Char → List Char → Prop
  | plain {before : Option Char} {text : List Char}
      (absent : firstSecret before text = none) : Redactable before text
  | secret {before : Option Char} {text : List Char} {found : FoundSecret}
      (finds : firstSecret before text = some found)
      (apart : found.overlaps = false)
      (later : Redactable found.secret.getLast? found.rest) :
      Redactable before text

theorem redactable_iff :
    Redactable before text ↔ (redactFrom before text).isSome = true := by
  constructor
  · intro redactable
    induction redactable with
    | plain absent => rw [redactFrom_of_absent absent, Option.isSome_some]
    | secret finds apart _ inductionHypothesis =>
      rw [redactFrom_of_found finds, apart, if_neg Bool.false_ne_true,
        Option.isSome_map, inductionHypothesis]
  · fun_induction redactFrom before text with
    | case1 before text absent => exact fun _ => .plain absent
    | case2 before text found finds overlapping =>
      intro redacted
      cases redacted
    | case3 before text found finds apart inductionHypothesis =>
      intro redacted
      rw [Option.isSome_map] at redacted
      exact .secret finds (Bool.not_eq_true _ ▸ apart)
        (inductionHypothesis redacted)

/-- The source panics on the other texts. -/
theorem redactSensitiveText_eq_ok {output : List Char} :
    redactSensitiveText input = .ok output ↔
      Redactable none input ∧
        redactTokens looksSensitiveToken ((redactFrom none input).getD []) =
          output := by
  rw [redactSensitiveText_eq, redactable_iff]
  cases redactFrom none input with
  | none => simp [orPanic]
  | some contextual => simp [orPanic]

theorem any_getLast? {predicate : Char → Bool}
    (none : ∀ char ∈ text, predicate char = false) :
    text.getLast?.any predicate = false := by
  cases last : text.getLast? with
  | none => rfl
  | some char => exact none char (List.mem_of_getLast? last)

theorem redactable_of_unquoted (plainBefore : before.any isQuote = false)
    (plain : ∀ char ∈ text, isQuote char = false) :
    Redactable before text := by
  induction length : text.length using Nat.strong_induction_on
    generalizing before text with
  | _ length inductionHypothesis =>
    cases finds : firstSecret before text with
    | none => exact .plain finds
    | some found =>
      obtain ⟨split, nonempty, isBefore, -⟩ := firstSecret_sound finds
      have shorter := firstSecret_length finds
      rw [split] at plain
      have plainFound : found.before.any isQuote = false := by
        have unquoted := @any_getLast? found.plain isQuote fun char member =>
          plain char (by simp [member])
        rw [isBefore]
        cases last : found.plain.getLast? with
        | none => exact plainBefore
        | some char =>
          rw [last] at unquoted
          exact unquoted
      apply Redactable.secret finds
      · rw [FoundSecret.overlaps, FoundSecret.isQuoted, plainFound,
          Bool.false_and]
      · apply inductionHypothesis found.rest.length (length ▸ shorter) _ _ rfl
        · exact any_getLast? fun char member => plain char (by simp [member])
        · exact fun char member => plain char (by simp [member])

end Spotuify.Redaction
